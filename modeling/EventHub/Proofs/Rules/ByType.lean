import EventHub.Proofs.Discovery.Spare
import EventHub.Proofs.Rules.Reload

/-!
# Rules looked up by event type

The index gives the rules of an event type. A rule that names no type is in it under `*`, and so it is
found with those that name a type of that name.

* **Lookups** (`RuleBook.Sound.ofEventType_eq`): the rules that are found, out of all stored ones. They
  are those that name the type, unless the type is `*` and there are rules that name none
  (`RuleBook.listed_eq_naming_iff`).
* **Fields** (`allows_discoverFields`): fields that are discovered change no rule but the
  generated ones among those that are found.
* **Runs** (`RegistryRun.finds_naming`): both, after any calls of the registry.
-/

namespace EventHub

open EventHub.Task

variable {α : Type} {host : Host α} {h : Hub α}

/-! ## Lookups -/

namespace RuleBook

/-- The stored rules that name the event type, in the order of registration. -/
def naming (b : RuleBook) (t : String) : List Rule :=
  (Assoc.values b.rules).filter fun r => t ∈ r.eventTypes

/-- The stored rules that name the event type, and for `*` also those that name none, in the order of
registration. -/
def listed (b : RuleBook) (t : String) : List Rule :=
  (Assoc.values b.rules).filter fun r => t ∈ r.eventTypes ∨ (t = anyEventType ∧ r.eventTypes = [])

variable {b : RuleBook} {t : String} {r : Rule}

theorem mem_naming : r ∈ b.naming t ↔ r ∈ Assoc.values b.rules ∧ t ∈ r.eventTypes := by
  rw [naming, List.mem_filter, decide_eq_true_iff]

theorem mem_listed : r ∈ b.listed t ↔ r ∈ Assoc.values b.rules ∧
    (t ∈ r.eventTypes ∨ (t = anyEventType ∧ r.eventTypes = [])) := by
  rw [listed, List.mem_filter, decide_eq_true_iff]

theorem Sound.ofEventType_eq (hb : b.Sound) (t : String) : b.ofEventType t = b.listed t := by
  unfold ofEventType listed Assoc.values
  rw [List.filter_map]
  congr 1
  refine List.filter_congr fun ⟨id, r⟩ hmem => ?_
  have hstored : b.get? id = some r := hb.toKeyed.mem_iff.1 hmem
  rw [Bool.eq_iff_iff, List.contains_iff_mem, hb.indexed t id]
  simp [hstored, Rule.mem_indexTypes]

/-- What is listed names the type, unless the type is `*` and there are rules without types. -/
theorem listed_eq_naming_iff : b.listed t = b.naming t ↔
    t ≠ anyEventType ∨ ∀ r ∈ Assoc.values b.rules, r.eventTypes ≠ [] := by
  constructor
  · refine fun heq => or_iff_not_imp_left.2 fun hany r hr huntyped => ?_
    have hlisted : r ∈ b.listed t := mem_listed.2 ⟨hr, .inr ⟨not_not.1 hany, huntyped⟩⟩
    rw [heq, mem_naming, huntyped] at hlisted
    cases hlisted.2
  · intro h
    refine List.filter_congr fun r hr => ?_
    rw [decide_eq_decide]
    refine or_iff_left fun ⟨hany, huntyped⟩ => ?_
    obtain hne | htyped := h
    · exact hne hany
    · exact htyped r hr huntyped

end RuleBook

/-! ## Fields -/

/-- The frame in which books stay keyed and the rule of an id is left. -/
def Frame.besides (id : String) : Frame α where
  allows h h' := h.engine.book.Keyed →
    h'.engine.book.Keyed ∧ RuleBook.SameAt id h.engine.book h'.engine.book
  refl _ hb := ⟨hb, .rfl⟩
  trans h₁ h₂ hb :=
    have s₁ := h₁ hb
    have s₂ := h₂ s₁.1
    ⟨s₂.1, s₁.2.trans s₂.2⟩

theorem Frame.besides_free (id : String) : (Frame.besides (α := α) id).Free where
  log _ _ hb := ⟨hb, .rfl⟩
  effects _ _ hb := ⟨hb, .rfl⟩
  serial _ _ hb := ⟨hb, .rfl⟩
  cache _ _ hb := ⟨hb, .rfl⟩
  deskCounters _ _ _ _ _ hb := ⟨hb, .rfl⟩
  engineCounters _ _ _ _ _ hb := ⟨hb, .rfl⟩

theorem Frame.besides_openToEdits (id : String) :
    (Frame.besides (α := α) id).OpenToEdits (.besides id) where
  free := Frame.besides_free id
  edit _ _ he hb := ⟨hb.edit he, .edit hb he⟩

/-- Fields that are discovered are added to the generated rules that are found for the type, and no other
rule is changed by that, if those who are told of the updates leave it. -/
theorem allows_discoverFields {id : String} (ho : h.outages = []) {d : FieldsDiscovery}
    (hid : ∀ r ∈ h.engine.book.ofEventType d.eventType, r.metadata.autoGenerated = true →
      r.id.getD "" ≠ id)
    (ht : host.ReportsWithin (.besides id) Topic.ruleUpdated) :
    (Frame.besides id).allows h (outcome (discoverFields host (.fieldsDiscovery d)) h).2 := by
  have hrun : outcome (discoverFields host (.fieldsDiscovery d)) h =
      outcome (extendAll host d.eventType d.fieldNames
        (h.engine.book.ofEventType d.eventType)) h :=
    outcome_bind_ok (outcome_getRulesByEventType ho _)
  rw [hrun]
  exact within_extendGenerated (Frame.besides_openToEdits id) ht hid _ _ h

/-! ## Runs -/

/-- After any calls of the registry, looking up an event type gives the stored rules that name it, each once,
in the order of registration, and nothing is changed. Only under `*` rules that name no type are found
with them, if there are such. Fields that are discovered for a type change no rule but the generated ones
among those that are found, as long as whoever is told of the updates leaves the other rules alone. -/
theorem RegistryRun.finds_naming (hs : host.EditsWithin .unused)
    (hr : RegistryRun host .unused h) (ho : h.outages = []) :
    (∀ t, outcome (getRulesByEventType t) h = (.ok (h.engine.book.listed t), h) ∧
      ((h.engine.book.listed t).map (·.id)).Nodup ∧
      (h.engine.book.listed t = h.engine.book.naming t ↔
        t ≠ "*" ∨ ∀ r ∈ Assoc.values h.engine.book.rules, r.eventTypes ≠ [])) ∧
    ∀ (d : FieldsDiscovery) (id : String),
      (∀ r ∈ h.engine.book.listed d.eventType, r.metadata.autoGenerated = true → r.id ≠ some id) →
      host.ReportsWithin (.besides id) Topic.ruleUpdated →
      (outcome (discoverFields host (.fieldsDiscovery d)) h).2.engine.book.get? id =
        h.engine.book.get? id := by
  have hb := hr.sound hs
  refine ⟨fun t => ⟨?_, hb.nodup_filter _, RuleBook.listed_eq_naming_iff⟩, fun d id hid ht => ?_⟩
  · rw [outcome_getRulesByEventType ho, hb.ofEventType_eq]
  · refine ((allows_discoverFields ho (fun r hr hgenerated heq => ?_) ht) hb.toKeyed).2.rule
    -- The handler extends what the index lists, and the rule with this id is none of those.
    rw [hb.ofEventType_eq] at hr
    obtain ⟨⟨key, r⟩, hmem, rfl⟩ := List.mem_map.1 (List.mem_of_mem_filter hr)
    have hkey := hb.id key r hmem
    rw [hkey, Option.getD_some] at heq
    exact hid r hr hgenerated (hkey.trans (congrArg some heq))

/-- Generated rules for every event, for the type `*` and for two types, and one of a user. -/
def typedRules : List (Definition Rule) :=
  [.document (loggingRule "every" [] [("autoGenerated", .bool true)]),
    .document (loggingRule "star" [("eventType", .text "*")] [("autoGenerated", .bool true)]),
    .document (loggingRule "pair" [("eventType", .list [.text "a", .text "b"])]
      [("autoGenerated", .bool true)]),
    .document (loggingRule "own" [("eventType", .text "a")] [])]

/-- The hub after the rules were loaded. -/
def Hub.withTypedRules : Hub Unit :=
  (outcome ((RegistryCall.load typedRules).run .deaf) (Hub.atMidnight ())).2

/-- A field that is discovered for an event type. -/
def speedDiscovery (eventType : String) : FieldsDiscovery :=
  ⟨eventType, [⟨"speed", .int 80, "number"⟩], "2024-01-01T00:00:00"⟩

theorem RegistryRun.withTypedRules : RegistryRun .deaf .unused Hub.withTypedRules := by
  have heeds {id : String} {conditions metadata : Fields} (h : Hub Unit) :
      IdPolicy.unused.HeededBy (.document (loggingRule id conditions metadata)) h := fun r hr => by
    have hid : r.id = some id := Definition.id_of_toRule rfl hr
    exact ⟨fun _ _ => trivial, fun hn => by simp [hid] at hn⟩
  refine .call _ (.start rfl) ?_
  exact ⟨heeds _, fun _ h₁ _ => ⟨heeds h₁, fun _ h₂ _ => ⟨heeds h₂, fun _ h₃ _ =>
    ⟨heeds h₃, fun _ _ _ => trivial⟩⟩⟩⟩

theorem Host.deaf_editsWithin (p : IdPolicy) : Host.deaf.EditsWithin p := fun _ _ => Within.pure _

theorem RegistryRun.finds_naming_withTypedRules :
    (∃ rules, outcome (getRulesByEventType "a") Hub.withTypedRules =
        (.ok rules, Hub.withTypedRules) ∧
      rules = Hub.withTypedRules.engine.book.naming "a" ∧
      rules.map (·.id) = [some "pair", some "own"]) ∧
    (outcome (discoverFields .deaf (.fieldsDiscovery (speedDiscovery "a")))
        Hub.withTypedRules).2.engine.book.get? "own" =
      Hub.withTypedRules.engine.book.get? "own" := by
  obtain ⟨hlookup, hfields⟩ := RegistryRun.finds_naming (Host.deaf_editsWithin _)
    RegistryRun.withTypedRules (by decide +kernel)
  obtain ⟨hrun, -, hnaming⟩ := hlookup "a"
  refine ⟨⟨_, hrun, hnaming.2 (.inl (by decide)), by decide +kernel⟩,
    hfields _ _ (fun r hr hgenerated hid => ?_)
      (Host.deaf_tellsWithin (Frame.besides_free _) _).reports⟩
  have hkept : ∀ r ∈ Hub.withTypedRules.engine.book.listed "a",
      r.metadata.autoGenerated = true → r.id ≠ some "own" := by decide +kernel
  exact hkept r hr hgenerated hid

/-- Under `*` a rule is found that names no type, and fields that are discovered for the type `*` are added
to it. -/
theorem RegistryRun.star_finds_untyped :
    RegistryRun .deaf .unused Hub.withTypedRules ∧
    (Hub.withTypedRules.engine.book.naming "*").map (·.id) = [some "star"] ∧
    (∃ rules, outcome (getRulesByEventType "*") Hub.withTypedRules =
        (.ok rules, Hub.withTypedRules) ∧ rules.map (·.id) = [some "every", some "star"]) ∧
    (Hub.withTypedRules.engine.book.get? "every").map
        (fun r => (r.eventTypes, r.metadata.discoveredFields)) = some ([], []) ∧
    ((outcome (discoverFields .deaf (.fieldsDiscovery (speedDiscovery "*")))
        Hub.withTypedRules).2.engine.book.get? "every").map
        (fun r => (r.eventTypes, r.metadata.discoveredFields)) = some ([], ["speed"]) := by
  have ho : Hub.withTypedRules.outages = [] := by decide +kernel
  exact ⟨RegistryRun.withTypedRules, by decide +kernel,
    ⟨_, outcome_getRulesByEventType ho "*", by decide +kernel⟩, by decide +kernel,
    by decide +kernel⟩

end EventHub
