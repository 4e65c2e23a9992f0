import EventHub.Proofs.Record.Flow
import EventHub.Proofs.Rules.Portable
import EventHub.Proofs.Rules.Selection

/-!
# Rules exported and loaded again

The documents of the rules that JSON made, loaded into an engine without rules, give the same rules
in the same order, except for the times in their metadata (`Rule.untimed`).

* **Loading** (`registerAll_documents`): each document is registered as the rule that it came from.
* **Selection** (`RuleBook.scan_ids_congr`): books of the same rules select the same ids for an
  event, whatever the functions of the application answer and whatever id the event is given.
* **Round trip** (`JsonRun.export_load`): from both.
-/

namespace EventHub

open EventHub.Task

variable {α β : Type} {host : Host α}

/-! ## Rules without their times -/

/-- The rule without the times of its registration and its last update. -/
def Rule.untimed (r : Rule) : Rule :=
  { r with metadata := { r.metadata with createdAt := "", updatedAt := "" } }

/-- The rule as it is registered at a time. -/
def Rule.timedAt (r : Rule) (now : String) : Rule :=
  { r with metadata := { r.metadata with createdAt := now, updatedAt := now } }

/-- The stored rules without their times, with their ids and in their order. -/
def RuleBook.untimed (b : RuleBook) : List (String × Rule) :=
  b.rules.map fun e => (e.1, e.2.untimed)

theorem Rule.Plain.timedAt {r : Rule} (hr : r.Plain) (now : String) : (r.timedAt now).Plain :=
  ⟨hr.name, hr.conditions, hr.actions, hr.calls⟩

/-! ## Loading -/

/-- The frame in which the rules stay as they are, and so does what is out of order. -/
def Frame.rulesAtRest : Frame α := .ofPart fun h => (h.engine.book, h.outages)

theorem Frame.rulesAtRest_free : (Frame.rulesAtRest (α := α)).Free where
  log _ _ := rfl
  effects _ _ := rfl
  serial _ _ := rfl
  cache _ _ := rfl
  deskCounters _ _ _ _ _ := rfl
  engineCounters _ _ _ _ _ := rfl

theorem outcome_exportRules {h : Hub α} (ho : h.outages = []) : outcome exportRules h =
    (.ok ((Assoc.values h.engine.book.rules).map fun r => r.toValue.document), h) := by
  unfold exportRules
  rw [outcome_bind_ok (outcome_engineOperation_ok ho), outcome_bind_ok (outcome_get h)]
  rfl

/-- The document of a rule with a new id registers the rule under that id. -/
theorem outcome_register_document (ht : host.TellsWithin .rulesAtRest Topic.ruleRegistered)
    {r : Rule} {id : String} (hr : r.Plain) (hid : r.id = some id) {h : Hub α}
    (ho : h.outages = []) (hnew : h.engine.book.get? id = none) :
    ∃ h', outcome (registerRule host (.document r.toValue.document)) h = (.ok id, h') ∧
      h'.outages = [] ∧ h'.engine.book = h.engine.book.insert id (r.timedAt h.now.text) := by
  have hmade : (Definition.document r.toValue.document).toRule h.now.text = .ok r := by
    have hcheck := Rule.check_write .document h.now.text hr
    rw [Rule.toValue, Form.write_record] at hcheck
    have hwritten : r.toValue.document = .map (Form.document.entries .rule _) :=
      Form.write_record .document _ _
    rw [hwritten]
    exact Definition.toRule_document_eq_ok.2 hcheck
  have hdone : h.engine.book.register h.now.text (h.drawnRuleId r) r =
      .ok (id, r.timedAt h.now.text, h.engine.book.insert id (r.timedAt h.now.text)) := by
    have hhas : Assoc.has h.engine.book.rules id = false := by
      rw [Assoc.has, ← RuleBook.get?, hnew]
      rfl
    simp [RuleBook.register, hid, hhas, Rule.timedAt]
  obtain ⟨lines, hrun⟩ := outcome_registerRule host ho hmade hdone
  have hundrawn : h.afterDraw r = h := by simp [Hub.afterDraw, RuleBook.needsId, hid]
  rw [hundrawn] at hrun
  -- Those who are told of the rule leave the book and the outages as registering left them.
  have hrest := within_emit Frame.rulesAtRest_free.openToActions.openToTraces ht.reports h.engine.outlet
    (Notice.events_rule (r.timedAt h.now.text))
    { h.withRules (h.engine.book.insert id (r.timedAt h.now.text)) with log := lines }
  obtain ⟨hbook, hout⟩ := Prod.mk.inj hrest
  exact ⟨_, hrun, hout.trans ho, hbook⟩

/-- The documents of plain rules with distinct ids, none of them in use, register the rules in
order. -/
theorem registerAll_documents (ht : host.TellsWithin .rulesAtRest Topic.ruleRegistered)
    {entries : List (String × Rule)} (hd : (Assoc.keys entries).Nodup)
    (hid : ∀ id r, (id, r) ∈ entries → r.id = some id)
    (hplain : ∀ id r, (id, r) ∈ entries → r.Plain) {h : Hub α} (ho : h.outages = [])
    (hnew : ∀ id ∈ Assoc.keys entries, h.engine.book.get? id = none)
    (hb : h.engine.book.Portable) :
    ∃ h', outcome (registerAll host (entries.map fun e => .document e.2.toValue.document)) h =
        (.ok (Assoc.keys entries), h') ∧
      h'.outages = [] ∧ h'.engine.book.Portable ∧ h'.engine.book.untimed =
        h.engine.book.untimed ++ entries.map fun e => (e.1, e.2.untimed) := by
  induction entries generalizing h with
  | nil => exact ⟨h, rfl, ho, hb, by simp⟩
  | cons e rest ih =>
    obtain ⟨id, r⟩ := e
    obtain ⟨hfresh, hrest⟩ := List.nodup_cons.1 hd
    have hr := hplain id r List.mem_cons_self
    have hget := hnew id List.mem_cons_self
    have hnamed := hid id r List.mem_cons_self
    obtain ⟨h₁, hone, ho₁, hbook⟩ := outcome_register_document ht hr hnamed ho hget
    -- The first rule is stored at the end, so the book stays portable and the other ids stay free.
    have hb₁ : h₁.engine.book.Portable := by
      have hnamed' : (r.timedAt h.now.text).id = some id := hnamed
      rw [hbook]
      exact hb.insert hnamed' (hr.timedAt _)
    have hnew₁ : ∀ id' ∈ Assoc.keys rest, h₁.engine.book.get? id' = none := fun id' hm => by
      have hne : id ≠ id' := fun he => hfresh (he ▸ hm)
      rw [hbook, RuleBook.get?_insert]
      simpa [hne] using hnew id' (List.mem_cons_of_mem id hm)
    obtain ⟨h₂, hall, ho₂, hb₂, huntimed⟩ := ih hrest
      (fun id' r' hm => hid id' r' (List.mem_cons_of_mem _ hm))
      (fun id' r' hm => hplain id' r' (List.mem_cons_of_mem _ hm)) ho₁ hnew₁ hb₁
    have hput : h₁.engine.book.rules = h.engine.book.rules ++ [(id, r.timedAt h.now.text)] := by
      rw [hbook]
      exact Assoc.put_of_get?_eq_none hget _
    refine ⟨h₂, ?_, ho₂, hb₂, ?_⟩
    · rw [List.map_cons, registerAll, outcome_bind_ok hone, outcome_bind_ok hall]
      rfl
    · rw [huntimed, RuleBook.untimed, RuleBook.untimed, hput]
      simp [Rule.untimed, Rule.timedAt]

/-- Loading registers the definitions and logs how many there were. -/
theorem outcome_loadRules {definitions : List (Definition Rule)} {ids : List String} {h h₁ : Hub α}
    (ho : h.outages = []) (hall : outcome (registerAll host definitions) h = (.ok ids, h₁)) :
    ∃ lines, outcome (loadRules host definitions) h = (.ok ids, { h₁ with log := lines }) := by
  unfold loadRules
  rw [outcome_bind_ok (outcome_engineOperation_ok ho), outcome_bind_ok hall,
    outcome_bind_ok (outcome_log rfl _ _ _)]
  exact ⟨_, rfl⟩

/-! ## Selection -/

/-- A plain rule is selected by what the event is, whatever its id and whatever functions answer. -/
theorem Rule.Plain.selects_congr {r : Rule} (hr : r.Plain)
    (ask ask' : String → Value → Except Fault Value) (e : Event) (id : String) :
    r.selects ask e = r.selects ask' { e with id } := by
  unfold Rule.selects
  cases hc : r.conditions with
  | none => rfl
  | some c =>
    have hcustom := (hr.conditions c hc).custom
    have hsame : matchesEvent ask (some c) e = matchesEvent ask' (some c) { e with id } := by
      simp only [matchesEvent, RuleConditions.matchesEvent, hcustom]
      rfl
    rw [hsame]

/-- The rules that a scan selects, without their times, are those that it selects among the rules
without their times. -/
theorem RuleBook.scan_untimed (ask : String → Value → Except Fault Value) (e : Event)
    (b : RuleBook) : (b.scan ask e).map Rule.untimed =
      (b.untimed.map (·.2)).filter fun r => r.metadata.enabled && r.selects ask e := by
  unfold scan untimed Assoc.values
  rw [List.map_map, List.filter_map, List.filter_map, List.map_map]
  rfl

theorem Rule.Plain.untimed {r : Rule} (hr : r.Plain) : r.untimed.Plain :=
  ⟨hr.name, hr.conditions, hr.actions, hr.calls⟩

/-- Books of the same rules select the same ids in the same order. -/
theorem RuleBook.scan_ids_congr {b b' : RuleBook} (hb : b.Portable) (h : b'.untimed = b.untimed)
    (ask ask' : String → Value → Except Fault Value) (e : Event) (id : String) :
    (b'.scan ask' { e with id }).map (·.id) = (b.scan ask e).map (·.id) := by
  have hscan : (b'.scan ask' { e with id }).map Rule.untimed = (b.scan ask e).map Rule.untimed := by
    rw [scan_untimed, scan_untimed, h]
    refine List.filter_congr fun r hm => ?_
    obtain ⟨entry, hentry, rfl⟩ := List.mem_map.1 hm
    obtain ⟨stored, hstored, rfl⟩ := List.mem_map.1 hentry
    rw [← (hb.plain _ _ hstored).untimed.selects_congr ask ask' e id]
  have hids (rules : List Rule) : (rules.map Rule.untimed).map (·.id) = rules.map (·.id) := by
    rw [List.map_map]
    rfl
  rw [← hids, hscan, hids]

/-! ## Events -/

/-- Entries that describe an event describe the same one under any fresh id, except for the id. -/
theorem Event.check_elsewhere {fresh : String} {fields : Fields} {e : Event}
    (h : Event.check fresh (.map fields) = .ok e) (fresh' : String) :
    ∃ id, Event.check fresh' (.map fields) = .ok { e with id } := by
  obtain ⟨hid, hrest⟩ := Event.ofFields_eq_ok.1 h
  unfold defaulted at hid
  cases hf : field fields "id" with
  | none => exact ⟨fresh', Event.ofFields_eq_ok.2 ⟨by rw [defaulted, hf], hrest⟩⟩
  | some given =>
    rw [hf] at hid
    exact ⟨e.id, Event.ofFields_eq_ok.2 ⟨by rw [defaulted, hf]; exact hid, hrest⟩⟩

theorem eventOfFields_eq_ok {fresh : String} {fields : Fields} {e : Event} :
    eventOfFields fresh fields = .ok e ↔ Event.check fresh (.map fields) = .ok e := by
  unfold eventOfFields
  cases Event.check fresh (.map fields) <;> simp

/-- A document with all that it needs is an event or not, under the id that it draws if any. -/
theorem outcome_normalizeEvent_document {v : Value} {fields : Fields}
    (hv : rawEventFields v = .ok fields) (h : Hub α) :
    ∃ fresh h', outcome (normalizeEvent (.document v)) h = (eventOfFields fresh fields, h') := by
  unfold normalizeEvent
  rw [outcome_bind, outcome_ofExcept, hv]
  dsimp only
  split
  · obtain ⟨fresh, h', hdrawn⟩ : ∃ fresh h', outcome (Task.freshId "event") h = (.ok fresh, h') :=
      ⟨_, _, rfl⟩
    exact ⟨fresh, h', by rw [outcome_bind_ok hdrawn, outcome_ofExcept]⟩
  · exact ⟨"", h, by rw [outcome_bind_ok (outcome_pure _ h), outcome_ofExcept]⟩

/-- An event that is valid at one hub is the same at another, except for the id that it draws. -/
theorem outcome_normalizeEvent_elsewhere {raw : Definition Event} {e : Event} {h h₁ : Hub α}
    (hn : outcome (normalizeEvent raw) h = (.ok e, h₁)) (g : Hub β) :
    ∃ id g₁, outcome (normalizeEvent raw) g = (.ok { e with id }, g₁) := by
  cases raw with
  | checked given =>
    cases hn
    exact ⟨e.id, g, rfl⟩
  | document v =>
    cases hv : rawEventFields v with
    | error fault =>
      rw [normalizeEvent, outcome_bind, outcome_ofExcept, hv] at hn
      cases hn
    | ok fields =>
      obtain ⟨fresh, h', hh⟩ := outcome_normalizeEvent_document hv h
      obtain ⟨fresh', g', hg⟩ := outcome_normalizeEvent_document hv g
      have hmade := (Prod.mk.inj (hh.symm.trans hn)).1
      obtain ⟨id, he⟩ := Event.check_elsewhere (eventOfFields_eq_ok.1 hmade) fresh'
      exact ⟨id, g', by rw [hg, eventOfFields_eq_ok.2 he]⟩

/-! ## Round trip -/

/-- Let calls of the registry with JSON lead to a hub. The documents that it exports, loaded into an
engine without rules, register the same ids in the same order and the same rules, except for the
times of their registration and last update; and every event that is valid matches, and so runs,
rules of the same ids in the same order in both engines. -/
theorem JsonRun.export_load {host' : Host β} {h : Hub α} {g : Hub β}
    (ht : host.EditsWithJson) (hr : JsonRun host h) (hk : host.KeepsOrder) (ho : h.outages = [])
    (empty : g.engine.book = .empty) (go : g.outages = []) (hk' : host'.KeepsOrder)
    (hrest : host'.TellsWithin .rulesAtRest Topic.ruleRegistered) :
    ∃ documents g', outcome exportRules h = (.ok documents, h) ∧
      outcome (loadRules host' (documents.map .document)) g =
        (.ok (Assoc.keys h.engine.book.rules), g') ∧
      g'.engine.book.untimed = h.engine.book.untimed ∧
      ∀ raw e h₁ ctx ctx', outcome (normalizeEvent raw) h = (.ok e, h₁) →
        ∃ runs h₂ runs' g₂, outcome (processEvent host raw ctx) h = (.ok runs, h₂) ∧
          outcome (processEvent host' raw ctx') g' = (.ok runs', g₂) ∧
          runs'.map (·.ruleId) = runs.map (·.ruleId) := by
  -- The book that is exported is portable: its rules are plain and covered by the index.
  have hb := hr.portable ht
  have hnone : ∀ id ∈ Assoc.keys h.engine.book.rules, g.engine.book.get? id = none := by
    rw [empty]
    exact fun _ _ => rfl
  obtain ⟨g₁, hall, go₁, hb₁, huntimed⟩ := registerAll_documents hrest hb.distinct hb.id hb.plain go
    hnone (empty ▸ .empty)
  rw [empty] at huntimed
  have hsame : g₁.engine.book.untimed = h.engine.book.untimed := huntimed
  obtain ⟨lines, hload⟩ := outcome_loadRules go hall
  have hdocuments : (((Assoc.values h.engine.book.rules).map fun r => r.toValue.document).map
      Definition.document : List (Definition Rule)) =
      h.engine.book.rules.map fun e => .document e.2.toValue.document := by
    rw [Assoc.values, List.map_map, List.map_map]
    rfl
  refine ⟨_, { g₁ with log := lines }, outcome_exportRules ho, by rw [hdocuments, hload], hsame,
    fun raw e h₁ ctx ctx' hn => ?_⟩
  -- At the other hub the event may be given another id, which no rule asks about.
  obtain ⟨id, g₂, hn'⟩ := outcome_normalizeEvent_elsewhere hn { g₁ with log := lines }
  obtain ⟨_, runs, h₂, hrun, hends⟩ := outcome_processEvent hk ho hb.covered hn ctx
  obtain ⟨_, runs', g₃, hrun', hends'⟩ := outcome_processEvent hk'
    (h := { g₁ with log := lines }) go₁ hb₁.covered hn' ctx'
  refine ⟨runs, h₂, runs', g₃, hrun, hrun', ?_⟩
  -- Both select by the same scan of the same rules, since what differs are times of registration.
  have hscan := RuleBook.scan_ids_congr hb hsame host.app.ask host'.app.ask e id
  have hnames (rules : List Rule) :
      rules.map (·.id.getD "") = (rules.map (·.id)).map (·.getD "") := by
    rw [List.map_map]
    rfl
  rw [RuleRun.ids_of_isOf hends.isOf, RuleRun.ids_of_isOf hends'.isOf, hnames, hnames, ← hscan]

/-- A host whose functions answer nothing and whose receivers do nothing. -/
def Host.deaf : Host Unit := ⟨.silent, fun _ _ => return ()⟩

theorem Host.deaf_tellsWithin {F : Frame Unit} (hF : F.Free) (topic : String) :
    Host.deaf.TellsWithin F topic :=
  Host.TellsWithin.of_receive hF (fun _ _ => Within.pure _) topic

theorem Host.deaf_keepsOrder : Host.deaf.KeepsOrder :=
  ⟨fun _ _ _ => Within.pure _, fun _ _ => Within.pure _⟩

/-- A rule for two types whose data has to be null, and one for every event. -/
def twoRules : List (Definition Rule) :=
  [.document (loggingRule "pair" [("eventType", .list [.text "a", .text "b"]), ("source", .null),
      ("data", .map [("level", .null)])] [("priority", .int 3)]),
    .document (loggingRule "every" [] [("category", .text "all")])]

/-- The hub after the two rules were loaded and the second was disabled. -/
def Hub.withTwoRules : Hub Unit :=
  let loaded := outcome ((RegistryCall.load twoRules).run .deaf) (Hub.atMidnight ())
  (outcome ((RegistryCall.setEnabled "every" (.bool false)).run .deaf) loaded.2).2

theorem JsonRun.withTwoRules : JsonRun .deaf Hub.withTwoRules := by
  refine .call _ (.call _ (.start rfl) fun d hd => ?_) (Value.isJson_bool false)
  obtain rfl | rfl : d = _ ∨ d = _ := by simpa [twoRules] using hd
  all_goals
    change Value.isJsonFields _ = true
    decide

theorem JsonRun.export_load_withTwoRules :
    Assoc.keys Hub.withTwoRules.engine.book.rules = ["pair", "every"] ∧
    ∃ documents g', outcome exportRules Hub.withTwoRules = (.ok documents, Hub.withTwoRules) ∧
      outcome (loadRules .deaf (documents.map .document)) (Hub.atMidnight ()) =
        (.ok (Assoc.keys Hub.withTwoRules.engine.book.rules), g') ∧
      g'.engine.book.untimed = Hub.withTwoRules.engine.book.untimed := by
  refine ⟨by decide +kernel, ?_⟩
  obtain ⟨documents, g', hexport, hload, hsame, -⟩ := JsonRun.export_load
    (fun topic _ => Host.deaf_tellsWithin Frame.ofJsonEdits_free topic) JsonRun.withTwoRules
    Host.deaf_keepsOrder (by decide +kernel) (g := Hub.atMidnight ()) rfl rfl Host.deaf_keepsOrder
    (Host.deaf_tellsWithin Frame.rulesAtRest_free _)
  exact ⟨documents, g', hexport, hload, hsame⟩

end EventHub
