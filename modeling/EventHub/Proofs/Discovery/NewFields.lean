import EventHub.Discovery.Synthesis
import EventHub.Proofs.Assoc
import EventHub.Proofs.Record.RoundTrip
import EventHub.Proofs.Rules.Index
import EventHub.Proofs.Value.Json
import Mathlib.Data.List.Nodup

/-!
# Recording new fields

The fields that are discovered for an event type are recorded in a rule in two places: in its metadata, and
in what its first log action logs, if one has a place for them.

* **Names** (`unlisted`, `appendUnique_eq_append`): those that a list lacks are appended to it, in order
  and each once.
* **Log actions** (`ActionInvocation.logData?`, `recordInLog_of_logData?`): an action has a place for names
  if its data is a map or not given.
* **Actions** (`RecordedIn`): the names are recorded in the first action that has a place for them.
* **Rules** (`mergeNewFields_cases`): there is an update exactly if either place lacks a name.
-/

namespace EventHub

/-! ## Names -/

/-- The names that are not among those that are known, in order and each once. -/
def unlisted (known names : List String) : List String := (names.filter (· ∉ known)).eraseDups

section Unlisted

variable {known names : List String} {name : String}

@[simp]
theorem unlisted_nil (known : List String) : unlisted known [] = [] := rfl

theorem unlisted_cons (known names : List String) (name : String) : unlisted known (name :: names) =
    if name ∈ known then unlisted known names else name :: unlisted (known ++ [name]) names := by
  unfold unlisted
  split
  · rename_i h
    rw [List.filter_cons_of_neg (by simpa using h)]
  · rename_i h
    rw [List.filter_cons_of_pos (by simpa using h), List.eraseDups_cons, List.filter_filter]
    congr 2
    refine List.filter_congr fun other _ => ?_
    simp [beq_eq_decide, and_comm]

theorem mem_unlisted : name ∈ unlisted known names ↔ name ∈ names ∧ name ∉ known := by
  simp [unlisted]

theorem unlisted_of_nodup (h : (known ++ names).Nodup) : unlisted known names = names := by
  induction names generalizing known with
  | nil => rfl
  | cons name rest ih =>
    have hnew : name ∉ known := by grind
    rw [unlisted_cons, if_neg hnew, ih (by simpa using h)]

end Unlisted

/-- The texts among the values. -/
def textsOf : List Value → List String
  | [] => []
  | .text s :: rest => s :: textsOf rest
  | _ :: rest => textsOf rest

/-- The values with the names that are not among them appended. -/
def withUnlisted (values : List Value) (names : List String) : List Value :=
  values ++ (unlisted (textsOf values) names).map .text

theorem textsOf_append (values others : List Value) :
    textsOf (values ++ others) = textsOf values ++ textsOf others := by
  induction values using textsOf.induct with
  | case1 => rfl
  | case2 s rest ih => simp [textsOf, ih]
  | case3 v rest hv ih => simp [textsOf, ih]

@[simp]
theorem textsOf_texts (names : List String) : textsOf (names.map .text) = names := by
  induction names with
  | nil => rfl
  | cons name rest ih => rw [List.map_cons, textsOf, ih]

theorem any_same_text (values : List Value) (name : String) :
    values.any (fun v => v.same (.text name)) = decide (name ∈ textsOf values) := by
  induction values using textsOf.induct with
  | case1 => rfl
  | case2 s rest ih => simp [textsOf, ih, Value.same, beq_eq_decide, eq_comm]
  | case3 v rest hv ih =>
    have hother : v.same (.text name) = false := by
      cases v <;> simp_all [Value.same, Value.magnitude?]
    rw [List.any_cons, hother, ih]
    simp [textsOf]

theorem appendUnique_eq_append (values : List Value) (names : List String) :
    appendUnique values names = withUnlisted values names := by
  induction names generalizing values with
  | nil => simp [appendUnique, withUnlisted]
  | cons name rest ih =>
    rw [appendUnique, any_same_text, withUnlisted, unlisted_cons]
    by_cases h : name ∈ textsOf values
    · simp [h, ih, withUnlisted]
    · have htexts : textsOf (values ++ [.text name]) = textsOf values ++ [name] := by
        rw [textsOf_append]
        rfl
      simp [h, ih, withUnlisted, htexts]

/-! ## Log actions -/

/-- The data that an action logs, if it is a log action whose data is a map or not given. -/
def ActionInvocation.logData? (a : ActionInvocation) : Option Fields :=
  if a.type = "log_event" then
    match Assoc.get? a.parameters "data" with
    | none => some []
    | some (.map data) => some data
    | some _ => none
  else none

/-- The names that are recorded in the data of a log action. -/
def recordedIn (data : Fields) : List Value :=
  match Assoc.get? data "new_fields" with
  | some (.list names) => names
  | _ => []

/-- The names that are not recorded in the data of a log action. -/
def unlistedIn (data : Fields) (names : List String) : List String :=
  unlisted (textsOf (recordedIn data)) names

/-- The data with the names recorded. -/
def recording (data : Fields) (names : List String) : Fields :=
  Assoc.put data "new_fields" (.list (withUnlisted (recordedIn data) names))

/-- Is the value a list? -/
def Value.isList : Value → Bool
  | .list _ => true
  | _ => false

/-- What the data names as new is a list, if it names any. -/
def ListsNew (data : Fields) : Prop := ∀ v ∈ Assoc.get? data "new_fields", v.isList = true

instance (data : Fields) : Decidable (ListsNew data) :=
  inferInstanceAs (Decidable (∀ v ∈ Assoc.get? data "new_fields", v.isList = true))

section Log

variable {a : ActionInvocation} {data : Fields} {names : List String}

theorem logData?_eq_some : a.logData? = some data ↔ a.type = "log_event" ∧
    (Assoc.get? a.parameters "data" = none ∧ data = [] ∨
      Assoc.get? a.parameters "data" = some (.map data)) := by
  unfold ActionInvocation.logData?
  grind

theorem recordedIn_recording (data : Fields) (names : List String) :
    recordedIn (recording data names) = withUnlisted (recordedIn data) names := by
  unfold recording
  generalize withUnlisted (recordedIn data) names = values
  rw [recordedIn, Assoc.get?_put_self]

/-- A place that lacks none of the names, if there are any, is a list of data that is given. -/
theorem get?_of_unlistedIn (hn : names ≠ []) (h : unlistedIn data names = []) :
    Assoc.get? data "new_fields" = some (.list (recordedIn data)) := by
  unfold unlistedIn at h
  unfold recordedIn at h ⊢
  split
  · assumption
  · rename_i hnone
    obtain ⟨name, hm⟩ := List.exists_mem_of_ne_nil names hn
    have hnew : name ∈ unlisted [] names := mem_unlisted.2 ⟨hm, List.not_mem_nil⟩
    split at h
    · rename_i items hitems
      exact (hnone items hitems).elim
    · rw [textsOf] at h
      rw [h] at hnew
      cases hnew

theorem recordInLog_of_logData? (ha : a.logData? = some data) (hd : ListsNew data) (names : List String) :
    recordInLog a.parameters names = .ok (some (!(unlistedIn data names).isEmpty,
      Assoc.put a.parameters "data" (.map (recording data names)))) := by
  have hdata : (Assoc.get? a.parameters "data").getD (.map []) = .map data := by
    obtain ⟨-, ⟨hnone, rfl⟩ | hgiven⟩ := logData?_eq_some.1 ha
    · rw [hnone, Option.getD_none]
    · rw [hgiven, Option.getD_some]
  have hlogged : (if (Value.get data "new_fields").truthy then Value.get data "new_fields"
      else .list []).toList = .ok (recordedIn data) := by
    unfold recordedIn Value.get
    cases hg : Assoc.get? data "new_fields" with
    | none => rfl
    | some v =>
      have hlist := hd v hg
      cases v with
      | list items => cases items <;> rfl
      | _ => cases hlist
  have hchanged : ((withUnlisted (recordedIn data) names).length != (recordedIn data).length) =
      !(unlistedIn data names).isEmpty := by
    rw [withUnlisted, unlistedIn]
    cases unlisted (textsOf (recordedIn data)) names <;> simp
  unfold recordInLog
  rw [hdata]
  dsimp only
  rw [hlogged]
  dsimp only [bind, Except.bind]
  rw [appendUnique_eq_append, hchanged, recording]

theorem recordInLog_of_none (htype : a.type = "log_event") (ha : a.logData? = none) :
    recordInLog a.parameters names = .ok none := by
  unfold ActionInvocation.logData? at ha
  unfold recordInLog
  rw [if_pos htype] at ha
  split at ha
  · cases ha
  · cases ha
  · rename_i v hv hdata
    rw [hdata]
    cases v with
    | map fields => exact (hv fields rfl).elim
    | _ => rfl

end Log

/-! ## Actions -/

/-- The action with the names recorded in its data. -/
def ActionInvocation.record (a : ActionInvocation) (data : Fields) (names : List String) :
    ActionInvocation :=
  if unlistedIn data names = [] then a
  else { a with parameters := Assoc.put a.parameters "data" (.map (recording data names)) }

/-- The actions with the names recorded in the first that has a place for them. -/
inductive RecordedIn (names : List String) : List ActionInvocation → List ActionInvocation → Prop
  | nil : RecordedIn names [] []
  | first {a : ActionInvocation} {rest : List ActionInvocation} {data : Fields}
    (place : a.logData? = some data) : RecordedIn names (a :: rest) (a.record data names :: rest)
  | later {a : ActionInvocation} {rest rest' : List ActionInvocation} (noPlace : a.logData? = none)
    (more : RecordedIn names rest rest') : RecordedIn names (a :: rest) (a :: rest')

/-- The names that the first place for them lacks, if there is one. -/
def unrecorded (names : List String) (actions : List ActionInvocation) : List String :=
  (actions.findSome? (·.logData?)).elim [] fun data => unlistedIn data names

section Actions

variable {a : ActionInvocation} {actions actions' : List ActionInvocation} {data : Fields}
  {names : List String}

/-- Data that lacks no name stays as it is, unless there are no names at all. -/
theorem record_eq (ha : a.logData? = some data) (hn : names ≠ []) : a.record data names =
    { a with parameters := Assoc.put a.parameters "data" (.map (recording data names)) } := by
  unfold ActionInvocation.record
  split
  · rename_i h
    have hlisted := get?_of_unlistedIn hn h
    have hgiven : Assoc.get? a.parameters "data" = some (.map data) := by
      obtain ⟨-, ⟨-, rfl⟩ | hgiven⟩ := logData?_eq_some.1 ha
      · cases hlisted
      · exact hgiven
    have hsame : recording data names = data := by
      rw [unlistedIn] at h
      rw [recording, withUnlisted, h, List.map_nil, List.append_nil]
      exact Assoc.put_of_get? hlisted
    rw [hsame, Assoc.put_of_get? hgiven]
  · rfl

theorem recordInActions_eq (hd : ∀ a ∈ actions, ∀ data ∈ a.logData?, ListsNew data)
    (names : List String) :
    ∃ actions', recordInActions names actions = .ok (!(unrecorded names actions).isEmpty, actions') ∧
      (names ≠ [] → RecordedIn names actions actions') := by
  induction actions with
  | nil => exact ⟨[], rfl, fun _ => .nil⟩
  | cons a rest ih =>
    obtain ⟨rest', hrest, hrecorded⟩ := ih fun b hb => hd b (List.mem_cons_of_mem a hb)
    unfold recordInActions
    -- The first action that has a place for the fields takes them, and those behind it stay.
    cases ha : a.logData? with
    | none =>
      have hsame : unrecorded names (a :: rest) = unrecorded names rest := by
        rw [unrecorded, List.findSome?_cons, ha, unrecorded]
      refine ⟨a :: rest', ?_, fun hn => .later ha (hrecorded hn)⟩
      rw [hsame, hrest]
      by_cases htype : a.type = "log_event"
      · simp [htype, recordInLog_of_none htype ha, bind, Except.bind]
      · simp [htype, bind, Except.bind]
    | some data =>
      have hplace : unrecorded names (a :: rest) = unlistedIn data names := by
        rw [unrecorded, List.findSome?_cons, ha]
        rfl
      have hlog := recordInLog_of_logData? ha (hd a List.mem_cons_self data ha) names
      refine ⟨{ a with parameters := Assoc.put a.parameters "data" (.map (recording data names)) } :: rest,
        ?_, fun hn => ?_⟩
      · rw [hplace, hlog]
        simp [(logData?_eq_some.1 ha).1, bind, Except.bind]
      · rw [← record_eq ha hn]
        exact .first ha

/-- What is in the place of data after recording. -/
theorem logData?_record (ha : a.logData? = some data) (names : List String) :
    ∃ data', (a.record data names).logData? = some data' ∧
      recordedIn data' = withUnlisted (recordedIn data) names ∧ (ListsNew data → ListsNew data') := by
  unfold ActionInvocation.record
  split
  · rename_i h
    rw [unlistedIn] at h
    exact ⟨data, ha, by rw [withUnlisted, h, List.map_nil, List.append_nil], id⟩
  · refine ⟨recording data names, logData?_eq_some.2 ⟨(logData?_eq_some.1 ha).1, .inr ?_⟩,
      recordedIn_recording data names, fun _ v hv => ?_⟩
    · exact Assoc.get?_put_self _ _ _
    · rw [recording, Assoc.get?_put_self] at hv
      exact (Option.some.inj hv) ▸ rfl

theorem isJson_record (ha : a.logData? = some data) (hj : Value.isJsonFields a.parameters = true)
    (names : List String) : Value.isJsonFields (a.record data names).parameters = true := by
  have hdata : Value.isJsonFields data = true := by
    obtain ⟨-, ⟨-, rfl⟩ | hgiven⟩ := logData?_eq_some.1 ha
    · rfl
    · simpa using Value.isJson_get? hj hgiven
  have hitems : ∀ v ∈ recordedIn data, v.isJson = true := by
    unfold recordedIn
    split
    · rename_i items hitems
      exact Value.isJsonItems_iff.1 (by simpa using Value.isJson_get? hdata hitems)
    · exact fun _ hv => (List.not_mem_nil hv).elim
  have hlist : (Value.list (withUnlisted (recordedIn data) names)).isJson = true := by
    rw [Value.isJson_list, Value.isJsonItems_iff, withUnlisted]
    intro v hv
    obtain hold | hnew := List.mem_append.1 hv
    · exact hitems v hold
    · obtain ⟨name, -, rfl⟩ := List.mem_map.1 hnew
      exact Value.isJson_text name
  unfold ActionInvocation.record
  split
  · exact hj
  · have hrecording := Value.isJsonFields_put hdata hlist "new_fields"
    exact Value.isJsonFields_put hj ((Value.isJson_map _).trans hrecording) _

namespace RecordedIn

theorem map_type (h : RecordedIn names actions actions') :
    actions'.map (·.type) = actions.map (·.type) := by
  induction h with
  | nil => rfl
  | first place =>
    rw [List.map_cons, List.map_cons, ActionInvocation.record]
    split <;> rfl
  | later noPlace more ih => rw [List.map_cons, List.map_cons, ih]

theorem isJson (h : RecordedIn names actions actions')
    (hj : ∀ a ∈ actions, Value.isJsonFields a.parameters = true) :
    ∀ a ∈ actions', Value.isJsonFields a.parameters = true := by
  induction h with
  | nil => exact hj
  | first place =>
    obtain ⟨ha, hrest⟩ := List.forall_mem_cons.1 hj
    exact List.forall_mem_cons.2 ⟨isJson_record place ha names, hrest⟩
  | later noPlace more ih =>
    obtain ⟨ha, hrest⟩ := List.forall_mem_cons.1 hj
    exact List.forall_mem_cons.2 ⟨ha, ih hrest⟩

theorem listsNew (h : RecordedIn names actions actions')
    (hd : ∀ a ∈ actions, ∀ data ∈ a.logData?, ListsNew data) :
    ∀ a ∈ actions', ∀ data ∈ a.logData?, ListsNew data := by
  induction h with
  | nil => exact hd
  | first place =>
    obtain ⟨ha, hrest⟩ := List.forall_mem_cons.1 hd
    refine List.forall_mem_cons.2 ⟨fun data hdata => ?_, hrest⟩
    obtain ⟨data', hdata', -, hlists⟩ := logData?_record place names
    rw [hdata'] at hdata
    exact Option.some.inj hdata ▸ hlists (ha _ place)
  | later noPlace more ih =>
    obtain ⟨ha, hrest⟩ := List.forall_mem_cons.1 hd
    exact List.forall_mem_cons.2 ⟨ha, ih hrest⟩

end RecordedIn

end Actions

/-! ## Rules -/

/-- The update that replaces the actions of a rule and the fields discovered for it. -/
def fieldsUpdate (actions : List ActionInvocation) (names : List String) : Value :=
  .map [("actions", .list (actions.map fun a => a.toValue.dump)),
    ("metadata", .map [("discovered_fields", .list (names.map .text))])]

/-- The rule with other actions and discovered fields. -/
def Rule.withFields (r : Rule) (now : String) (actions : List ActionInvocation)
    (names : List String) : Rule :=
  { r with actions, metadata := { r.metadata with discoveredFields := names, updatedAt := now } }

/-- Such an update is taken: nothing else of the rule changes, but what it holds is written out. -/
theorem RuleBook.revise_fieldsUpdate {now id : String} {current : Rule}
    {actions : List ActionInvocation} {names : List String} (hid : current.id = some id)
    (hc : (current.withFields now actions names).Complete) :
    RuleBook.revise now id current (fieldsUpdate actions names) =
      .ok ((current.withFields now actions names).dumped.withCustom current.custom) := by
  have hfields : (current.toValue.dump.fields?).getD [] = current.entries := by
    rw [Rule.dump_toValue]
    rfl
  have hupdate : fieldsUpdate actions names = .map [
      ("actions", .list (actions.map fun a => .map a.entries)),
      ("metadata", .map [("discovered_fields", .list (names.map .text))])] := by
    simp only [fieldsUpdate, ActionInvocation.dump_toValue]
  -- The update names the actions and the fields, so the times are all else that is written.
  have hsealed : sealUpdate (mergeUpdate (mergeUpdate current.entries "actions"
      (.list (actions.map fun a => .map a.entries))) "metadata"
      (.map [("discovered_fields", .list (names.map .text))])) id current.metadata.createdAt now =
      .ok (current.withFields now actions names).entries := by
    obtain ⟨_, name, description, conditions, actions', metadata⟩ := current
    cases hid
    rfl
  have hsnake (a b : Value) : snakeKeys [("actions", a), ("metadata", b)] =
    [("actions", a), ("metadata", b)] := rfl
  unfold RuleBook.revise
  rw [hupdate]
  refine bind_eq_ok.2 ⟨_, rfl, ?_⟩
  dsimp only
  rw [hfields, hsnake]
  refine bind_eq_ok.2 ⟨_, hsealed, ?_⟩
  rw [Rule.check_entries now hc]
  dsimp only
  split
  · rfl
  · rename_i hnone
    have : current.conditions = none := by simpa [Assoc.has, Assoc.get?] using hnone
    simp [Rule.withCustom, Rule.dumped, Rule.withFields, this]

/-- The parameters of the actions are JSON, and where log actions have a place for names it is a list. -/
structure Rule.Recordable (r : Rule) : Prop where
  parameters : ∀ a ∈ r.actions, Value.isJsonFields a.parameters = true
  listsNew : ∀ a ∈ r.actions, ∀ data ∈ a.logData?, ListsNew data

instance (r : Rule) : Decidable r.Recordable :=
  decidable_of_iff ((∀ a ∈ r.actions, Value.isJsonFields a.parameters = true) ∧
    ∀ a ∈ r.actions, ∀ data ∈ a.logData?, ListsNew data) ⟨fun h => ⟨h.1, h.2⟩, fun h => ⟨h.1, h.2⟩⟩

/-- The rule with the names recorded in its metadata and in its actions, and otherwise as it was, but for the
time of its update; as it was altogether, if neither place lacks a name. -/
structure Rule.Recorded (names : List String) (old new : Rule) : Prop where
  id : new.id = old.id
  name : new.name = old.name
  description : new.description = old.description
  eventTypes : new.eventTypes = old.eventTypes
  conditions : (∀ c ∈ old.conditions, ∀ data ∈ c.data, Value.isJsonFields data = true) →
    new.conditions = old.conditions
  actions : RecordedIn names old.actions new.actions
  metadata : new.metadata = { old.metadata with
    discoveredFields := old.metadata.discoveredFields ++ unlisted old.metadata.discoveredFields names
    updatedAt := new.metadata.updatedAt }
  same : unlisted old.metadata.discoveredFields names = [] → unrecorded names old.actions = [] → new = old

section Rules

variable {r r' : Rule} {names : List String}

/-- There is no update if neither place lacks a name. Otherwise the update records the names in both. -/
theorem mergeNewFields_cases (hd : ∀ a ∈ r.actions, ∀ data ∈ a.logData?, ListsNew data)
    (names : List String) :
    let known := r.metadata.discoveredFields
    (unlisted known names = [] ∧ unrecorded names r.actions = [] ∧ mergeNewFields r names = .ok none) ∨
    ((unlisted known names ≠ [] ∨ unrecorded names r.actions ≠ []) ∧ ∃ actions,
      RecordedIn names r.actions actions ∧
      mergeNewFields r names = .ok (some (fieldsUpdate actions (known ++ unlisted known names)))) := by
  intro known
  obtain ⟨actions, hrecord, hrecorded⟩ := recordInActions_eq hd names
  have hall : appendUnique (known.map .text) names = (known ++ unlisted known names).map .text := by
    rw [appendUnique_eq_append, withUnlisted, textsOf_texts, List.map_append]
  have hlength : (((known ++ unlisted known names).map Value.text).length !=
      (known.map Value.text).length) = !(unlisted known names).isEmpty := by
    cases unlisted known names <;> simp
  have hmerge : mergeNewFields r names =
      if !(unrecorded names r.actions).isEmpty || !(unlisted known names).isEmpty then
        .ok (some (fieldsUpdate actions (known ++ unlisted known names)))
      else .ok none := by
    unfold mergeNewFields
    dsimp only
    rw [hall, hlength, hrecord]
    rfl
  -- There is an update exactly when the metadata or the action does not list a field yet.
  by_cases hnew : unlisted known names = [] ∧ unrecorded names r.actions = []
  · refine .inl ⟨hnew.1, hnew.2, ?_⟩
    rw [hmerge, hnew.1, hnew.2]
    rfl
  · have hsome : unlisted known names ≠ [] ∨ unrecorded names r.actions ≠ [] := by tauto
    have hnames : names ≠ [] := by
      rintro rfl
      refine hnew ⟨rfl, ?_⟩
      unfold unrecorded
      cases r.actions.findSome? (·.logData?) <;> rfl
    refine .inr ⟨hsome, actions, hrecorded hnames, ?_⟩
    rw [hmerge, if_pos (by simpa [or_comm] using hsome)]

/-- The update gives the rule with the names recorded. -/
theorem Rule.Recordable.revise (h : r.Recordable) (hc : r.Complete) {id : String} (hid : r.id = some id)
    (hnew : unlisted r.metadata.discoveredFields names ≠ [] ∨ unrecorded names r.actions ≠ [])
    {actions : List ActionInvocation} (ha : RecordedIn names r.actions actions) (now : String) :
    ∃ r', RuleBook.revise now id r (fieldsUpdate actions (r.metadata.discoveredFields ++
        unlisted r.metadata.discoveredFields names)) = .ok r' ∧ r.Recorded names r' := by
  have htypes : ∀ a ∈ actions, a.type ≠ "" := fun a hm => by
    have hm : a.type ∈ r.actions.map (·.type) := ha.map_type ▸ List.mem_map_of_mem hm
    obtain ⟨b, hb, heq⟩ := List.mem_map.1 hm
    exact heq ▸ hc.types b hb
  have hne : actions ≠ [] := fun hnil => hc.actions (by simpa [hnil] using ha.map_type.symm)
  have hkept : actions.map ActionInvocation.dumped = actions :=
    (List.map_congr_left fun a hm =>
      ActionInvocation.dumped_of_isJson (ha.isJson h.parameters a hm)).trans (List.map_id' _)
  refine ⟨_, RuleBook.revise_fieldsUpdate hid ⟨hc.name, hne, htypes⟩, rfl, rfl, rfl, ?_, ?_, ?_, rfl,
    fun hfields hactions => (hnew.elim (· hfields) (· hactions)).elim⟩
  · simp only [Rule.eventTypes, Rule.dumped, Rule.withFields, Rule.withCustom]
    cases r.conditions <;> rfl
  · intro hj
    simp only [Rule.dumped, Rule.withFields, Rule.withCustom, Rule.custom]
    cases hcond : r.conditions with
    | none => rfl
    | some c => simp [RuleConditions.dumped_of_isJson (hj c hcond)]
  · change RecordedIn names r.actions (actions.map ActionInvocation.dumped)
    rw [hkept]
    exact ha

end Rules

end EventHub
