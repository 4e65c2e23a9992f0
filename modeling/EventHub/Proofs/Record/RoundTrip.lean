import EventHub.Proofs.Record.Rule
import EventHub.Proofs.Value.Json

/-!
# Rules written out and read again

A rule that is written out as a map and checked again is the same rule, except for what its actions
and conditions hold: there the records are written out as well, and the function of the conditions
is left out.

* **Parts** (`Names.check_toValue`, `RuleMetadata.check_entries`, …): one lemma for each part. What is JSON
  in them stays as it is (`RuleConditions.dumped_of_isJson`, `ActionInvocation.dumped_of_isJson`).
* **Rules** (`Rule.check_entries`): the entries of a complete rule describe the rule that is written
  out.
-/

namespace EventHub

variable {α β : Type}

/-! ## Fields -/

theorem defaulted_of_field {fields : Fields} {name given : String} {v : Value} {default a : α}
    {check : Value → Checked α} (hf : field fields name = some (given, v)) (hc : check v = .ok a) :
    defaulted fields name default check = .ok a := by
  rw [defaulted, hf]
  exact Checked.within_eq_ok.2 hc

/-! ## Lists and texts -/

theorem Checked.items_map {check : Value → Checked β} {f : α → Value} {g : α → β} {xs : List α}
    (h : ∀ x ∈ xs, check (f x) = .ok (g x)) (index : Nat) :
    Checked.items check index (xs.map f) = .ok (xs.map g) := by
  induction xs generalizing index with
  | nil => rfl
  | cons x rest ih =>
    have hx := h x List.mem_cons_self
    have hrest := ih (fun y hy => h y (List.mem_cons_of_mem x hy)) (index + 1)
    rw [List.map_cons, Checked.items, hx, hrest]
    rfl

theorem checkList_texts (names : List String) :
    checkList checkText (.list (names.map .text)) = .ok names := by
  have hone : ∀ name ∈ names, checkText (.text name) = .ok (id name) := fun _ _ => rfl
  have h := Checked.items_map hone 0
  rwa [List.map_id] at h

theorem optional_checkText (s : Option String) : optional checkText (.ofText? s) = .ok s := by
  cases s <;> rfl

theorem optional_ofOption {f : α → Value} {check : Value → Checked β} {g : α → β}
    (hf : ∀ a, f a ≠ .null) (hc : ∀ a, check (f a) = .ok (g a)) (o : Option α) :
    optional check (.ofOption (o.map f)) = .ok (o.map g) := by
  cases o with
  | none => rfl
  | some a =>
    change optional check (f a) = .ok (some (g a))
    unfold optional
    split
    · rename_i h
      exact absurd h (hf a)
    · rw [hc a]

theorem optional_ofOption_self {f : α → Value} {check : Value → Checked α} (hf : ∀ a, f a ≠ .null)
    (hc : ∀ a, check (f a) = .ok a) (o : Option α) : optional check (.ofOption (o.map f)) = .ok o := by
  have h := optional_ofOption (g := id) hf hc o
  rwa [Option.map_id] at h

theorem dumpItems_map {f g : α → Value} (h : ∀ a, (f a).dump = g a) (xs : List α) :
    Value.dumpItems (xs.map f) = xs.map g := by
  induction xs with
  | nil => simp [Value.dumpItems]
  | cons x rest ih => rw [List.map_cons, Value.dumpItems, h x, ih, List.map_cons]

theorem dump_texts (names : List String) :
    (Value.list (names.map .text)).dump = .list (names.map .text) := by
  rw [Value.dump, dumpItems_map (g := .text) fun s => by simp [Value.dump]]

theorem dump_ofText? (s : Option String) : (Value.ofText? s).dump = .ofText? s := by
  cases s <;> simp [Value.ofText?, Value.dump]

theorem dump_ofOption {f g : α → Value} (h : ∀ a, (f a).dump = g a) (o : Option α) :
    (Value.ofOption (o.map f)).dump = .ofOption (o.map g) := by
  cases o with
  | none => simp [Value.ofOption, Value.dump]
  | some a => exact h a

theorem get?_dumpFields (fields : Fields) (key : String) :
    Assoc.get? (Value.dumpFields fields) key = (Assoc.get? fields key).map Value.dump := by
  induction fields with
  | nil => simp [Value.dumpFields]
  | cons entry rest ih =>
    obtain ⟨k, v⟩ := entry
    rw [Value.dumpFields]
    by_cases hk : k = key
    · simp [Assoc.get?, hk]
    · simpa [Assoc.get?, hk] using ih

/-! ## Metadata -/

/-- The metadata written out. -/
def RuleMetadata.entries (m : RuleMetadata) : Fields :=
  [("enabled", .bool m.enabled), ("category", .ofText? m.category),
    ("auto_generated", .bool m.autoGenerated), ("event_type", .ofText? m.eventType),
    ("discovered_fields", .list (m.discoveredFields.map .text)),
    ("priority", .ofOption (m.priority.map .int)), ("created_at", .text m.createdAt),
    ("updated_at", .text m.updatedAt)]

theorem RuleMetadata.dump_toValue (m : RuleMetadata) : m.toValue.dump = .map m.entries := by
  rw [toValue, Value.dump]
  have hp : (Value.ofOption (m.priority.map .int)).dump = .ofOption (m.priority.map .int) :=
    dump_ofOption (fun n => by simp [Value.dump]) _
  simp [Value.dumpRecord, RecordKind.hides, entries, dump_ofText?, hp, dump_texts]
  simp [Value.dump]

/-- Checked metadata has of each field what its check gives. -/
theorem RuleMetadata.check_eq_ok {now : String} {fields : Fields} {m : RuleMetadata} :
    RuleMetadata.check now (.map fields) = .ok m ↔
      defaulted fields "enabled" true checkBool = .ok m.enabled ∧
      defaulted fields "category" none (optional checkText) = .ok m.category ∧
      defaulted fields "auto_generated" false checkBool = .ok m.autoGenerated ∧
      defaulted fields "event_type" none (optional checkText) = .ok m.eventType ∧
      defaulted fields "discovered_fields" [] (checkList checkText) = .ok m.discoveredFields ∧
      defaulted fields "priority" none (optional checkInt) = .ok m.priority ∧
      defaulted fields "created_at" now checkText = .ok m.createdAt ∧
      defaulted fields "updated_at" now checkText = .ok m.updatedAt := by
  have he : RuleMetadata.check now (.map fields) = Checked.apply _ _ := Eq.refl _
  rw [he]
  simp only [Checked.apply_eq_ok]
  constructor
  · rintro ⟨_, u, ⟨_, c, ⟨_, p, ⟨_, d, ⟨_, t, ⟨_, a, ⟨_, k, ⟨_, e, hf, he, rfl⟩, hk, rfl⟩, ha, rfl⟩,
      ht, rfl⟩, hd, rfl⟩, hp, rfl⟩, hc, rfl⟩, hu, rfl⟩
    cases hf
    exact ⟨he, hk, ha, ht, hd, hp, hc, hu⟩
  · rintro ⟨he, hk, ha, ht, hd, hp, hc, hu⟩
    exact ⟨_, _, ⟨_, _, ⟨_, _, ⟨_, _, ⟨_, _, ⟨_, _, ⟨_, _, ⟨_, _, rfl, he, rfl⟩, hk, rfl⟩, ha, rfl⟩,
      ht, rfl⟩, hd, rfl⟩, hp, rfl⟩, hc, rfl⟩, hu, rfl⟩

theorem RuleMetadata.check_entries (now : String) (m : RuleMetadata) :
    RuleMetadata.check now (.map m.entries) = .ok m :=
  check_eq_ok.2 ⟨rfl, defaulted_of_field rfl (optional_checkText _), rfl,
    defaulted_of_field rfl (optional_checkText _), defaulted_of_field rfl (checkList_texts _),
    defaulted_of_field rfl (optional_ofOption_self (f := .int) (by simp) (fun _ => rfl) _), rfl, rfl⟩

/-! ## Conditions -/

theorem Names.check_toValue (n : Names) : checkNames n.toValue = .ok n := by
  cases n with
  | one name => rfl
  | many names =>
    have hl := checkList_texts names
    unfold checkNames
    rw [toValue]
    simp only [checkText, Checked.fail]
    rw [hl]

theorem Names.dump_toValue (n : Names) : n.toValue.dump = n.toValue := by
  cases n with
  | one name => simp [toValue, Value.dump]
  | many names => exact dump_texts names

/-- The window written out. -/
def TimeRange.entries (t : TimeRange) : Fields :=
  [("start", .ofText? t.start), ("end", .ofText? t.end)]

theorem TimeRange.dump_toValue (t : TimeRange) : t.toValue.dump = .map t.entries := by
  rw [toValue, Value.dump]
  simp [Value.dumpRecord, RecordKind.hides, entries, dump_ofText?]

theorem TimeRange.check_entries (t : TimeRange) : TimeRange.check (.map t.entries) = .ok t := by
  have he : TimeRange.check (.map t.entries) = Checked.apply _ _ := Eq.refl _
  rw [he]
  simp only [Checked.apply_eq_ok]
  exact ⟨_, _, ⟨_, _, rfl, defaulted_of_field rfl (optional_checkText _), rfl⟩,
    defaulted_of_field rfl (optional_checkText _), rfl⟩

/-- The conditions written out. The function is left out. -/
def RuleConditions.entries (c : RuleConditions) : Fields :=
  [("event_type", .ofOption (c.eventType.map Names.toValue)),
    ("source", .ofOption (c.source.map Names.toValue)),
    ("data", .ofOption (c.data.map fun fields => .map (Value.dumpFields fields))),
    ("time_range", .ofOption (c.timeRange.map fun t => .map t.entries))]

/-- The conditions that are read again: their data is written out, and the function is gone. -/
def RuleConditions.dumped (c : RuleConditions) : RuleConditions :=
  { c with data := c.data.map Value.dumpFields, custom := none }

/-- JSON data is written out as it is. -/
theorem RuleConditions.dumped_of_isJson {c : RuleConditions}
    (hc : ∀ data ∈ c.data, Value.isJsonFields data = true) : c.dumped = { c with custom := none } := by
  have hdata : c.data.map Value.dumpFields = c.data := by
    cases hd : c.data with
    | none => rfl
    | some data => rw [Option.map_some, Value.dumpFields_of_isJson (hc data hd)]
  rw [dumped, hdata]

theorem RuleConditions.dump_toValue (c : RuleConditions) : c.toValue.dump = .map c.entries := by
  rw [toValue, Value.dump]
  simp only [Value.dumpRecord, RecordKind.hides, entries, dump_ofOption Names.dump_toValue,
    dump_ofOption Value.dump_map, dump_ofOption TimeRange.dump_toValue]
  rfl

theorem RuleConditions.check_entries (c : RuleConditions) :
    RuleConditions.check (.map c.entries) = .ok c.dumped := by
  have he : RuleConditions.check (.map c.entries) = Checked.apply _ _ := Eq.refl _
  have hn (names : Option Names) :
      optional checkNames (.ofOption (names.map Names.toValue)) = .ok names :=
    optional_ofOption_self (fun n => by cases n <;> simp [Names.toValue]) Names.check_toValue _
  have ht := optional_ofOption_self (f := fun t : TimeRange => .map t.entries) (by simp)
    TimeRange.check_entries c.timeRange
  rw [he]
  simp only [Checked.apply_eq_ok]
  exact ⟨_, _, ⟨_, _, ⟨_, _, ⟨_, _, ⟨_, _, rfl, defaulted_of_field rfl (hn _), rfl⟩,
    defaulted_of_field rfl (hn _), rfl⟩, defaulted_of_field rfl
      (optional_ofOption (g := Value.dumpFields) (by simp) (fun _ => rfl) _), rfl⟩,
    defaulted_of_field rfl ht, rfl⟩, rfl, rfl⟩

/-! ## Rules -/

/-- The invocation written out. -/
def ActionInvocation.entries (a : ActionInvocation) : Fields :=
  [("type", .text a.type), ("parameters", .map (Value.dumpFields a.parameters))]

/-- The invocation that is read again: its parameters are written out. -/
def ActionInvocation.dumped (a : ActionInvocation) : ActionInvocation :=
  { a with parameters := Value.dumpFields a.parameters }

/-- JSON parameters are written out as they are. -/
theorem ActionInvocation.dumped_of_isJson {a : ActionInvocation}
    (ha : Value.isJsonFields a.parameters = true) : a.dumped = a := by
  rw [dumped, Value.dumpFields_of_isJson ha]

theorem ActionInvocation.dump_toValue (a : ActionInvocation) : a.toValue.dump = .map a.entries := by
  rw [toValue, Value.dump]
  simp [Value.dumpRecord, RecordKind.hides, entries, Value.dump]

theorem ActionInvocation.check_entries {a : ActionInvocation} (h : a.type ≠ "") :
    ActionInvocation.check (.map a.entries) = .ok a.dumped :=
  ofFields_eq_ok.2 ⟨required_eq_ok.2 ⟨"type", _, rfl, checkName_text h⟩, rfl⟩

/-- The rule written out. -/
def Rule.entries (r : Rule) : Fields :=
  [("id", .ofText? r.id), ("name", .text r.name), ("description", .text r.description),
    ("conditions", .ofOption (r.conditions.map fun c => .map c.entries)),
    ("actions", .list (r.actions.map fun a => .map a.entries)), ("metadata", .map r.metadata.entries)]

/-- The rule that is read again (module doc). -/
def Rule.dumped (r : Rule) : Rule :=
  { r with
    conditions := r.conditions.map RuleConditions.dumped
    actions := r.actions.map ActionInvocation.dumped }

theorem Rule.dump_toValue (r : Rule) : r.toValue.dump = .map r.entries := by
  have ha : (Value.list (r.actions.map ActionInvocation.toValue)).dump =
      .list (r.actions.map fun a => .map a.entries) := by
    rw [Value.dump, dumpItems_map ActionInvocation.dump_toValue]
  rw [toValue, Value.dump]
  simp only [Value.dumpRecord, RecordKind.hides, entries, dump_ofText?, ha,
    dump_ofOption RuleConditions.dump_toValue, RuleMetadata.dump_toValue]
  simp [Value.dump]

/-- The entries of a complete rule describe the rule that is written out. -/
theorem Rule.check_entries (now : String) {r : Rule} (hr : r.Complete) :
    Rule.check now (.map r.entries) = .ok r.dumped := by
  have hlist : checkList ActionInvocation.check (.list (r.actions.map fun a => .map a.entries)) =
      .ok (r.actions.map ActionInvocation.dumped) :=
    Checked.items_map (fun a ha => ActionInvocation.check_entries (hr.types a ha)) 0
  have hsome := checkSome_eq_ok.2 ⟨hlist, by simpa using hr.actions⟩
  have hc : Rule.check now (.map r.entries) = Rule.ofFields now r.entries := Eq.refl _
  rw [hc]
  exact Rule.ofFields_eq_ok.2 ⟨defaulted_of_field rfl (optional_checkText _),
    required_eq_ok.2 ⟨"name", _, rfl, checkName_text hr.name⟩, rfl,
    defaulted_of_field rfl (optional_ofOption (by simp) RuleConditions.check_entries _),
    required_eq_ok.2 ⟨"actions", _, rfl, hsome⟩,
    defaulted_of_field rfl (RuleMetadata.check_entries now _)⟩

end EventHub
