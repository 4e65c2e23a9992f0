import EventHub.Record.Event
import EventHub.Record.Rule

/-!
# Rules from values

* **Fields** (`Rule.ofFields_eq_ok`): a checked rule has of each field what its check gives.
* **Complete rules** (`Rule.Complete`): a checked rule has a name and at least one action, and each
  action has a type.
-/

namespace EventHub

variable {α : Type}

/-! ## Results of checks -/

/-- A result comes from a result. -/
theorem bind_eq_ok {ε β : Type} {x : Except ε α} {f : α → Except ε β} {b : β} :
    x >>= f = .ok b ↔ ∃ a, x = .ok a ∧ f a = .ok b := by
  cases x <;> simp [bind, Except.bind]

theorem bind_eq_error {ε β : Type} {x : Except ε α} {f : α → Except ε β} {e : ε} :
    x >>= f = .error e ↔ x = .error e ∨ ∃ a, x = .ok a ∧ f a = .error e := by
  cases x <;> simp [bind, Except.bind]

theorem Checked.both_eq_ok {β : Type} {a : Checked α} {b : Checked β} {p : α × β} :
    Checked.both a b = .ok p ↔ a = .ok p.1 ∧ b = .ok p.2 := by
  obtain ⟨x, y⟩ := p
  cases a <;> cases b <;> simp [Checked.both]

theorem Checked.within_eq_ok {step : String} {a : Checked α} {x : α} :
    Checked.within step a = .ok x ↔ a = .ok x := by
  cases a <;> simp [Checked.within]

/-- Every result of a list of checks is that of a check of an item. -/
theorem Checked.of_mem_items {check : Value → Checked α} {index : Nat} {items : List Value}
    {results : List α} (h : Checked.items check index items = .ok results) {a : α}
    (ha : a ∈ results) : ∃ v ∈ items, check v = .ok a := by
  induction items generalizing index results with
  | nil =>
    cases h
    cases ha
  | cons v rest ih =>
    unfold Checked.items at h
    split at h
    · rename_i b bs hb
      cases h
      obtain ⟨hv, hr⟩ := Checked.both_eq_ok.1 hb
      rcases List.mem_cons.1 ha with rfl | ha
      · exact ⟨v, List.mem_cons_self, Checked.within_eq_ok.1 hv⟩
      · obtain ⟨w, hw, hc⟩ := ih hr ha
        exact ⟨w, List.mem_cons_of_mem v hw, hc⟩
    · cases h

theorem of_mem_checkList {check : Value → Checked α} {v : Value} {results : List α}
    (h : checkList check v = .ok results) {a : α} (ha : a ∈ results) :
    ∃ w, check w = .ok a := by
  unfold checkList at h
  split at h
  all_goals first
    | exact (Checked.of_mem_items h ha).imp fun w hw => hw.2
    | simp [Checked.fail] at h

theorem checkSome_eq_ok {check : Value → Checked α} {v : Value} {results : List α} :
    checkSome check v = .ok results ↔ checkList check v = .ok results ∧ results ≠ [] := by
  unfold checkSome
  split
  · rename_i h
    rw [h]
    cases results <;> simp [Checked.fail]
  · rename_i h
    refine ⟨fun hc => ⟨hc, fun he => h (he ▸ hc)⟩, fun hc => hc.1⟩

theorem required_eq_ok {fields : Fields} {name : String} {check : Value → Checked α} {a : α} :
    required fields name check = .ok a ↔
      ∃ given v, field fields name = some (given, v) ∧ check v = .ok a := by
  unfold required
  cases field fields name with
  | none => simp
  | some found =>
    obtain ⟨given, v⟩ := found
    simp only [Checked.within_eq_ok, Option.some.injEq, Prod.mk.injEq]
    exact ⟨fun h => ⟨given, v, ⟨rfl, rfl⟩, h⟩, fun ⟨_, _, ⟨_, rfl⟩, h⟩ => h⟩

section Put

variable {fields : Fields} {key name : String} {v : Value} (hwire : key ≠ camelCase name) (hn : key ≠ name)
include hwire hn

/-- A field is not changed by an entry under a key that is neither of its names. -/
theorem field_put_of_ne : field (Assoc.put fields key v) name = field fields name := by
  rw [field, field, Assoc.get?_put_of_ne _ _ hwire, Assoc.get?_put_of_ne _ _ hn]

theorem required_put_of_ne (check : Value → Checked α) :
    required (Assoc.put fields key v) name check = required fields name check := by
  rw [required, required, field_put_of_ne hwire hn]

theorem defaulted_put_of_ne (default : α) (check : Value → Checked α) :
    defaulted (Assoc.put fields key v) name default check = defaulted fields name default check := by
  rw [defaulted, defaulted, field_put_of_ne hwire hn]

end Put

theorem checkName_text {s : String} (h : s ≠ "") : checkName (.text s) = .ok s := by
  simp [checkName, checkText, h]

/-! ## Rules -/

theorem ActionInvocation.ofFields_eq_ok {fields : Fields} {a : ActionInvocation} :
    ActionInvocation.ofFields fields = .ok a ↔
      required fields "type" checkName = .ok a.type ∧
        defaulted fields "parameters" [] checkMapOrNull = .ok a.parameters := by
  simp only [ActionInvocation.ofFields, Checked.apply_eq_ok]
  constructor
  · rintro ⟨_, p, ⟨_, t, hf, ht, rfl⟩, hp, rfl⟩
    cases hf
    exact ⟨ht, hp⟩
  · rintro ⟨ht, hp⟩
    exact ⟨_, _, ⟨_, _, rfl, ht, rfl⟩, hp, rfl⟩

/-- A checked rule has of each field what its check gives. -/
theorem Rule.ofFields_eq_ok {now : String} {fields : Fields} {r : Rule} :
    Rule.ofFields now fields = .ok r ↔
      defaulted fields "id" none (optional checkText) = .ok r.id ∧
      required fields "name" checkName = .ok r.name ∧
      defaulted fields "description" "" checkText = .ok r.description ∧
      defaulted fields "conditions" none (optional RuleConditions.check) = .ok r.conditions ∧
      required fields "actions" (checkSome ActionInvocation.check) = .ok r.actions ∧
      defaulted fields "metadata" (RuleMetadata.fresh now) (RuleMetadata.checkOrNull now) =
        .ok r.metadata := by
  simp only [Rule.ofFields, Checked.apply_eq_ok]
  constructor
  · rintro ⟨_, m, ⟨_, a, ⟨_, c, ⟨_, d, ⟨_, n, ⟨_, i, hf, hi, rfl⟩, hn, rfl⟩, hd, rfl⟩, hc, rfl⟩,
      ha, rfl⟩, hm, rfl⟩
    cases hf
    exact ⟨hi, hn, hd, hc, ha, hm⟩
  · rintro ⟨hi, hn, hd, hc, ha, hm⟩
    exact ⟨_, _, ⟨_, _, ⟨_, _, ⟨_, _, ⟨_, _, ⟨_, _, rfl, hi, rfl⟩, hn, rfl⟩, hd, rfl⟩, hc, rfl⟩,
      ha, rfl⟩, hm, rfl⟩

/-- The rule has a name and at least one action, and each action has a type. -/
structure Rule.Complete (r : Rule) : Prop where
  name : r.name ≠ ""
  actions : r.actions ≠ []
  types : ∀ a ∈ r.actions, a.type ≠ ""

theorem Rule.complete_of_check {now : String} {v : Value} {r : Rule}
    (h : Rule.check now v = .ok r) : r.Complete := by
  have nonempty {s : String} (hs : s.isEmpty = false) : s ≠ "" := by
    rintro rfl
    cases hs
  obtain ⟨fields, -, h⟩ := bind_eq_ok.1 h
  obtain ⟨-, hn, -, -, ha, -⟩ := Rule.ofFields_eq_ok.1 h
  obtain ⟨_, w, -, hw⟩ := required_eq_ok.1 ha
  obtain ⟨hl, hne⟩ := checkSome_eq_ok.1 hw
  refine ⟨nonempty (required_checkName hn), hne, fun a hmem => ?_⟩
  obtain ⟨u, hu⟩ := of_mem_checkList hl hmem
  obtain ⟨entries, -, hu⟩ := bind_eq_ok.1 hu
  exact nonempty (required_checkName (ActionInvocation.ofFields_eq_ok.1 hu).1)

theorem Rule.Complete.withCustom {r : Rule} (h : r.Complete) (custom : Option String) :
    (r.withCustom custom).Complete := ⟨h.name, h.actions, h.types⟩

/-- A rule whose entries give its id has that id. -/
theorem Rule.id_of_check {now id : String} {fields : Fields} {r : Rule}
    (hid : Assoc.get? fields "id" = some (.text id)) (h : Rule.check now (.map fields) = .ok r) :
    r.id = some id := by
  have hf : field fields "id" = some ("id", .text id) := by
    have hc : camelCase "id" = "id" := by decide
    rw [field, hc, hid]
  have := (Rule.ofFields_eq_ok.1 h).1
  rw [defaulted, hf] at this
  exact (Except.ok.inj this).symm

end EventHub
