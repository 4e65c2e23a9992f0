import EventHub.Condition
import EventHub.Proofs.Record.Rule
import EventHub.Proofs.Value.Json

/-!
# How predicates are decided

A predicate compares what its path leads to with a value. Values of types that have no order are in none,
and what cannot be searched contains nothing. Only the search for the value among expected ones is a
fault where the expected value cannot be searched.

* **Forms** (`Value.States`): a predicate as a record and as a map are the same condition
  (`Value.States.holds`).
* **Searches** (`Value.holdsItem_eq_error`): what cannot be searched for what.
* **Comparisons** (`Operator.compare_of_mismatch`, `Operator.compare_of_match`): an operator on values of
  types that it is not made for, and on all others.
* **Conditions** (`Condition.predicates_decided`): predicates on JSON values, and lists of them.
-/

namespace EventHub

/-! ## Forms -/

/-- The condition is the predicate, as a record or as a map that describes it. -/
inductive Value.States : Value → Predicate → Prop
  | record (p : Predicate) : States p.toValue p
  | map {fields : Fields} {p : Predicate} (checked : Predicate.check (.map fields) = .ok p) :
    States (.map fields) p
  | table {entries : List (Value × Value)} {p : Predicate}
    (checked : Predicate.check (.table entries) = .ok p) : States (.table entries) p

theorem predicateRecordHolds_eq (p : Predicate) (values : Value) :
    predicateRecordHolds (.map [("field", .text p.field), ("op", .text p.op.name), ("value", p.value)])
      values = p.holds values := by
  unfold predicateRecordHolds Predicate.holds
  generalize hrecord : Value.map [("field", Value.text p.field), ("op", .text p.op.name),
    ("value", p.value)] = record
  have hfield : record.step "field" = .ok (some (.text p.field)) := hrecord ▸ rfl
  have hop : record.step "op" = .ok (some (.text p.op.name)) := hrecord ▸ rfl
  have hvalue : record.step "value" = .ok (some p.value) := hrecord ▸ rfl
  rw [hfield, hop, hvalue]
  cases h : values.lookup p.field with
  | error fault => simp [bind, Except.bind, h]
  | ok found => simp [bind, Except.bind, h, Value.plain_text, Operator.ofName?_name]

theorem Value.States.holds {c : Value} {p : Predicate} (h : c.States p)
    (ask : String → Value → Except Fault Value) (values : Value) :
    Condition.holds ask values c = p.holds values := by
  cases h with
  | record =>
    rw [Predicate.toValue, Condition.holds]
    exact predicateRecordHolds_eq p values
  | map checked => rw [Condition.holds, predicateMapHolds, checked]
  | table checked => rw [Condition.holds, predicateMapHolds, checked]

theorem Predicate.toValue_injective {p q : Predicate} (h : p.toValue = q.toValue) : p = q := by
  obtain ⟨field, op, value⟩ := p
  obtain ⟨field', op', value'⟩ := q
  simp only [toValue, Value.record.injEq, List.cons.injEq, Prod.mk.injEq, Value.text.injEq, true_and,
    and_true] at h
  obtain ⟨rfl, hname, rfl⟩ := h
  have hop : some op = some op' := by
    rw [← Operator.ofName?_name op, hname, Operator.ofName?_name]
  rw [Option.some.inj hop]

/-- A condition is one predicate at most. -/
theorem Value.States.unique {c : Value} {p q : Predicate} (hp : c.States p) (hq : c.States q) : p = q := by
  cases hp with
  | record =>
    generalize hc : p.toValue = c at hq
    cases hq with
    | record => exact Predicate.toValue_injective hc
    | map => cases hc
    | table => cases hc
  | map checked =>
    cases hq with
    | map checked' => exact Except.ok.inj (checked.symm.trans checked')
  | table checked =>
    cases hq with
    | table checked' => exact Except.ok.inj (checked.symm.trans checked')

/-- What a predicate says of the values is what its operator says of what its path leads to. -/
theorem Predicate.holds_of_lookup {p : Predicate} {values : Value} {found : Option Value}
    (h : values.lookup p.field = .ok found) : p.holds values = p.op.holds found p.value := by
  rw [Predicate.holds, h]
  rfl

/-! ## Searches -/

/-- The item cannot be searched for in the value: it is in nothing but a container, in a text only a text
can be, and lists and maps are no keys of maps. -/
inductive Value.Unsearchable : Value → Value → TypeFlaw → Prop
  | null {item : Value} : Unsearchable .null item (.notContainer "NoneType")
  | number {container item : Value} (number : container.magnitude?.isSome = true) :
    Unsearchable container item (.notContainer container.typeName)
  | text {s : String} {item : Value} (other : ∀ t, item ≠ .text t) :
    Unsearchable (.text s) item (.textMembership item.typeName)
  | listKey {fields : Fields} {items : List Value} :
    Unsearchable (.map fields) (.list items) (.unhashable "list")
  | mapKey {fields entries : Fields} : Unsearchable (.map fields) (.map entries) (.unhashable "dict")

theorem Value.holdsItem_eq_error {container item : Value} (hc : container.isJson = true)
    (hi : item.isJson = true) {fault : Fault} : container.holdsItem item = .error fault ↔
      ∃ flaw, fault = .type flaw ∧ container.Unsearchable item flaw := by
  constructor
  · intro h
    -- Only lists and mappings are searched for any item; texts are for texts, and the rest is not
    -- searched.
    cases container with
    | null =>
      cases h
      exact ⟨_, rfl, .null⟩
    | bool _ | int _ | float _ | nan _ =>
      cases h
      exact ⟨_, rfl, .number rfl⟩
    | text s =>
      cases item with
      | text t => cases h
      | _ =>
        cases h
        exact ⟨_, rfl, .text (by simp)⟩
    | list items => cases item <;> cases h
    | map fields =>
      cases item with
      | list items =>
        cases h
        exact ⟨_, rfl, .listKey⟩
      | map entries =>
        cases h
        exact ⟨_, rfl, .mapKey⟩
      | _ => simp_all [holdsItem, unhashable?, isJson]
    | _ => simp [isJson] at hc
  · rintro ⟨flaw, rfl, h⟩
    cases h with
    | null => rfl
    | number number => cases container <;> simp_all [holdsItem, magnitude?]
    | text other => cases item <;> simp_all [holdsItem]
    | listKey => rfl
    | mapKey => rfl

/-! ## Comparisons -/

namespace Operator

/-- The operator is not made for values of these types: they have no order, or the one cannot be searched
for the other. An expected value that counts as false is searched as if it were empty. -/
def Mismatch (op : Operator) (actual expected : Value) (flaw : TypeFlaw) : Prop :=
  match op with
  | .gt => actual.ordered .gt expected = .error flaw
  | .gte => actual.ordered .ge expected = .error flaw
  | .lt => actual.ordered .lt expected = .error flaw
  | .lte => actual.ordered .le expected = .error flaw
  | .contains => actual.Unsearchable expected flaw
  | .among => expected.truthy = true ∧ expected.Unsearchable actual flaw
  | .exists | .eq | .ne | .truthy => False

variable {op : Operator} {actual expected : Value}

/-- What is expected of a value that is false is never found. -/
theorem compare_among_of_falsy (h : expected.truthy = false) :
    compare .among actual expected = .ok false := by
  rw [compare, expectedContainer, if_neg (by simp [h])]
  rfl

theorem compare_among_eq_error (ha : actual.isJson = true) (he : expected.isJson = true)
    {fault : Fault} : compare .among actual expected = .error fault ↔
      ∃ flaw, fault = .type flaw ∧ Mismatch .among actual expected flaw := by
  cases ht : expected.truthy with
  | false => simp [compare_among_of_falsy ht, Mismatch, ht]
  | true =>
    rw [compare, expectedContainer, if_pos ht, Value.holdsItem_eq_error he ha]
    simp [Mismatch, ht]

/-- All operators but the search among expected values give a truth value, and on values of types that
they are not made for that is false. -/
theorem compare_isOk (ha : actual.isJson = true) (he : expected.isJson = true) (hop : op ≠ .among) :
    ∃ b, op.compare actual expected = .ok b ∧
      ∀ flaw, op.Mismatch actual expected flaw → b = false := by
  cases op with
  | «exists» | eq | ne | truthy => exact ⟨_, rfl, fun _ h => h.elim⟩
  | among => exact absurd rfl hop
  | contains =>
    cases hs : actual.holdsItem expected with
    | ok b =>
      refine ⟨b, by rw [compare, hs, falseOnType]; simp, fun flaw h => ?_⟩
      have herror := (Value.holdsItem_eq_error ha he).2 ⟨flaw, rfl, h⟩
      rw [hs] at herror
      cases herror
    | error fault =>
      obtain ⟨flaw, rfl, -⟩ := (Value.holdsItem_eq_error ha he).1 hs
      exact ⟨false, by rw [compare, hs, falseOnType], fun _ _ => rfl⟩
  | gt | gte | lt | lte =>
    rw [compare, compare.orderedOrFalse]
    simp only [Mismatch]
    cases actual.ordered _ expected with
    | ok b => exact ⟨b, rfl, fun _ h => by cases h⟩
    | error flaw => exact ⟨false, rfl, fun _ _ => rfl⟩

end Operator

/-! ## Conditions -/

namespace Condition

variable (ask : String → Value → Except Fault Value)

/-- The condition is a predicate on JSON whose path can be looked up in the values. -/
def IsTestable (values c : Value) : Prop :=
  ∃ p found, c.States p ∧ p.value.isJson = true ∧ values.lookup p.field = .ok found

/-- The condition is a search for what its path leads to among expected values, and the expected value
cannot be searched for that. -/
def FailsAmong (values c : Value) (fault : Fault) : Prop :=
  ∃ p actual flaw, c.States p ∧ p.op = .among ∧ values.lookup p.field = .ok (some actual) ∧
    p.op.Mismatch actual p.value flaw ∧ fault = .type flaw

/-- Conditions hold in order, and one that is a fault is reached only if all before it hold. -/
theorem allHold_eq_error {values : Value} {items : List Value} {fault : Fault} :
    allHold ask values items = .error fault ↔ ∃ before c after, items = before ++ c :: after ∧
      (∀ d ∈ before, holds ask values d = .ok true) ∧ holds ask values c = .error fault := by
  induction items with
  | nil => simp [allHold]
  | cons c rest ih =>
    rw [allHold, bind_eq_error]
    constructor
    · rintro (hfails | ⟨b, hholds, h⟩)
      · exact ⟨[], c, rest, rfl, fun _ hm => (List.not_mem_nil hm).elim, hfails⟩
      · cases b with
        | false => cases h
        | true =>
          obtain ⟨before, d, after, rfl, hbefore, hfails⟩ := ih.1 h
          exact ⟨c :: before, d, after, rfl, List.forall_mem_cons.2 ⟨hholds, hbefore⟩, hfails⟩
    · rintro ⟨before, d, after, hsplit, hbefore, hfails⟩
      cases before with
      | nil =>
        obtain ⟨rfl, rfl⟩ := List.cons.inj hsplit
        exact .inl hfails
      | cons b before =>
        obtain ⟨rfl, rfl⟩ := List.cons.inj hsplit
        obtain ⟨hholds, hbefore⟩ := List.forall_mem_cons.1 hbefore
        exact .inr ⟨true, hholds, ih.2 ⟨before, d, after, rfl, hbefore, hfails⟩⟩

/-- What a predicate gives on what its path has led to: a truth value, which is false where its operator is
not made for the types of the values. Only a search among expected values is a fault there instead. -/
structure Decides (values c : Value) (p : Predicate) (found : Option Value) : Prop where
  other (hop : p.op ≠ .among) : ∃ b, holds ask values c = .ok b ∧
    ∀ actual flaw, found = some actual → p.op.Mismatch actual p.value flaw → b = false
  among (hop : p.op = .among) (fault : Fault) : holds ask values c = .error fault ↔
    ∃ actual flaw, found = some actual ∧ p.op.Mismatch actual p.value flaw ∧ fault = .type flaw

section Predicates

variable {values : Value} (hv : values.isJson = true)
include hv

theorem decides {c : Value} {p : Predicate} {found : Option Value} (hc : c.States p)
    (hp : p.value.isJson = true) (hf : values.lookup p.field = .ok found) :
    Decides ask values c p found := by
  have hholds : holds ask values c = p.op.holds found p.value :=
    (hc.holds ask values).trans (Predicate.holds_of_lookup hf)
  cases found with
  | none => exact ⟨fun _ => ⟨false, hholds, by simp⟩, by simp [hholds, Operator.holds]⟩
  | some actual =>
    have ha : actual.isJson = true := Value.isJson_of_walk hv hf
    constructor
    · intro hop
      obtain ⟨b, hb, hfalse⟩ := Operator.compare_isOk ha hp hop
      refine ⟨b, hholds.trans hb, fun actual' flaw heq h => ?_⟩
      obtain rfl := Option.some.inj heq
      exact hfalse flaw h
    · intro hop fault
      rw [hholds, hop, Operator.holds, Operator.compare_among_eq_error ha hp]
      simp [and_comm]

theorem holds_eq_error_iff {c : Value} (hc : IsTestable values c) {fault : Fault} :
    holds ask values c = .error fault ↔ FailsAmong values c fault := by
  obtain ⟨p, found, hstates, hp, hf⟩ := hc
  have hdecides := decides ask hv hstates hp hf
  constructor
  · intro h
    by_cases hop : p.op = .among
    · obtain ⟨actual, flaw, rfl, hmismatch, rfl⟩ := (hdecides.among hop fault).1 h
      exact ⟨p, actual, flaw, hstates, hop, hf, hmismatch, rfl⟩
    · obtain ⟨b, hb, -⟩ := hdecides.other hop
      rw [h] at hb
      cases hb
  · rintro ⟨q, actual, flaw, hq, hop, hlookup, hmismatch, rfl⟩
    obtain rfl := hstates.unique hq
    obtain rfl : found = some actual := Except.ok.inj (hf.symm.trans hlookup)
    exact (hdecides.among hop _).2 ⟨actual, flaw, rfl, hmismatch, rfl⟩

/-- A predicate on JSON values gives a truth value wherever its path can be looked up, but for a search
among what cannot be searched. In a list of such predicates the first that is a fault is one for the list,
if all before it hold, and otherwise the list gives a truth value, too. -/
theorem predicates_decided :
    (∀ c p found, c.States p → p.value.isJson = true → values.lookup p.field = .ok found →
      Decides ask values c p found) ∧
    ∀ items, (∀ c ∈ items, IsTestable values c) → ∀ fault,
      holds ask values (.list items) = .error fault ↔ ∃ before c after,
        items = before ++ c :: after ∧ (∀ d ∈ before, holds ask values d = .ok true) ∧
          FailsAmong values c fault := by
  refine ⟨fun c p found => decides ask hv, fun items heach fault => ?_⟩
  rw [holds, allHold_eq_error]
  constructor
  · rintro ⟨before, c, after, rfl, hbefore, h⟩
    have hc : c ∈ before ++ c :: after := by simp
    exact ⟨before, c, after, rfl, hbefore, (holds_eq_error_iff ask hv (heach c hc)).1 h⟩
  · rintro ⟨before, c, after, rfl, hbefore, h⟩
    have hc : c ∈ before ++ c :: after := by simp
    exact ⟨before, c, after, rfl, hbefore, (holds_eq_error_iff ask hv (heach c hc)).2 h⟩

end Predicates

/-- A count and a zone. -/
def countAndZone : Value := .map [("count", .int 3), ("zone", .text "z1")]

/-- The zone is a known one, and the count is among a number. -/
def zoneThenCount : List Value :=
  [Predicate.toValue ⟨"zone", .eq, .text "z1"⟩, Predicate.toValue ⟨"count", .among, .int 5⟩]

/-- An application without functions. -/
def askNobody (_ : String) (_ : Value) : Except Fault Value := .ok .null

/-- A count has no order among texts, so that it is not greater than one, and in a number nothing can be
searched. -/
theorem predicates_decided_mixed : countAndZone.isJson = true ∧
    holds askNobody countAndZone (Predicate.toValue ⟨"count", .gt, .text "x"⟩) = .ok false ∧
    holds askNobody countAndZone (.list zoneThenCount) = .error (.type (.notContainer "int")) := by
  have hv : countAndZone.isJson = true := by decide
  obtain ⟨hone, hlist⟩ := predicates_decided askNobody hv
  have hcount : countAndZone.lookup "count" = .ok (some (.int 3)) := rfl
  have hzone : countAndZone.lookup "zone" = .ok (some (.text "z1")) := rfl
  have hgreater := hone _ ⟨"count", .gt, .text "x"⟩ _ (.record _) (by decide) hcount
  obtain ⟨b, hb, hfalse⟩ := hgreater.other (by simp)
  refine ⟨hv, hb.trans (congrArg _ (hfalse (.int 3) _ rfl rfl)), ?_⟩
  refine (hlist zoneThenCount ?_ _).2 ⟨[_], _, [], rfl, ?_, ?_⟩
  · exact List.forall_mem_cons.2 ⟨⟨_, _, .record _, by decide, hzone⟩,
      List.forall_mem_singleton.2 ⟨_, _, .record _, by decide, hcount⟩⟩
  · refine List.forall_mem_singleton.2 ?_
    rw [(Value.States.record _).holds, Predicate.holds_of_lookup hzone]
    simp [Operator.holds, Operator.compare, Value.same]
  · exact ⟨_, _, _, .record _, rfl, hcount, ⟨rfl, .number rfl⟩, rfl⟩

/-- A count is searched for in a number, and that is a fault instead of false. -/
theorem among_fails : holds askNobody countAndZone (Predicate.toValue ⟨"count", .among, .int 5⟩) =
    .error (.type (.notContainer "int")) :=
  rfl

end Condition

end EventHub
