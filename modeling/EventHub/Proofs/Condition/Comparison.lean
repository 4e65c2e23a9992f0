import EventHub.Proofs.Condition.Predicate
import EventHub.Proofs.Value.Order

/-!
# Laws of comparisons

The six comparisons of predicates, on values without fractions.

* **Verdicts** (`Operator.compare_eq_verdict`): each comparison decides, by equality or by how the two
  values lie.
* **Laws** (`Comparison.Lawful`, `Comparison.lawful_verdict`): how the comparisons of two values go together,
  one way round and the other.
* **Predicates** (`Comparison.predicates_lawful`): the laws for conditions on any values in which the paths
  lead to the two.
-/

namespace EventHub

/-! ## Verdicts -/

namespace Operator

/-- The operators that ask for an order. -/
def orderings : List Operator := [.gt, .gte, .lt, .lte]

/-- The operators that compare two values. -/
def comparisons : List Operator := .eq :: .ne :: orderings

/-- What a comparison says of values without fractions. -/
def verdict (op : Operator) (a b : Value) : Bool :=
  match op, op.relation? with
  | .eq, _ => a.same b
  | .ne, _ => !a.same b
  | _, some r => (a.order? b).any (·.meets r)
  | _, none => false

variable {a b : Value} (ha : a.IsDiscrete) (hb : b.IsDiscrete)
include ha hb

theorem orderedOrFalse_eq (r : Relation) :
    compare.orderedOrFalse a b r = .ok ((a.order? b).any (·.meets r)) := by
  have h := Value.ordered_as ha hb r
  unfold compare.orderedOrFalse
  cases ho : a.order? b with
  | some o =>
    rw [ho] at h
    rw [show a.ordered r b = .ok (o.meets r) from h]
    rfl
  | none =>
    rw [ho] at h
    obtain ⟨flaw, hflaw⟩ := h
    rw [hflaw]
    rfl

theorem compare_eq_verdict {op : Operator} (hop : op ∈ comparisons) :
    op.compare a b = .ok (op.verdict a b) := by
  cases op with
  | eq => rfl
  | ne => rfl
  | gt => exact orderedOrFalse_eq ha hb .gt
  | gte => exact orderedOrFalse_eq ha hb .ge
  | lt => exact orderedOrFalse_eq ha hb .lt
  | lte => exact orderedOrFalse_eq ha hb .le
  | _ => simp [comparisons, orderings] at hop

end Operator

/-! ## Laws -/

namespace Comparison

open Value

/-- How the comparisons of two values, one way round (`ab`) and the other (`ba`), go together. -/
structure Lawful (a b : Value) (ab ba : Operator → Bool) : Prop where
  gt_swap : ab .gt = ba .lt
  gte_swap : ab .gte = ba .lte
  eq_swap : ab .eq = ba .eq
  ne_eq_not : ab .ne = !ab .eq
  exclusive : [Operator.gt, .eq, .lt].countP ab ≤ 1
  gte_iff : ab .gte = true ↔ ab .gt = true ∨ (ab .eq = true ∧ a.SameSort b)
  unordered {as bs : List Value} {v w : Value} (has : a = list as) (hbs : b = list bs)
    (first : FirstUnequal as bs v w) :
    (∀ op ∈ Operator.orderings, ab op = false) ↔ v.Unordered w

section Laws

variable {a b : Value} (ha : a.IsDiscrete) (hb : b.IsDiscrete)
include ha hb

/-- Values that lie somewhere are of one sort, and they are equal exactly when they lie at the same place. -/
theorem same_of_order? {o : Ordering} (ho : a.order? b = some o) :
    a.SameSort b ∧ a.same b = (o == .eq) := by
  have hsort : a.SameSort b := by
    by_contra hother
    rw [order?_of_otherSort ha hb hother] at ho
    cases ho
  have hsame := order?_eq_eq_iff ha hb
  rw [ho, and_iff_left hsort, Option.some.injEq] at hsame
  exact ⟨hsort, by rw [Bool.eq_iff_iff, ← hsame, beq_iff_eq]⟩

theorem verdict_swap (r : Relation) :
    (a.order? b).any (·.meets r) = (b.order? a).any (·.meets r.swap) := by
  rw [← order?_swap ha hb, Option.any_map]
  refine congrArg (Option.any · _) (funext fun o => ?_)
  exact (o.meets_swap r).symm

theorem exclusive_verdict : [Operator.gt, .eq, .lt].countP (Operator.verdict · a b) ≤ 1 := by
  cases ho : a.order? b with
  | none => cases h : a.same b <;> simp [Operator.verdict, Operator.relation?, ho, h]
  | some o =>
    have hsame := (same_of_order? ha hb ho).2
    cases o <;> simp [Operator.verdict, Operator.relation?, ho, hsame, Ordering.meets]

theorem gte_verdict : Operator.verdict .gte a b = true ↔
    Operator.verdict .gt a b = true ∨ (Operator.verdict .eq a b = true ∧ a.SameSort b) := by
  cases ho : a.order? b with
  | none =>
    have hnone := order?_eq_eq_iff ha hb
    rw [ho] at hnone
    simpa [Operator.verdict, Operator.relation?, ho] using hnone
  | some o =>
    obtain ⟨hsort, hsame⟩ := same_of_order? ha hb ho
    cases o <;> simp [Operator.verdict, Operator.relation?, ho, hsame, hsort, Ordering.meets]

omit ha hb in
/-- All four orderings are false exactly for values that do not lie anywhere. -/
theorem orderings_false_iff :
    (∀ op ∈ Operator.orderings, Operator.verdict op a b = false) ↔ a.order? b = none := by
  cases ho : a.order? b with
  | none => simp [Operator.orderings, Operator.verdict, Operator.relation?, ho]
  | some o =>
    cases o <;> simp [Operator.orderings, Operator.verdict, Operator.relation?, ho, Ordering.meets]

theorem lawful_verdict : Lawful a b (Operator.verdict · a b) (Operator.verdict · b a) where
  gt_swap := verdict_swap ha hb .gt
  gte_swap := verdict_swap ha hb .ge
  eq_swap := same_comm ha hb
  ne_eq_not := rfl
  exclusive := exclusive_verdict ha hb
  gte_iff := gte_verdict ha hb
  unordered has hbs first := by
    subst has hbs
    cases ha with
    | list each =>
    cases hb with
    | list eachOther =>
    rw [orderings_false_iff, order?, orderItems?_of_firstUnequal each first]
    have hv := each _ first.mem.1
    have hw := eachOther _ first.mem.2
    exact ⟨.of_order? hv hw, fun h => h.order? hv hw⟩

end Laws

/-! ## Predicates -/

/-- The laws for predicates: wherever paths lead to two values without fractions, the comparisons of the
one with the other give truth values, and these are lawful. -/
theorem predicates_lawful (ask : String → Value → Except Fault Value) {a b : Value} (ha : a.IsDiscrete)
    (hb : b.IsDiscrete) {values values' : Value} {path path' : String}
    (hl : values.lookup path = .ok (some a)) (hl' : values'.lookup path' = .ok (some b)) :
    ∃ ab ba : Operator → Bool, Lawful a b ab ba ∧ ∀ op ∈ Operator.comparisons,
      (∀ c, c.States ⟨path, op, b⟩ → Condition.holds ask values c = .ok (ab op)) ∧
      ∀ c, c.States ⟨path', op, a⟩ → Condition.holds ask values' c = .ok (ba op) := by
  refine ⟨_, _, lawful_verdict ha hb, fun op hop => ⟨fun c hc => ?_, fun c hc => ?_⟩⟩
  · rw [hc.holds ask, Predicate.holds_of_lookup (p := ⟨path, op, b⟩) hl]
    exact Operator.compare_eq_verdict ha hb hop
  · rw [hc.holds ask, Predicate.holds_of_lookup (p := ⟨path', op, a⟩) hl']
    exact Operator.compare_eq_verdict hb ha hop

/-- A number before a text. -/
def numberAndText : Value := .list [.int 1, .text "x"]

/-- What equals a number before what has no order. -/
def truthAndNull : Value := .list [.bool true, .null]

/-- Two lists that are unequal first at a text and null have no order. -/
theorem predicates_lawful_lists : numberAndText.IsDiscrete ∧ truthAndNull.IsDiscrete ∧
    ∀ op ∈ Operator.orderings, Condition.holds Condition.askNobody (.map [("row", numberAndText)])
      (Predicate.toValue ⟨"row", op, truthAndNull⟩) = .ok false := by
  have ha : numberAndText.IsDiscrete :=
    .list (List.forall_mem_cons.2 ⟨.int 1, List.forall_mem_singleton.2 (.text "x")⟩)
  have hb : truthAndNull.IsDiscrete :=
    .list (List.forall_mem_cons.2 ⟨.bool true, List.forall_mem_singleton.2 .null⟩)
  have hl : Value.lookup (.map [("row", numberAndText)]) "row" = .ok (some numberAndText) := rfl
  have hl' : Value.lookup (.map [("row", truthAndNull)]) "row" = .ok (some truthAndNull) := rfl
  obtain ⟨ab, ba, hlaw, hverdicts⟩ := predicates_lawful Condition.askNobody ha hb hl hl'
  have first : FirstUnequal [.int 1, .text "x"] [.bool true, .null] (.text "x") .null :=
    .tail (by simp [same, magnitude?, sameNumber, Number.Magnitude.compare_ofInt]) (.head (by simp [same]))
  have hfalse := (hlaw.unordered rfl rfl first).2 (.sorts (by simp [SameSort, magnitude?]))
  refine ⟨ha, hb, fun op hop => ?_⟩
  rw [(hverdicts op (by simp [Operator.comparisons, hop])).1 _ (.record _), hfalse op hop]

end Comparison

end EventHub
