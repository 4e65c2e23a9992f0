import EventHub.Value.Compare
import Mathlib.Data.List.Perm.Subperm

/-!
# The order of values

Laws of equality and of the four orderings among values without fractions.

* **Equality** (`Value.same_comm`): it is the same both ways, for maps whatever the order of their keys.
* **Orderings** (`Value.ordered_as`): two values lie somewhere, and the orderings tell where, or every
  ordering is a fault. The other way round the place is the opposite one (`Value.order?_swap`), and it is
  the same place exactly for values that are equal and have an order (`Value.order?_eq_eq_iff`).
* **First unequal items** (`Value.Unordered.of_order?`, `Value.Unordered.order?`): which values do not lie
  anywhere.
-/

namespace EventHub

/-! ## Equality -/

theorem compareRows_eq_eq_iff {as bs : List Nat} : compareRows as bs = .eq ↔ as = bs := by
  induction as generalizing bs with
  | nil => cases bs <;> simp [compareRows]
  | cons a as ih =>
    cases bs with
    | nil => simp [compareRows]
    | cons b bs =>
      rw [compareRows, List.cons.injEq, ← ih]
      cases hab : Ord.compare a b with
      | eq => simp [Nat.compare_eq_eq.1 hab]
      | lt => simp [Nat.ne_of_lt (Nat.compare_eq_lt.1 hab)]
      | gt => simp [Nat.ne_of_gt (Nat.compare_eq_gt.1 hab)]

theorem compareTexts_eq_eq_iff {s t : String} : compareTexts s t = .eq ↔ s = t := by
  rw [compareTexts, compareRows_eq_eq_iff, List.map_inj_right fun _ _ => Char.toNat_inj.1]
  exact String.toList_inj

theorem compareTexts_swap (s t : String) : (compareTexts s t).swap = compareTexts t s :=
  compareRows_swap _ _

theorem sameNumber_comm (x y : Number.Magnitude) : sameNumber x y = sameNumber y x := by
  unfold sameNumber
  rw [← Number.Magnitude.compare_swap x y]
  match x.compare y with
  | none => rfl
  | some .lt => rfl
  | some .eq => rfl
  | some .gt => rfl

namespace Value

/-- Values built of null, truth values, integers and texts by lists and by maps with distinct keys. -/
inductive IsDiscrete : Value → Prop
  | null : IsDiscrete null
  | bool (b : Bool) : IsDiscrete (bool b)
  | int (n : Int) : IsDiscrete (int n)
  | text (s : String) : IsDiscrete (text s)
  | list {items : List Value} (each : ∀ v ∈ items, v.IsDiscrete) : IsDiscrete (list items)
  | map {fields : Fields} (distinct : (Assoc.keys fields).Nodup) (each : ∀ e ∈ fields, e.2.IsDiscrete) :
    IsDiscrete (map fields)

variable {v w : Value}

theorem IsDiscrete.alike_eq (hv : v.IsDiscrete) (w : Value) : v.alike w = v.same w := by
  cases hv <;> simp [alike, sharesMark]

theorem same_of_magnitude? {x y : Number.Magnitude} (hv : v.magnitude? = some x)
    (hw : w.magnitude? = some y) : v.same w = sameNumber x y := by
  cases v with
  | bool _ | int _ | float _ =>
    cases hv
    simp [same, hw]
  | nan mark =>
    cases hv
    simp [same, sameNumber, Number.Magnitude.compare]
  | _ => cases hv

theorem same_of_one_number (hv : v.magnitude?.isSome = true) (hw : w.magnitude? = none) :
    v.same w = false ∧ w.same v = false := by
  cases v with
  | bool _ | int _ | float _ | nan _ => cases w <;> simp_all [same, magnitude?]
  | _ => cases hv

theorem sameItems_comm {vs ws : List Value} (h : ∀ v ∈ vs, ∀ w ∈ ws, v.alike w = w.alike v) :
    sameItems vs ws = sameItems ws vs := by
  induction vs generalizing ws with
  | nil => cases ws <;> simp [sameItems]
  | cons v vs ih =>
    cases ws with
    | nil => simp [sameItems]
    | cons w ws =>
      have hhead : v.alike w = w.alike v := h v List.mem_cons_self w List.mem_cons_self
      have hrest : sameItems vs ws = sameItems ws vs :=
        ih fun v' hv w' hw => h v' (List.mem_cons_of_mem v hv) w' (List.mem_cons_of_mem w hw)
      simp only [alike] at hhead
      rw [sameItems, sameItems, hhead, hrest]

theorem allEntries_iff {fields others : Fields} : allEntries fields others = true ↔
    ∀ e ∈ fields, ∃ w, Assoc.get? others e.1 = some w ∧ e.2.alike w = true := by
  induction fields with
  | nil => simp [allEntries]
  | cons e rest ih =>
    obtain ⟨k, v⟩ := e
    rw [allEntries, Bool.and_eq_true, ih, List.forall_mem_cons]
    refine and_congr_left fun _ => ?_
    cases Assoc.get? others k <;> simp [alike]

/-- Equality of entries goes over to the other side: distinct keys that are as many are the same keys. -/
theorem allEntries_swap {fields others : Fields} (hf : (Assoc.keys fields).Nodup)
    (ho : (Assoc.keys others).Nodup) (hlength : fields.length = others.length)
    (hswap : ∀ e ∈ fields, ∀ e' ∈ others, e.2.alike e'.2 = e'.2.alike e.2)
    (h : allEntries fields others = true) : allEntries others fields = true := by
  rw [allEntries_iff] at h ⊢
  have hsub : Assoc.keys fields ⊆ Assoc.keys others := by
    intro k hk
    obtain ⟨e, he, rfl⟩ := List.mem_map.1 hk
    obtain ⟨w, hw, -⟩ := h e he
    exact List.mem_map.2 ⟨_, Assoc.mem_of_get? hw, rfl⟩
  have hperm : (Assoc.keys fields).Perm (Assoc.keys others) :=
    (List.subperm_of_subset hf hsub).perm_of_length_le (by simp [Assoc.keys, hlength])
  rintro ⟨k, w⟩ he
  have hk : k ∈ Assoc.keys fields := hperm.mem_iff.2 (List.mem_map.2 ⟨_, he, rfl⟩)
  obtain ⟨⟨k, v⟩, hv, rfl⟩ := List.mem_map.1 hk
  obtain ⟨w', hw', halike⟩ := h _ hv
  obtain rfl : w = w' := Option.some.inj (((Assoc.mem_iff_get? ho).1 he).symm.trans hw')
  exact ⟨v, (Assoc.mem_iff_get? hf).1 hv, (hswap _ hv _ he) ▸ halike⟩

theorem sameMaps_comm {fields others : Fields} (hf : (Assoc.keys fields).Nodup)
    (ho : (Assoc.keys others).Nodup)
    (hswap : ∀ e ∈ fields, ∀ e' ∈ others, e.2.alike e'.2 = e'.2.alike e.2) :
    (map fields).same (map others) = (map others).same (map fields) := by
  simp only [same]
  rw [Bool.eq_iff_iff, Bool.and_eq_true, Bool.and_eq_true, beq_iff_eq, beq_iff_eq]
  constructor
  · rintro ⟨hlength, h⟩
    exact ⟨hlength.symm, allEntries_swap hf ho hlength hswap h⟩
  · rintro ⟨hlength, h⟩
    exact ⟨hlength.symm, allEntries_swap ho hf hlength (fun e he e' he' => (hswap e' he' e he).symm) h⟩

theorem same_comm_of_number (hv : v.magnitude?.isSome = true) : v.same w = w.same v := by
  cases hw : w.magnitude? with
  | none => rw [(same_of_one_number hv hw).1, (same_of_one_number hv hw).2]
  | some y =>
    obtain ⟨x, hx⟩ := Option.isSome_iff_exists.1 hv
    rw [same_of_magnitude? hx hw, same_of_magnitude? hw hx, sameNumber_comm]

/-- Equality is the same both ways. The induction is on the first value. -/
theorem same_comm (hv : v.IsDiscrete) (hw : w.IsDiscrete) : v.same w = w.same v := by
  induction hv generalizing w with
  | null => cases hw <;> simp [same, magnitude?]
  | bool b => exact same_comm_of_number rfl
  | int n => exact same_comm_of_number rfl
  | text s => cases hw <;> simp [same, magnitude?, eq_comm]
  | @list items each ih =>
    cases hw with
    | @list others eachOther =>
      rw [same, same]
      refine sameItems_comm fun v hv w hw => ?_
      rw [(each v hv).alike_eq, (eachOther w hw).alike_eq]
      exact ih v hv (eachOther w hw)
    | _ => simp [same, magnitude?]
  | @map fields distinct each ih =>
    cases hw with
    | @map others distinctOther eachOther =>
      refine sameMaps_comm distinct distinctOther fun e he e' he' => ?_
      rw [(each e he).alike_eq, (eachOther e' he').alike_eq]
      exact ih e he (eachOther e' he')
    | _ => simp [same, magnitude?]

/-! ## Orderings -/

mutual

/-- How two values lie: numbers by value, texts by code point, lists by their first unequal items. Values
of other sorts do not lie anywhere. -/
def order? : Value → Value → Option Ordering
  | text a, text b => some (compareTexts a b)
  | list a, list b => orderItems? a b
  | v, w => match v.magnitude?, w.magnitude? with
    | some x, some y => x.compare y
    | _, _ => none

/-- How two lists lie: as their first unequal items do, or by their lengths. -/
def orderItems? : List Value → List Value → Option Ordering
  | [], ws => some (if ws.isEmpty then .eq else .lt)
  | _ :: _, [] => some .gt
  | v :: vs, w :: ws => if v.alike w then orderItems? vs ws else v.order? w

end

/-- The two values are of one sort that has an order: numbers, texts or lists. -/
def SameSort (v w : Value) : Prop :=
  (v.magnitude?.isSome = true ∧ w.magnitude?.isSome = true) ∨ (∃ s t, v = text s ∧ w = text t) ∨
    ∃ vs ws, v = list vs ∧ w = list ws

/-- What the orderings of two values give: what their position tells, or for every relation a fault. -/
def OrderedAs (v w : Value) (r : Relation) : Option Ordering → Prop
  | some o => v.ordered r w = .ok (o.meets r)
  | none => ∃ flaw, v.ordered r w = .error flaw

/-- The orderings of two lists follow those of their items. -/
theorem itemsOrdered_as {vs ws : List Value} (r : Relation)
    (h : ∀ v ∈ vs, ∀ w ∈ ws, v.OrderedAs w r (v.order? w)) :
    (list vs).OrderedAs (list ws) r (orderItems? vs ws) := by
  induction vs generalizing ws with
  | nil => simp [OrderedAs, ordered, itemsOrdered, orderItems?]
  | cons v vs ih =>
    cases ws with
    | nil => simp [OrderedAs, ordered, itemsOrdered, orderItems?]
    | cons w ws =>
      have hrest := ih fun v' hv w' hw => h v' (List.mem_cons_of_mem v hv) w' (List.mem_cons_of_mem w hw)
      have hhead := h v List.mem_cons_self w List.mem_cons_self
      unfold OrderedAs at hrest hhead ⊢
      simp only [ordered, itemsOrdered, orderItems?] at hrest ⊢
      cases v.alike w with
      | true => simpa using hrest
      | false => simpa using hhead

/-- All four orderings follow from how the values lie. -/
theorem ordered_as (hv : v.IsDiscrete) (hw : w.IsDiscrete) (r : Relation) :
    v.OrderedAs w r (v.order? w) := by
  induction hv generalizing w with
  | null | text _ | map _ _ _ => cases hw <;> simp [OrderedAs, order?, ordered, magnitude?]
  | bool _ | int _ =>
    cases hw <;>
      simp [OrderedAs, order?, ordered, magnitude?, numbersMeet, Number.Magnitude.compare_ofInt]
  | @list items each ih =>
    cases hw with
    | @list others eachOther =>
      rw [order?]
      exact itemsOrdered_as r fun v hv w hw => ih v hv (eachOther w hw)
    | _ => simp [OrderedAs, order?, ordered, magnitude?]

theorem orderItems?_swap {vs ws : List Value}
    (halike : ∀ v ∈ vs, ∀ w ∈ ws, v.alike w = w.alike v)
    (horder : ∀ v ∈ vs, ∀ w ∈ ws, (v.order? w).map Ordering.swap = w.order? v) :
    (orderItems? vs ws).map Ordering.swap = orderItems? ws vs := by
  induction vs generalizing ws with
  | nil => cases ws <;> simp [orderItems?]
  | cons v vs ih =>
    cases ws with
    | nil => simp [orderItems?]
    | cons w ws =>
      have hrest := ih
        (fun v' hv w' hw => halike v' (List.mem_cons_of_mem v hv) w' (List.mem_cons_of_mem w hw))
        fun v' hv w' hw => horder v' (List.mem_cons_of_mem v hv) w' (List.mem_cons_of_mem w hw)
      have hhead := horder v List.mem_cons_self w List.mem_cons_self
      rw [orderItems?, orderItems?, ← halike v List.mem_cons_self w List.mem_cons_self]
      split
      · exact hrest
      · exact hhead

theorem alike_comm (hv : v.IsDiscrete) (hw : w.IsDiscrete) : v.alike w = w.alike v := by
  rw [hv.alike_eq, hw.alike_eq, same_comm hv hw]

/-- The other way round the position is the opposite one. -/
theorem order?_swap (hv : v.IsDiscrete) (hw : w.IsDiscrete) :
    (v.order? w).map Ordering.swap = w.order? v := by
  induction hv generalizing w with
  | null | map _ _ _ => cases hw <;> simp [order?, magnitude?]
  | bool _ | int _ => cases hw <;> simp [order?, magnitude?, Number.Magnitude.compare_swap]
  | text s => cases hw <;> simp [order?, magnitude?, compareTexts_swap]
  | @list items each ih =>
    cases hw with
    | @list others eachOther =>
      rw [order?, order?]
      exact orderItems?_swap (fun v hv w hw => alike_comm (each v hv) (eachOther w hw))
        fun v hv w hw => ih v hv (eachOther w hw)
    | _ => simp [order?, magnitude?]

theorem orderItems?_eq_eq_iff {vs ws : List Value}
    (h : ∀ v ∈ vs, ∀ w ∈ ws, v.order? w = some .eq → v.alike w = true) :
    orderItems? vs ws = some .eq ↔ sameItems vs ws = true := by
  induction vs generalizing ws with
  | nil => cases ws <;> simp [orderItems?, sameItems]
  | cons v vs ih =>
    cases ws with
    | nil => simp [orderItems?, sameItems]
    | cons w ws =>
      have hrest := ih fun v' hv w' hw => h v' (List.mem_cons_of_mem v hv) w' (List.mem_cons_of_mem w hw)
      have hhead := h v List.mem_cons_self w List.mem_cons_self
      rw [orderItems?, sameItems, ← alike]
      cases halike : v.alike w with
      | true => simpa using hrest
      | false => simpa [halike] using hhead

/-- Two values lie at the same place exactly when they are equal and of a sort that has an order. -/
theorem order?_eq_eq_iff (hv : v.IsDiscrete) (hw : w.IsDiscrete) :
    v.order? w = some .eq ↔ v.same w = true ∧ v.SameSort w := by
  induction hv generalizing w with
  | null | map _ _ _ => cases hw <;> simp [order?, magnitude?, SameSort]
  | bool _ | int _ => cases hw <;> simp [order?, magnitude?, SameSort, same, sameNumber]
  | text s => cases hw <;> simp [order?, magnitude?, SameSort, same, compareTexts_eq_eq_iff]
  | @list items each ih =>
    cases hw with
    | @list others eachOther =>
      have heach : ∀ v ∈ items, ∀ w ∈ others, v.order? w = some .eq → v.alike w = true := by
        intro v hv w hw h
        rw [(each v hv).alike_eq]
        exact ((ih v hv (eachOther w hw)).1 h).1
      simpa [order?, same, SameSort] using orderItems?_eq_eq_iff heach
    | _ => simp [order?, magnitude?, SameSort]

/-! ## First unequal items -/

/-- The first items of two lists that are unequal. -/
inductive FirstUnequal : List Value → List Value → Value → Value → Prop
  | head {vs ws : List Value} {v w : Value} (unequal : v.same w = false) :
    FirstUnequal (v :: vs) (w :: ws) v w
  | tail {vs ws : List Value} {v w x y : Value} (equal : v.same w = true)
    (rest : FirstUnequal vs ws x y) : FirstUnequal (v :: vs) (w :: ws) x y

/-- The two values have no order: they are of different sorts or of one without order, or they are lists and
their first unequal items have none. -/
inductive Unordered : Value → Value → Prop
  | sorts {v w : Value} (other : ¬ v.SameSort w) : Unordered v w
  | items {vs ws : List Value} {v w : Value} (first : FirstUnequal vs ws v w)
    (unordered : Unordered v w) : Unordered (list vs) (list ws)

theorem orderItems?_of_firstUnequal {vs ws : List Value} {v w : Value} (hvs : ∀ x ∈ vs, x.IsDiscrete)
    (h : FirstUnequal vs ws v w) : orderItems? vs ws = v.order? w := by
  induction h with
  | head unequal =>
    rw [orderItems?, (hvs _ List.mem_cons_self).alike_eq, unequal]
    rfl
  | tail equal rest ih =>
    rw [orderItems?, (hvs _ List.mem_cons_self).alike_eq, equal, if_pos rfl]
    exact ih fun x hx => hvs x (List.mem_cons_of_mem _ hx)

theorem FirstUnequal.mem {vs ws : List Value} {v w : Value} (h : FirstUnequal vs ws v w) :
    v ∈ vs ∧ w ∈ ws := by
  induction h with
  | head => exact ⟨List.mem_cons_self, List.mem_cons_self⟩
  | tail _ _ ih => exact ⟨List.mem_cons_of_mem _ ih.1, List.mem_cons_of_mem _ ih.2⟩

theorem order?_of_otherSort (hv : v.IsDiscrete) (hw : w.IsDiscrete) (h : ¬ v.SameSort w) :
    v.order? w = none := by
  cases hv <;> cases hw <;> simp_all [SameSort, order?, magnitude?]

/-- Lists that do not lie anywhere have unequal items, and the first ones do not. -/
theorem firstUnequal_of_orderItems? {vs ws : List Value} (hvs : ∀ x ∈ vs, x.IsDiscrete)
    (h : orderItems? vs ws = none) : ∃ v w, FirstUnequal vs ws v w ∧ v.order? w = none := by
  induction vs generalizing ws with
  | nil => simp [orderItems?] at h
  | cons v vs ih =>
    cases ws with
    | nil => simp [orderItems?] at h
    | cons w ws =>
      rw [orderItems?, (hvs v List.mem_cons_self).alike_eq] at h
      split at h
      · rename_i hequal
        obtain ⟨x, y, hfirst, horder⟩ := ih (fun x hx => hvs x (List.mem_cons_of_mem v hx)) h
        exact ⟨x, y, .tail hequal hfirst, horder⟩
      · rename_i hunequal
        exact ⟨v, w, .head (by simpa using hunequal), h⟩

theorem Unordered.of_order? (hv : v.IsDiscrete) (hw : w.IsDiscrete) (h : v.order? w = none) :
    v.Unordered w := by
  induction hv generalizing w with
  | null | map _ _ _ => exact .sorts (by simp [SameSort, magnitude?])
  | bool _ | int _ | text _ =>
    -- Two values of one of these sorts always lie somewhere.
    refine .sorts fun hsort => ?_
    cases hw <;> simp_all [SameSort, order?, magnitude?, Number.Magnitude.compare_ofInt]
  | @list items each ih =>
    cases hw with
    | @list others eachOther =>
      rw [order?] at h
      obtain ⟨x, y, hfirst, horder⟩ := firstUnequal_of_orderItems? each h
      exact .items hfirst (ih x hfirst.mem.1 (eachOther y hfirst.mem.2) horder)
    | _ => exact .sorts (by simp [SameSort, magnitude?])

theorem Unordered.order? (h : v.Unordered w) (hv : v.IsDiscrete) (hw : w.IsDiscrete) :
    v.order? w = none := by
  induction h with
  | sorts other => exact order?_of_otherSort hv hw other
  | items first unordered ih =>
    cases hv with
    | list each =>
    cases hw with
    | list eachOther =>
      rw [Value.order?, orderItems?_of_firstUnequal each first]
      exact ih (each _ first.mem.1) (eachOther _ first.mem.2)

end Value

end EventHub
