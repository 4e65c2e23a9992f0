/-!
# Galloping

How far a property goes on from the start of a row, when it holds up to some item and no further.
Probes at growing distances bound the place, and halving finds it.

* `halve`: the place within bounds.
* `gallop`: the place within a row.
* `halve_le`: the place is within the bounds.
-/

namespace EventHub.Sort

variable {α ε : Type}

/-- The end of a row that a reader of it starts at. -/
inductive Side where
  | front
  | back
deriving DecidableEq, Repr

/-- The item between two places that is looked at first. It is the same for both readers. -/
def Side.middle (s : Side) (low high : Nat) : Nat :=
  match s with
  | .front => low + (high - low) / 2
  | .back => low + (high - low - 1) / 2

theorem Side.middle_lt {low high : Nat} (s : Side) (h : low < high) : s.middle low high < high := by
  cases s <;> simp only [Side.middle] <;> omega

theorem Side.le_middle (s : Side) (low high : Nat) : low ≤ s.middle low high := by
  cases s <;> simp only [Side.middle] <;> omega

/-- The first place from `low` up to `high` at which a property does not hold. -/
def halve (s : Side) (holds : α → Except ε Bool) (row : List α) (low high : Nat) :
    Except ε Nat :=
  if h : low < high then
    have := s.middle_lt h
    have := s.le_middle low high
    match row[s.middle low high]? with
    | none => .ok low
    | some v => match holds v with
      | .ok true => halve s holds row (s.middle low high + 1) high
      | .ok false => halve s holds row low (s.middle low high)
      | .error e => .error e
  else .ok low
termination_by high - low

/-- The last place found at which a property holds and the first at which it may not. The probes
after `last` start at `next`, and each goes twice as far as the one before. -/
def probe (holds : α → Except ε Bool) (row : List α) (last next : Nat) : Except ε (Nat × Nat) :=
  if h : next < row.length then
    match holds row[next] with
    | .ok true => probe holds row next (2 * next + 1)
    | .ok false => .ok (last, next)
    | .error e => .error e
  else .ok (last, row.length)
termination_by row.length - next

/-- The number of items at the start of a row with a property. -/
def gallop (s : Side) (holds : α → Except ε Bool) : List α → Except ε Nat
  | [] => .ok 0
  | v :: rest => do
    if ← holds v then
      let (last, next) ← probe holds (v :: rest) 0 1
      halve s holds (v :: rest) (last + 1) next
    else .ok 0

theorem halve_le {s : Side} {holds : α → Except ε Bool} {row : List α} {low high place : Nat}
    (hl : low ≤ high) (h : halve s holds row low high = .ok place) : place ≤ high := by
  fun_induction halve s holds row low high with
  | case1 low high hlt _ _ _ =>
    cases h
    omega
  | case2 low high hlt _ _ v _ _ ih =>
    have := s.middle_lt hlt
    exact ih (by omega) h
  | case3 low high hlt _ _ v _ _ ih =>
    have := s.middle_lt hlt
    have := s.le_middle low high
    have := ih (by omega) h
    omega
  | case4 => simp at h
  | case5 low high hlt =>
    cases h
    exact hl

end EventHub.Sort
