import EventHub.Sort.Merge

/-!
# Sorting by runs

A row is put in order by the runs that rise or fall in it already. A short run is made longer by
insertion, and runs are merged two by two. The order in which they are merged follows from where
they lie in the row: the boundary between two runs has a power, the number of halvings of the row
that tell the middles of the runs apart, and boundaries of higher power go first.

* `sort`: a row in order, or the first fault that a comparison tells of.
* `insertAt`: a row with one more item, and `length_insertAt`, its length.
-/

namespace EventHub.Sort

variable {α ε : Type}

/-- A run of a row that is put in order: where it starts, its items in order, and the power of the
boundary at its end, once a run follows. -/
structure Run (α : Type) where
  start : Nat
  items : List α
  power : Nat

/-- The fewest items of a run that is merged in a row of `n`, but for the last. `odd` tells whether
a half was left over. -/
def leastRun (odd : Bool) (n : Nat) : Nat :=
  if n < 64 then n + odd.toNat else leastRun (odd || n % 2 == 1) (n / 2)
termination_by n

/-- The number of halvings of a row of `n` items that tell apart the middles of a run from `start`
on and of the run behind it. -/
def boundaryPower (start first second n : Nat) : Nat :=
  let a := 2 * start + first
  let b := a + first + second
  ((List.range n).find? fun k => a * Nat.pow 2 k / n != b * Nat.pow 2 k / n).getD n

/-- The row with an item at a place. -/
def insertAt (v : α) (place : Nat) (row : List α) : List α := row.take place ++ v :: row.drop place

section

variable (less : α → α → Except ε Bool)

/-- The number of items that go on falling, or go on not falling. -/
def runAfter (falling : Bool) (previous : α) : List α → Except ε Nat
  | [] => .ok 0
  | v :: rest => do
    if (← less v previous) == falling then .ok ((← runAfter falling v rest) + 1) else .ok 0

/-- The run at the start of a row, brought to rising order, and its length. -/
def leadingRun (items : List α) : Except ε (List α × Nat) :=
  match items with
  | v :: w :: rest => do
    let falling ← less w v
    let n := (← runAfter less falling w rest) + 2
    .ok (if falling then (items.take n).reverse else items.take n, n)
  | items => .ok (items, items.length)

/-- Puts items into a row in order. -/
def insertAll (row : List α) : List α → Except ε (List α)
  | [] => .ok row
  | v :: rest => do
    let place ← halve .front (fun w => return !(← less v w)) row 0 row.length
    insertAll (insertAt v place row) rest

/-- Merges the last two of the runs, which are named last first. -/
def mergeLast (patience : Nat) (second first : Run α) : Except ε (Run α × Nat) := do
  let (items, patience) ← merge less patience first.items second.items
  .ok ({ first with items }, patience)

/-- Merges runs until no boundary has a higher power than the one of the run that comes next. The
first run of the list is the last of the row. -/
def settle (power : Nat) : Nat → List (Run α) → Except ε (List (Run α) × Nat)
  | patience, last :: before :: rest => do
    if power < before.power then
      let (run, patience) ← mergeLast less patience last before
      settle power patience (run :: rest)
    else .ok ({ last with power } :: before :: rest, patience)
  | patience, [last] => .ok ([{ last with power }], patience)
  | patience, [] => .ok ([], patience)
termination_by _ runs => runs.length

/-- Merges all runs. -/
def mergeAll : Nat → List (Run α) → Except ε (List α)
  | _, [] => .ok []
  | _, [run] => .ok run.items
  | patience, last :: before :: first :: rest => do
    if first.items.length < last.items.length then
      let (run, patience) ← mergeLast less patience before first
      mergeAll patience (last :: run :: rest)
    else
      let (run, patience) ← mergeLast less patience last before
      mergeAll patience (run :: first :: rest)
  | patience, [last, first] => do
    let (run, _) ← mergeLast less patience last first
    .ok run.items
termination_by _ runs => runs.length

/-- Takes the runs of what is left of a row of `n` items. Every turn takes a run, so as many turns
are enough as there are items. -/
def takeRuns (least n : Nat) : Nat → Nat → List (Run α) → List α → Except ε (List α)
  | _, patience, runs, [] => mergeAll less patience runs
  | 0, patience, runs, _ => mergeAll less patience runs
  | turns + 1, patience, runs, left => do
    let (run, found) ← leadingRun less left
    let length := if found < least then min least left.length else found
    let items ← insertAll less run ((left.take length).drop found)
    let (runs, patience) ← match runs with
      | [] => pure ([], patience)
      | last :: _ =>
        settle less (boundaryPower last.start last.items.length length n) patience runs
    takeRuns least n turns patience (⟨n - left.length, items, 0⟩ :: runs) (left.drop length)

/-- A row in order. -/
def sort (items : List α) : Except ε (List α) :=
  takeRuns less (leastRun false items.length) items.length items.length goodLeap [] items

end

theorem length_insertAt (v : α) (place : Nat) (row : List α) :
    (insertAt v place row).length = row.length + 1 := by
  simp only [insertAt, List.length_append, List.length_take, List.length_cons, List.length_drop]
  omega

end EventHub.Sort
