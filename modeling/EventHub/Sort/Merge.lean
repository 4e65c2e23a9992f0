import EventHub.Sort.Gallop

/-!
# Merging rows in order

Two rows that are in order already become one. The items of the row that is not longer are held
against the items of the other, one after the other; when one row goes on winning, its items are
taken by leaps. The patience is the number of wins after which leaps are tried: leaps that pay
lower it, and giving them up raises it.

* `Merging`: two rows that are being merged.
* `merge`: two rows as one, with the patience after it.
* `Merging.finish_takeLong`: items of the long row keep their place.
-/

namespace EventHub.Sort

variable {α ε : Type}

/-- Two rows that are being merged, and the items merged so far, newest first. -/
structure Merging (α : Type) where
  merged : List α
  short : List α
  long : List α

/-- Moves items of the short row. -/
def Merging.takeShort (m : Merging α) (n : Nat) : Merging α :=
  { m with merged := (m.short.take n).reverse ++ m.merged, short := m.short.drop n }

/-- Moves items of the long row. -/
def Merging.takeLong (m : Merging α) (n : Nat) : Merging α :=
  { m with merged := (m.long.take n).reverse ++ m.merged, long := m.long.drop n }

/-- Needs nothing more to be compared? The last item of the short row belongs at the end. -/
def Merging.isOver (m : Merging α) : Bool := m.short.length ≤ 1 || m.long.isEmpty

/-- The rows as one when nothing more is compared. -/
def Merging.finish (m : Merging α) : List α := m.merged.reverse ++ (m.long ++ m.short)

/-- The way in which items are taken: one after the other, with the number of wins of each row
since the other won, or by leaps. -/
inductive Pace where
  | walk (short long : Nat)
  | leap (first : Bool)
deriving DecidableEq, Repr

/-- The length of a leap that pays. -/
def goodLeap : Nat := 7

section

variable (side : Side) (longFirst : α → α → Except ε Bool)

/-- Takes the items of the short row that come before the next one of the long row, then that. -/
def Merging.leapShort (m : Merging α) : Except ε (Nat × Merging α) :=
  if m.isOver then .ok (0, m) else
    match m.long with
    | [] => .ok (0, m)
    | y :: _ => do
      let n ← gallop side (fun x => return !(← longFirst x y)) m.short
      let m := m.takeShort n
      .ok (n, if m.isOver then m else m.takeLong 1)

/-- Takes the items of the long row that come before the next one of the short row, then that. -/
def Merging.leapLong (m : Merging α) : Except ε (Nat × Merging α) :=
  if m.isOver then .ok (0, m) else
    match m.short with
    | [] => .ok (0, m)
    | x :: _ => do
      let n ← gallop side (fun y => longFirst x y) m.long
      let m := m.takeLong n
      .ok (n, if m.isOver then m else m.takeShort 1)

/-- Takes a leap in each row, and tells whether one of them paid. -/
def Merging.leaps (m : Merging α) : Except ε (Bool × Merging α) :=
  match side with
  | .front => do
    let (n, m) ← m.leapShort side longFirst
    let (k, m) ← m.leapLong side longFirst
    .ok (goodLeap ≤ n || goodLeap ≤ k, m)
  | .back => do
    let (n, m) ← m.leapLong side longFirst
    let (k, m) ← m.leapShort side longFirst
    .ok (goodLeap ≤ n || goodLeap ≤ k, m)

/-- Does the next item of the long row come first? -/
def Merging.longWins (m : Merging α) : Except ε Bool :=
  match m.short, m.long with
  | x :: _, y :: _ => longFirst x y
  | _, _ => .ok false

/-- Merges until nothing more needs to be compared. Every turn takes an item, so as many turns are
enough as there are items. -/
def Merging.run : Nat → Nat → Pace → Merging α → Except ε (List α × Nat)
  | 0, patience, _, m => .ok (m.finish, patience)
  | turns + 1, patience, pace, m =>
    if m.isOver then .ok (m.finish, patience) else
      match pace with
      | .walk short long => do
        if ← m.longWins longFirst then
          let pace := if patience ≤ long + 1 then .leap true else .walk 0 (long + 1)
          run turns patience pace (m.takeLong 1)
        else
          let pace := if patience ≤ short + 1 then .leap true else .walk (short + 1) 0
          run turns patience pace (m.takeShort 1)
      | .leap first => do
        let patience := if first || patience ≤ 1 then patience else patience - 1
        let (paid, m) ← m.leaps side longFirst
        if m.isOver then .ok (m.finish, patience)
        else if paid then run turns patience (.leap false) m
        else run turns (patience + 1) (.walk 0 0) m

/-- Merges a short row into a long one that has the first item. -/
def mergeInto (patience : Nat) (short long : List α) : Except ε (List α × Nat) :=
  Merging.run side longFirst (short.length + long.length) patience (.walk 0 0)
    (Merging.takeLong ⟨[], short, long⟩ 1)

end

/-- Merges the parts of two rows that are neither before nor behind all of the other row. -/
def mergeOverlap (less : α → α → Except ε Bool) (patience : Nat) (left right : List α) :
    Except ε (List α × Nat) := do
  if left.length ≤ right.length then
    mergeInto .front (fun x y => less y x) patience left right
  else
    let (row, patience) ← mergeInto .back less patience right.reverse left.reverse
    .ok (row.reverse, patience)

/-- Two rows in order as one. -/
def merge (less : α → α → Except ε Bool) (patience : Nat) (left right : List α) :
    Except ε (List α × Nat) :=
  match right with
  | [] => .ok (left, patience)
  | first :: _ => do
    let before ← gallop .front (fun x => return !(← less first x)) left
    match (left.drop before).getLast? with
    | none => .ok (left ++ right, patience)
    | some last =>
      let behind ← gallop .back (fun y => return !(← less y last)) right.reverse
      let overlap := right.take (right.length - behind)
      if overlap.isEmpty then .ok (left ++ right, patience) else
        let (row, patience) ← mergeOverlap less patience (left.drop before) overlap
        .ok (left.take before ++ row ++ right.drop (right.length - behind), patience)

theorem Merging.finish_takeLong (m : Merging α) (n : Nat) :
    (m.takeLong n).finish = m.finish := by
  simp only [Merging.finish, Merging.takeLong, List.reverse_append, List.reverse_reverse,
    List.append_assoc]
  rw [← List.append_assoc (m.long.take n), List.take_append_drop]

end EventHub.Sort
