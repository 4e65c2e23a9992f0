import EventHub.Fault

/-!
# Paths

A path names its segments with points between them and walks from value to value: by key in
maps, by field in records, by index in lists and tuples.

* `walk_append`: a walk along two rows of segments is one walk after the other.
* `segmentsOf_append`: the segments of two paths with a point between them.
* `Value.lookup`: the value that a path leads to.
-/

namespace EventHub

/-- Splits a text at its points. -/
def segmentsOf : List Char → List (List Char)
  | [] => [[]]
  | c :: rest =>
    if c == '.' then [] :: segmentsOf rest
    else match segmentsOf rest with
      | [] => [[c]]
      | first :: more => (c :: first) :: more

theorem segmentsOf_ne_nil (cs : List Char) : segmentsOf cs ≠ [] := by
  cases cs with
  | nil => simp [segmentsOf]
  | cons c rest =>
    simp only [segmentsOf]
    split
    · simp
    · split <;> simp

theorem segmentsOf_append (cs ds : List Char) :
    segmentsOf (cs ++ '.' :: ds) = segmentsOf cs ++ segmentsOf ds := by
  induction cs with
  | nil => simp [segmentsOf]
  | cons c rest ih =>
    simp only [List.cons_append, segmentsOf, ih]
    split
    · rfl
    · cases h : segmentsOf rest with
      | nil => exact absurd h (segmentsOf_ne_nil rest)
      | cons first more => rfl

/-- The index that a segment writes. A segment of digits that are not all decimal is a fault. -/
def indexOf? (segment : String) : Except Fault (Option Nat) :=
  if segment.isEmpty || !segment.toList.all Text.isDigit then .ok none
  else match Number.readInt segment with
    | .ok n => .ok (some n.toNat)
    | .error .malformed => .error (.value (.intText segment))
    | .error (.tooLong digits) => .error (.value (.intDigits digits))

/-- The item of a list that a segment names. -/
def itemAt (items : List Value) (segment : String) : Except Fault (Option Value) :=
  match indexOf? segment with
  | .ok (some n) => .ok items[n]?
  | .ok none => .ok none
  | .error fault => .error fault

/-- The field of a record that a segment names. A record that was not checked may lack some. -/
def memberAt (kind : RecordKind) (fields : Fields) (segment : String) :
    Except Fault (Option Value) :=
  match Assoc.get? fields segment with
  | some v => .ok (some v)
  | none =>
    if kind.fieldNames.contains segment then .error (.noMember kind.name segment) else .ok none

/-- One segment further. -/
def Value.step (segment : String) : Value → Except Fault (Option Value)
  | .map fields => .ok (Assoc.get? fields segment)
  | .record kind fields => memberAt kind fields segment
  | .table entries => .ok (Assoc.get? (Value.textEntries entries) segment)
  | .list items | .tuple items => itemAt items segment
  | _ => .ok none

/-- Follows the segments as far as they lead. -/
def walk : List String → Value → Except Fault (Option Value)
  | [], v => .ok (some v)
  | segment :: rest, v => match v.step segment with
    | .ok (some w) => walk rest w
    | .ok none => .ok none
    | .error fault => .error fault

theorem walk_append (xs ys : List String) (v : Value) :
    walk (xs ++ ys) v = match walk xs v with
      | .ok (some w) => walk ys w
      | .ok none => .ok none
      | .error fault => .error fault := by
  induction xs generalizing v with
  | nil => rfl
  | cons x xs ih =>
    simp only [List.cons_append, walk]
    cases v.step x with
    | error fault => rfl
    | ok found => cases found with
      | none => rfl
      | some w => exact ih w

/-- The value that a path leads to. -/
def Value.lookupChars (v : Value) (path : List Char) : Except Fault (Option Value) :=
  walk ((segmentsOf path).map String.ofList) v

/-- The value that a path leads to. -/
def Value.lookup (v : Value) (path : String) : Except Fault (Option Value) :=
  v.lookupChars path.toList

end EventHub
