import EventHub.Fault
import EventHub.Number.Binary64
import EventHub.Value.Table

/-!
# Converting values

Numbers, lists and maps made of values of other types.

* `Value.toMap_map`: a map is kept.
-/

namespace EventHub.Value

/-- The characters whose codes are the bytes. -/
def latinChars (bytes : List UInt8) : List Char := bytes.map fun b => Char.ofNat b.toNat

/-- What was read as an integer, or the fault of a text that is none. -/
def intRead (malformed : ValueFlaw) : Except Number.IntFault Int → Except Fault Int
  | .ok n => .ok n
  | .error .malformed => .error (.value malformed)
  | .error (.tooLong digits) => .error (.value (.intDigits digits))

/-- A value as an integer; a fraction is cut off. -/
def toInt : Value → Except Fault Int
  | bool b => .ok (if b then 1 else 0)
  | int n => .ok n
  | float x => match Number.Magnitude.ofFloat x with
    | .nan => .error (.value .nanToInt)
    | .negInfinity | .posInfinity => .error .infiniteToInt
    | .finite d => .ok d.truncate
  | nan _ => .error (.value .nanToInt)
  | text s => intRead (.intText s) (Number.readInt s)
  | bytes bs => intRead (.intTextBytes bs) (Number.readAsciiInt (latinChars bs))
  | v => .error (.type (.intArgument v.typeName))

/-- The least positive integer that rounds to infinity. -/
def floatLimit : Nat := Nat.pow 2 1024 - Nat.pow 2 970

/-- The binary64 number next to an integer. -/
def floatOfInt (n : Int) : Except Fault Float :=
  if floatLimit ≤ n.natAbs then .error .intTooLarge
  else .ok (Number.ofDecimal (n < 0) n.natAbs 0)

/-- A value as a binary64 number. -/
def toFloat : Value → Except Fault Float
  | bool b => .ok (if b then 1 else 0)
  | int n => floatOfInt n
  | float x => .ok x
  | nan _ => .ok (0 / 0)
  | text s => match Number.readFloat? s with
    | some x => .ok x
    | none => .error (.value (.floatText s))
  | bytes bs => match Number.readAsciiFloat? (latinChars bs) with
    | some x => .ok x
    | none => .error (.value (.floatTextBytes bs))
  | v => .error (.type (.floatArgument v.typeName))

/-- The items of a value that can be gone through. -/
def toList : Value → Except Fault (List Value)
  | list items | tuple items | set items => .ok items
  | text s => .ok (s.toList.map fun c => text c.toString)
  | bytes bs => .ok (bs.map fun b => int b.toNat)
  | map fields => .ok (fields.map fun (k, _) => text k)
  | table entries => .ok (entries.map (·.1))
  | record _ fields => .ok (fields.map fun (k, v) => tuple [text k, v])
  | v => .error (.type (.notIterable v.typeName))

/-- The number of items of a value; a value that has none counts none. -/
def count (v : Value) : Nat :=
  match v.toList with
  | .ok items => items.length
  | .error _ => 0

/-- The entries that a list of pairs describes; `index` is the place of the first of them. -/
def pairs (index : Nat) : List Value → Except Fault (List (Value × Value))
  | [] => .ok []
  | v :: rest => match v.toList with
    | .error _ => .error (.type (.notPair index))
    | .ok [key, value] => match key.unhashable? with
      | some name => .error (.type (.unhashable name))
      | none => do
        let more ← pairs (index + 1) rest
        .ok ((key, value) :: more)
    | .ok items => .error (.value (.pairLength index items.length))

/-- A value as a map or table: one as it is, the fields of a record, or the entries that a list of
pairs describes. -/
def toMap : Value → Except Fault Value
  | map fields => .ok (map fields)
  | table entries => .ok (table entries)
  | record _ fields => .ok (map fields)
  | v => do
    let items ← v.toList
    .ok (ofEntries (← pairs 0 items))

theorem toMap_map (fields : Fields) : (map fields).toMap = .ok (map fields) := rfl

end EventHub.Value
