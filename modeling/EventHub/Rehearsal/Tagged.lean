import EventHub.Json.Write
import EventHub.Number.Text
import EventHub.Rehearsal.Loose
import EventHub.Value.Table

/-!
# Tagged values

A form of values in which only JSON values occur: every other value is a map of one entry, whose
key is a tag. Records are told by their kind and their document. Rehearsals are given and give values in
this form; the hub does not know it.

* `tagged`: the tagged form of a value.
* `markedNan`: a tagged form in which every number that is none is told from the others.
* `untagged`: the value of a tagged form. A record is checked, and may draw an id.
-/

namespace EventHub.Rehearsal

variable {α : Type}

/-- A map of one entry. -/
def tag (name : String) (v : Value) : Value := .map [(name, v)]

/-- A byte in two digits. -/
def byteText (b : UInt8) : String := String.ofList (Text.hexText 2 b.toNat)

/-- The tagged form of a number. -/
def taggedFloat (x : Float) : Value :=
  if x.isNaN then tag "$float" (.text "nan")
  else if x.isInf then tag "$float" (.text (if x < 0 then "-inf" else "inf"))
  else .float x

/-- Items in the order of their JSON texts. -/
def inTextOrder (items : List Value) : List Value :=
  ((items.map fun v => (Json.write v, v)).mergeSort fun a b => a.1 ≤ b.1).map (·.2)

mutual

/-- The tagged form of a value without records. -/
def taggedPlain : Value → Value
  | .float x => taggedFloat x
  | .nan _ => tag "$float" (.text "nan")
  | .bytes bs => tag "$bytes" (.text (String.join (bs.map byteText)))
  | .list items => .list (taggedItems items)
  | .tuple items => tag "$tuple" (.list (taggedItems items))
  | .set items => tag "$set" (.list (inTextOrder (taggedItems items)))
  | .map fields => .map (taggedFields fields)
  | .table entries => .map (Assoc.ofList (taggedEntries entries))
  | .moment m => tag "$datetime" (.text m.text)
  | .function name => tag "$fn" (.text name)
  | v => v

/-- The tagged form of every item. -/
def taggedItems : List Value → List Value
  | [] => []
  | v :: rest => taggedPlain v :: taggedItems rest

/-- The tagged form of every entry. -/
def taggedFields : List (String × Value) → List (String × Value)
  | [] => []
  | (k, v) :: rest => (k, taggedPlain v) :: taggedFields rest

/-- The tagged form of every entry of a table; keys are told as text. -/
def taggedEntries : List (Value × Value) → List (String × Value)
  | [] => []
  | (k, v) :: rest => (k.plain, taggedPlain v) :: taggedEntries rest

end

mutual

/-- The value with its outermost records told by kind and document. -/
def withDocuments : Value → Value
  | .list items => .list (documentItems items)
  | .tuple items => .tuple (documentItems items)
  | .map fields => .map (documentFields fields)
  | .table entries => .table (documentEntries entries)
  | .record kind fields =>
    .map [("$model", .text kind.name), ("value", (Value.record kind fields).document)]
  | v => v

/-- Every item with its records told. -/
def documentItems : List Value → List Value
  | [] => []
  | v :: rest => withDocuments v :: documentItems rest

/-- Every entry with its records told. -/
def documentFields : List (String × Value) → List (String × Value)
  | [] => []
  | (k, v) :: rest => (k, withDocuments v) :: documentFields rest

/-- Every entry of a table with its records told. -/
def documentEntries : List (Value × Value) → List (Value × Value)
  | [] => []
  | (k, v) :: rest => (k, withDocuments v) :: documentEntries rest

end

/-- The tagged form of a value. -/
def tagged (v : Value) : Value := taggedPlain (withDocuments v)

/-! ## Reading -/

/-- The bytes that pairs of hexadecimal digits write. -/
def bytesOfHex : List Char → List UInt8
  | a :: b :: rest =>
    match Json.hexDigit? a, Json.hexDigit? b with
    | some x, some y => UInt8.ofNat (16 * x + y) :: bytesOfHex rest
    | _, _ => bytesOfHex (b :: rest)
  | _ => []

/-- The number of a name; none is marked with zero. -/
def numberOfName (name : String) : Value :=
  let x := (Number.readFloat? name).getD (0 / 0)
  if x.isNaN then .nan 0 else .float x

/-- The members of a set, each once; only what can be looked up can be one. -/
def distinct : List Value → Except Fault (List Value)
  | items => items.foldlM (fun known v => match v.unhashable? with
    | some name => .error (.type (.unhashable name))
    | none => .ok (if known.any v.alike then known else known ++ [v])) []

/-- The number of places that a set of so many members has: eight, and four times as many whenever
three of five would be taken. -/
def placesFor (count : Nat) : Nat :=
  let sizes := (List.range 24).map fun k => 8 * Nat.pow 4 k
  (sizes.find? fun places => 5 * count < 3 * (places - 1)).getD 8

/-- The natural number that a value is equal to, if there is one. -/
def naturalOf? (v : Value) : Option Nat :=
  match v.magnitude? with
  | some (.finite d) =>
    if 0 ≤ d.num && d.isIntegral then some d.truncate.toNat else none
  | _ => none

/-- The members of a set in the order in which they are met: natural numbers that are less than
the number of places stand at their own places, and other members as they were given. -/
def inPlaces (members : List Value) : List Value :=
  match members.mapM fun v => (naturalOf? v).map fun n => (n, v) with
  | some placed =>
    if placed.all fun m => m.1 < placesFor members.length then
      (placed.mergeSort fun a b => a.1 ≤ b.1).map Prod.snd
    else members
  | none => members

/-- The record of a tag: one that is checked, or one that is not. -/
def recordOf (name : String) (make : RecordKind → Task α Value) : Task α Value :=
  match RecordKind.ofName? name with
  | some kind => make kind
  | none => throw (.key (.text name))

/-- The value that a map stands for: a tagged one, or the map itself. -/
def untaggedMap : Fields → Task α Value
  | [("$float", .text name)] => return numberOfName name
  | [("$tuple", .list items)] => return .tuple items
  | [("$set", .list items)] => return .set (inPlaces (← Task.ofExcept (distinct items)))
  | [("$bytes", .text hex)] => return .bytes (bytesOfHex hex.toList)
  | [("$datetime", .text iso)] => return .ofOption ((Time.Moment.parse? iso).map .moment)
  | [("$fn", .text name)] => return .function name
  | [("$model", .list [.text name, v])] => recordOf name fun kind => validRecord kind v
  | [("$construct", .list [.text name, .map given])] =>
    recordOf name fun kind => looseRecord kind given
  | fields => return .map fields

mutual

/-- A tagged form in which numbers that are none have marks of their own, and the next mark. -/
def markedNan (next : Nat) : Value → Value × Nat
  | .list items =>
    let (items, next) := markedItems next items
    (.list items, next)
  | .map fields =>
    let (fields, after) := markedFields next fields
    match fields with
    | [("$float", .text name)] => match numberOfName name with
      | .nan _ => (.nan next, next + 1)
      | _ => (.map fields, after)
    | fields => (.map fields, after)
  | v => (v, next)

/-- Every item marked. -/
def markedItems (next : Nat) : List Value → List Value × Nat
  | [] => ([], next)
  | v :: rest =>
    let (v, next) := markedNan next v
    let (rest, next) := markedItems next rest
    (v :: rest, next)

/-- Every entry marked. -/
def markedFields (next : Nat) : List (String × Value) → List (String × Value) × Nat
  | [] => ([], next)
  | (k, v) :: rest =>
    let (v, next) := markedNan next v
    let (rest, next) := markedFields next rest
    ((k, v) :: rest, next)

end

mutual

/-- The value of a tagged form. -/
def untagged : Value → Task α Value
  | .list items => return .list (← untaggedItems items)
  | .map fields => do untaggedMap (← untaggedFields fields)
  | v => return v

/-- The values of tagged items. -/
def untaggedItems : List Value → Task α (List Value)
  | [] => return []
  | v :: rest => return (← untagged v) :: (← untaggedItems rest)

/-- The values of tagged entries. -/
def untaggedFields : List (String × Value) → Task α (List (String × Value))
  | [] => return []
  | (k, v) :: rest => return (k, ← untagged v) :: (← untaggedFields rest)

end

end EventHub.Rehearsal
