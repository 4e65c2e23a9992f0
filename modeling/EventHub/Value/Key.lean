import EventHub.Value.Compare

/-!
# Keys

What a value is looked up by. Equal values have one key: numbers of all types are told by their
exact value, moments by their instant. Lists, maps and sets have none.

* `Value.key?`: the key of a value.
-/

namespace EventHub

/-- A part of a key. Tuples are told by their items between an opening and a closing. -/
inductive KeyPart
  | null
  | number (num : Int) (shift : Nat)
  | negInfinity
  | posInfinity
  | nan (mark : Nat)
  | text (s : String)
  | bytes (bs : List UInt8)
  | moment (instant : Int) (zoned : Bool)
  | function (name : String)
  | opening
  | closing
deriving DecidableEq, Repr

/-- What a value is looked up by. -/
abbrev Key := List KeyPart

/-- The number `num / 2 ^ shift` in lowest terms. -/
def KeyPart.reduced (num : Int) : Nat → KeyPart
  | 0 => .number num 0
  | shift + 1 => if num % 2 == 0 then KeyPart.reduced (num / 2) shift else .number num (shift + 1)

/-- The key of a number. -/
def KeyPart.ofMagnitude : Number.Magnitude → KeyPart
  | .nan => .nan 0
  | .negInfinity => .negInfinity
  | .posInfinity => .posInfinity
  | .finite d => .reduced d.num d.shift

mutual

/-- The parts of the key of a value that has one. -/
def Value.keyParts : Value → Key
  | .bool b => [.ofMagnitude (.ofInt (if b then 1 else 0))]
  | .int n => [.ofMagnitude (.ofInt n)]
  | .float x => [.ofMagnitude (.ofFloat x)]
  | .nan mark => [.nan mark]
  | .text s => [.text s]
  | .bytes bs => [.bytes bs]
  | .moment m => [.moment m.instant m.offset.isSome]
  | .function name => [.function name]
  | .tuple items => .opening :: Value.keyPartsOfItems items ++ [.closing]
  | _ => [.null]

/-- The parts of the keys of items. -/
def Value.keyPartsOfItems : List Value → Key
  | [] => []
  | v :: rest => Value.keyParts v ++ Value.keyPartsOfItems rest

end

/-- The key of a value, if it can be looked up. -/
def Value.key? (v : Value) : Except Fault Key :=
  match v.unhashable? with
  | some name => .error (.type (.unhashable name))
  | none => .ok v.keyParts

/-- The text that a value is looked up by where all keys are texts; none when it is no text. -/
def Value.textKey? (v : Value) : Except Fault (Option String) :=
  match v, v.unhashable? with
  | .text s, _ => .ok (some s)
  | _, some name => .error (.type (.unhashable name))
  | _, none => .ok none

end EventHub
