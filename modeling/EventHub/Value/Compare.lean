import EventHub.Fault
import EventHub.Number.Binary64
import EventHub.Sort.Runs

/-!
# Comparing values

Numbers of every type, truth values among them, compare by their exact value; texts compare by
code point; lists compare item by item, as tuples do, and the first difference decides.

Within containers a number that is none equals itself, though it equals nothing on its own.

* `Value.same`: equality across number types.
* `Value.alike`: equality of items.
* `Value.ordered`: the four orderings, which fail between types that have no order.
* `Value.holdsItem`: membership.
* `sortRow`: the values of a row in order, or the first two values without one.
* `Ordering.meets_swap`: turning a relation round goes with turning the ordering round.
-/

namespace EventHub

/-- The exact value of a number; truth values are the numbers 0 and 1. -/
def Value.magnitude? : Value → Option Number.Magnitude
  | .bool b => some (.ofInt (if b then 1 else 0))
  | .int n => some (.ofInt n)
  | .float x => some (.ofFloat x)
  | .nan _ => some .nan
  | _ => none

/-- Are two numbers equal in value? -/
def sameNumber (a b : Number.Magnitude) : Bool := a.compare b == some .eq

/-- Are two moments equal? One with and one without an offset never are. -/
def sameMoment (a b : Time.Moment) : Bool :=
  a.offset.isSome == b.offset.isSome && a.instant == b.instant

/-- Are two values the same number that is none? -/
def Value.sharesMark : Value → Value → Bool
  | .nan a, .nan b => a == b
  | _, _ => false

mutual

/-- Equality of values. -/
def Value.same : Value → Value → Bool
  | .null, .null => true
  | .bool a, w => match w.magnitude? with
    | some y => sameNumber (.ofInt (if a then 1 else 0)) y
    | none => false
  | .int a, w => match w.magnitude? with
    | some y => sameNumber (.ofInt a) y
    | none => false
  | .float a, w => match w.magnitude? with
    | some y => sameNumber (.ofFloat a) y
    | none => false
  | .text a, .text b => a == b
  | .bytes a, .bytes b => a == b
  | .list a, .list b => Value.sameItems a b
  | .tuple a, .tuple b => Value.sameItems a b
  | .set a, .set b => a.length == b.length && Value.allAmong a b
  | .map a, .map b => a.length == b.length && Value.allEntries a b
  | .table a, .table b => a.length == b.length && Value.allPairs a b
  | .moment a, .moment b => sameMoment a b
  | .function a, .function b => a == b
  | .record j a, .record k b => j == k && Value.sameFields a b
  | _, _ => false

/-- Equality item by item. -/
def Value.sameItems : List Value → List Value → Bool
  | [], [] => true
  | v :: vs, w :: ws => (v.sharesMark w || v.same w) && Value.sameItems vs ws
  | _, _ => false

/-- Is every item equal to one of the others? -/
def Value.allAmong : List Value → List Value → Bool
  | [], _ => true
  | v :: vs, ws => ws.any (fun w => v.sharesMark w || v.same w) && Value.allAmong vs ws

/-- Has every entry an equal value in the other map? -/
def Value.allEntries : List (String × Value) → List (String × Value) → Bool
  | [], _ => true
  | (k, v) :: rest, other =>
    (match Assoc.get? other k with
      | some w => v.sharesMark w || v.same w
      | none => false) && Value.allEntries rest other

/-- Has every entry an equal one in the other table? -/
def Value.allPairs : List (Value × Value) → List (Value × Value) → Bool
  | [], _ => true
  | (k, v) :: rest, other =>
    other.any (fun e => (k.sharesMark e.1 || k.same e.1) && (v.sharesMark e.2 || v.same e.2)) &&
      Value.allPairs rest other

/-- Equality field by field. -/
def Value.sameFields : List (String × Value) → List (String × Value) → Bool
  | [], [] => true
  | (j, v) :: vs, (k, w) :: ws =>
    j == k && (v.sharesMark w || v.same w) && Value.sameFields vs ws
  | _, _ => false

end

/-- Equality of items of containers. -/
def Value.alike (v w : Value) : Bool := v.sharesMark w || v.same w

/-- The four orderings. -/
inductive Relation
  | lt | le | gt | ge
deriving DecidableEq, Repr

/-- The sign of a relation. -/
def Relation.sign : Relation → String
  | lt => "<"
  | le => "<="
  | gt => ">"
  | ge => ">="

/-- The relation that holds the other way round. -/
def Relation.swap : Relation → Relation
  | lt => gt
  | le => ge
  | gt => lt
  | ge => le

end EventHub

/-- Does an ordering meet a relation? -/
def Ordering.meets (o : Ordering) : EventHub.Relation → Bool
  | .lt => o == .lt
  | .le => o != .gt
  | .gt => o == .gt
  | .ge => o != .lt

theorem Ordering.meets_swap (o : Ordering) (r : EventHub.Relation) :
    o.swap.meets r.swap = o.meets r := by
  cases o <;> cases r <;> rfl

namespace EventHub

/-- Do two numbers meet a relation? Not-a-number meets none. -/
def numbersMeet (r : Relation) (a b : Number.Magnitude) : Bool :=
  match a.compare b with
  | some o => o.meets r
  | none => false

theorem numbersMeet_swap (r : Relation) (a b : Number.Magnitude) :
    numbersMeet r.swap b a = numbersMeet r a b := by
  unfold numbersMeet
  rw [← Number.Magnitude.compare_swap a b]
  cases a.compare b <;> simp [Ordering.meets_swap]

/-- The order of two rows of numbers: the first difference decides, and the shorter row is less. -/
def compareRows : List Nat → List Nat → Ordering
  | [], [] => .eq
  | [], _ :: _ => .lt
  | _ :: _, [] => .gt
  | a :: as, b :: bs => match Ord.compare a b with
    | .eq => compareRows as bs
    | o => o

theorem compareRows_swap (as bs : List Nat) : (compareRows as bs).swap = compareRows bs as := by
  induction as generalizing bs with
  | nil => cases bs <;> rfl
  | cons a as ih =>
    cases bs with
    | nil => rfl
    | cons b bs =>
      have h : (Ord.compare a b).swap = Ord.compare b a := Std.OrientedCmp.eq_swap.symm
      simp only [compareRows]
      rw [← h]
      cases Ord.compare a b
      · rfl
      · simpa using ih bs
      · rfl

/-- The order of texts by code point. -/
def compareTexts (s t : String) : Ordering :=
  compareRows (s.toList.map Char.toNat) (t.toList.map Char.toNat)

/-- Do two sets meet a relation? A set is less than those that properly contain it. -/
def setsMeet (r : Relation) (a b : List Value) : Bool :=
  match r with
  | .le => Value.allAmong a b
  | .lt => Value.allAmong a b && a.length != b.length
  | .ge => Value.allAmong b a
  | .gt => Value.allAmong b a && a.length != b.length

/-- Do two moments meet a relation? One with and one without an offset have no order. -/
def momentsMeet (r : Relation) (a b : Time.Moment) : Except TypeFlaw Bool :=
  if a.offset.isSome == b.offset.isSome then .ok ((Ord.compare a.instant b.instant).meets r)
  else .error .mixedMoments

mutual

/-- Does the relation hold between two values? -/
def Value.ordered (r : Relation) : Value → Value → Except TypeFlaw Bool
  | .list a, .list b => Value.itemsOrdered r a b
  | .tuple a, .tuple b => Value.itemsOrdered r a b
  | .text a, .text b => .ok ((compareTexts a b).meets r)
  | .bytes a, .bytes b =>
    .ok ((compareRows (a.map UInt8.toNat) (b.map UInt8.toNat)).meets r)
  | .set a, .set b => .ok (setsMeet r a b)
  | .moment a, .moment b => momentsMeet r a b
  | v, w => match v.magnitude?, w.magnitude? with
    | some x, some y => .ok (numbersMeet r x y)
    | _, _ => .error (.unordered r.sign v.typeName w.typeName)

/-- The relation of two lists: that of their first unequal items, or of their lengths. -/
def Value.itemsOrdered (r : Relation) : List Value → List Value → Except TypeFlaw Bool
  | [], ws => .ok ((if ws.isEmpty then Ordering.eq else .lt).meets r)
  | _ :: _, [] => .ok (Ordering.gt.meets r)
  | v :: vs, w :: ws => if v.alike w then Value.itemsOrdered r vs ws else v.ordered r w

end

/-- Does the first list occur in the second in one piece? -/
def occursIn {α : Type} [BEq α] (piece : List α) : List α → Bool
  | [] => piece.isEmpty
  | c :: rest => piece.isPrefixOf (c :: rest) || occursIn piece rest

mutual

/-- The type that keeps a value from being a member of sets and a key of maps, if any. -/
def Value.unhashable? : Value → Option String
  | .list _ => some "list"
  | .map _ | .table _ | .inputPart _ => some "dict"
  | .set _ => some "set"
  | .tuple items => Value.unhashableItem? items
  | .record .event _ => some "dict"
  | .record kind _ => some kind.name
  | _ => none

/-- The first such type among the items. -/
def Value.unhashableItem? : List Value → Option String
  | [] => none
  | v :: rest => match v.unhashable? with
    | some name => some name
    | none => Value.unhashableItem? rest

end

/-- Is the item in the container? -/
def Value.holdsItem (container item : Value) : Except Fault Bool :=
  match container, item with
  | .text s, .text t => .ok (occursIn t.toList s.toList)
  | .text _, item => .error (.type (.textMembership item.typeName))
  | .bytes s, .bytes t => .ok (occursIn t s)
  | .bytes s, .bool b => .ok (s.contains (if b then 1 else 0))
  | .bytes s, .int n =>
    if 0 ≤ n && n < 256 then .ok (s.any fun b => b.toNat == n.toNat)
    else .error (.raised .value "byte must be in range(0, 256)")
  | .bytes _, item => .error (.type (.bytesMembership item.typeName))
  | .list items, item | .tuple items, item => .ok (items.any fun v => v.alike item)
  | .set items, .set _ => .ok (items.any fun v => v.alike item)
  | .set items, item => match item.unhashable? with
    | some name => .error (.type (.unhashable name))
    | none => .ok (items.any fun v => v.alike item)
  | .table entries, item => match item.unhashable? with
    | some name => .error (.type (.unhashable name))
    | none => .ok (entries.any fun e => e.1.alike item)
  | .map fields, item => match item.unhashable?, item with
    | some name, _ => .error (.type (.unhashable name))
    | none, .text key => .ok (Assoc.has fields key)
    | none, _ => .ok false
  | .record _ fields, item =>
    .ok (fields.any fun (k, v) => (Value.tuple [.text k, v]).alike item)
  | container, _ => .error (.type (.notContainer container.typeName))

/-! ## Rows in order -/

/-- Is the first value less than the second? -/
def Value.isLess (v w : Value) : Except TypeFlaw Bool := v.ordered .lt w

/-- The row in order. Values without an order are met with in the order in which they are
compared. -/
def sortRow (items : List Value) : Except TypeFlaw (List Value) := Sort.sort Value.isLess items

end EventHub
