/-!
# Exact values of binary64 numbers

A finite binary64 number is a signed integer over a power of two. Comparisons between numbers
of different kinds are made on those exact values.

* `Dyadic.compare_swap`: comparing the other way round gives the opposite answer.
* `Magnitude.compare_swap`: the same with infinities and not-a-number.
-/

namespace EventHub.Number

/-- The number `num / 2 ^ shift`. -/
structure Dyadic where
  num : Int
  shift : Nat

/-- Both numbers over the common denominator, then by numerator. -/
def Dyadic.compare (a b : Dyadic) : Ordering :=
  Ord.compare (a.num * Nat.pow 2 b.shift) (b.num * Nat.pow 2 a.shift)

/-- An integer as a number over one. -/
def Dyadic.ofInt (n : Int) : Dyadic := ⟨n, 0⟩

theorem Dyadic.compare_swap (a b : Dyadic) : (a.compare b).swap = b.compare a := by
  unfold Dyadic.compare
  exact Std.OrientedCmp.eq_swap.symm

theorem Dyadic.compare_ofInt (m n : Int) :
    (Dyadic.ofInt m).compare (Dyadic.ofInt n) = Ord.compare m n := by
  simp [Dyadic.compare, Dyadic.ofInt]

/-- The fields of a binary64 number: its sign, and mantissa and exponent to the base two. -/
inductive Parts
  | nan
  | infinite (negative : Bool)
  | finite (negative : Bool) (mantissa : Nat) (exponent : Int)

/-- Splits the bits into sign, exponent and fraction. -/
def Parts.ofBits (bits : Nat) : Parts :=
  let unit := Nat.pow 2 52
  let negative := bits / Nat.pow 2 63 % 2 == 1
  let biased : Nat := bits / unit % 2048
  let fraction := bits % unit
  if biased == 2047 then
    if fraction == 0 then .infinite negative else .nan
  else if biased == 0 then .finite negative fraction (-1074)
  else .finite negative (fraction + unit) ((biased : Int) - 1075)

/-- The parts of a number. -/
def parts (x : Float) : Parts := .ofBits x.toBits.toNat

/-- A number on the line that is extended by two infinities, or none at all. -/
inductive Magnitude
  | nan
  | negInfinity
  | finite (value : Dyadic)
  | posInfinity

/-- A signed mantissa times a power of two. -/
def Dyadic.scaled (negative : Bool) (mantissa : Nat) (exponent : Int) : Dyadic :=
  let m : Int := if negative then -(mantissa : Int) else mantissa
  if exponent < 0 then ⟨m, exponent.natAbs⟩ else ⟨m * Nat.pow 2 exponent.toNat, 0⟩

/-- The exact value of a binary64 number. -/
def Magnitude.ofFloat (x : Float) : Magnitude :=
  match parts x with
  | .nan => .nan
  | .infinite negative => if negative then .negInfinity else .posInfinity
  | .finite negative m e => .finite (.scaled negative m e)

/-- An integer on the extended line. -/
def Magnitude.ofInt (n : Int) : Magnitude := .finite (.ofInt n)

/-- How two magnitudes lie; not-a-number lies nowhere. -/
def Magnitude.compare : Magnitude → Magnitude → Option Ordering
  | .nan, _ => none
  | _, .nan => none
  | .negInfinity, .negInfinity => some .eq
  | .negInfinity, _ => some .lt
  | _, .negInfinity => some .gt
  | .posInfinity, .posInfinity => some .eq
  | .posInfinity, _ => some .gt
  | _, .posInfinity => some .lt
  | .finite a, .finite b => some (a.compare b)

theorem Magnitude.compare_swap (a b : Magnitude) :
    (a.compare b).map Ordering.swap = b.compare a := by
  cases a <;> cases b <;> simp [Magnitude.compare, Dyadic.compare_swap]

theorem Magnitude.compare_ofInt (m n : Int) :
    (Magnitude.ofInt m).compare (Magnitude.ofInt n) = some (Ord.compare m n) := by
  simp [Magnitude.ofInt, Magnitude.compare, Dyadic.compare_ofInt]

/-- The integer part of a finite number, toward zero. -/
def Dyadic.truncate (d : Dyadic) : Int := d.num.tdiv (Nat.pow 2 d.shift)

/-- The integer next to a number; halves go to the even one. -/
def Dyadic.nearest (d : Dyadic) : Int :=
  let unit : Int := Nat.pow 2 d.shift
  let below := d.num.fdiv unit
  let twice := 2 * d.num.fmod unit
  if twice < unit then below
  else if unit < twice then below + 1
  else if below % 2 == 0 then below else below + 1

theorem Dyadic.nearest_ofInt (n : Int) : (ofInt n).nearest = n := by
  simp [nearest, ofInt]

/-- Has the number no fractional part? -/
def Dyadic.isIntegral (d : Dyadic) : Bool := d.num.tmod (Nat.pow 2 d.shift) == 0

end EventHub.Number
