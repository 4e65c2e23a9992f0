import EventHub.Number.Binary64

/-!
# Shortest decimals

The shortest decimal of a finite positive binary64 number: of the decimals that round to it,
one with the fewest digits, and of those the nearest.

With `n` digits it is enough to look at the two neighbours of the number on the grid of
decimals with `n` digits: if any point of the grid rounds to the number, one of the two does.

* `stripZeros_value`: taking trailing zeros off the digits keeps the value.
-/

namespace EventHub.Number

/-- The number `digits * 10 ^ exponent`. -/
structure Decimal where
  digits : Nat
  exponent : Int
deriving DecidableEq, Repr

/-- Moves up to `fuel` trailing zeros of the digits into the exponent. -/
def Decimal.stripZeros : Nat → Decimal → Decimal
  | 0, d => d
  | fuel + 1, d =>
    if d.digits % 10 == 0 && d.digits != 0 then
      Decimal.stripZeros fuel ⟨d.digits / 10, d.exponent + 1⟩
    else d

theorem Decimal.stripZeros_value (fuel : Nat) (d : Decimal) (base : Nat) :
    ∃ k : Nat, (d.stripZeros fuel).exponent = d.exponent + k ∧
      (d.stripZeros fuel).digits * Nat.pow 10 k + base = d.digits + base := by
  induction fuel generalizing d with
  | zero => exact ⟨0, by simp [Decimal.stripZeros]⟩
  | succ fuel ih =>
    unfold Decimal.stripZeros
    split
    · rename_i h
      simp only [Bool.and_eq_true, beq_iff_eq, bne_iff_ne] at h
      obtain ⟨k, h1, h2⟩ := ih ⟨d.digits / 10, d.exponent + 1⟩
      refine ⟨k + 1, by simp [h1]; omega, ?_⟩
      have h3 : d.digits / 10 * 10 = d.digits := by omega
      have h4 : (Decimal.stripZeros fuel ⟨d.digits / 10, d.exponent + 1⟩).digits * Nat.pow 10 k
          = d.digits / 10 := by simpa using Nat.add_right_cancel h2
      have h5 : Nat.pow 10 (k + 1) = Nat.pow 10 k * 10 := rfl
      rw [h5, ← Nat.mul_assoc, h4, h3]
    · exact ⟨0, by simp⟩

/-- A positive number `value / scale` and the ends `low / scale`, `high / scale` of the interval
of reals that round to it; the ends belong to the interval when `closed` holds. -/
structure Rounding where
  scale : Nat
  low : Nat
  value : Nat
  high : Nat
  closed : Bool

/-- The interval of a finite number: half way to its two neighbours, where the lower neighbour of
a power of two is nearer. -/
def Rounding.ofParts (mantissa : Nat) (exponent : Int) : Rounding :=
  let lowGap := if mantissa == Nat.pow 2 52 && exponent != -1074 then 1 else 2
  let e := exponent - 2
  let up := Nat.pow 2 e.toNat
  { scale := Nat.pow 2 (-e).toNat
    low := (4 * mantissa - lowGap) * up
    value := 4 * mantissa * up
    high := (4 * mantissa + 2) * up
    closed := mantissa % 2 == 0 }

/-- Does the point `point * 10 ^ exponent` lie in the interval? -/
def Rounding.holds (r : Rounding) (point : Nat) (exponent : Int) : Bool :=
  let p := point * Nat.pow 10 exponent.toNat * r.scale
  let d := Nat.pow 10 (-exponent).toNat
  if r.closed then r.low * d ≤ p && p ≤ r.high * d else r.low * d < p && p < r.high * d

/-- The number of decimal digits before the point, negative for the zeros after it. -/
def Rounding.magnitude (r : Rounding) : Int :=
  (Nat.toDigits 10 (r.value * Nat.pow 10 330 / r.scale)).length - 330

/-- The better neighbour on the grid of decimals with the given exponent, if one rounds to the
number: the nearer one, and the even one of two equally near. -/
def Rounding.onGrid (r : Rounding) (exponent : Int) : Option Decimal :=
  let num := r.value * Nat.pow 10 (-exponent).toNat
  let den := r.scale * Nat.pow 10 exponent.toNat
  let below := num / den
  let rest := num % den
  let above := below + 1
  match r.holds below exponent, r.holds above exponent with
  | true, true =>
    if 2 * rest < den || (2 * rest == den && below % 2 == 0) then some ⟨below, exponent⟩
    else some ⟨above, exponent⟩
  | true, false => some ⟨below, exponent⟩
  | false, true => some ⟨above, exponent⟩
  | false, false => none

/-- The first of the grids with `tried + 1`, `tried + 2`, … digits that has a hit. -/
def Rounding.search (r : Rounding) (magnitude : Int) : Nat → Nat → Decimal
  | 0, tried => ⟨r.value * Nat.pow 10 (tried - magnitude).toNat / r.scale, magnitude - tried⟩
  | fuel + 1, tried =>
    match r.onGrid (magnitude - (tried + 1)) with
    | some d => d
    | none => r.search magnitude fuel (tried + 1)

/-- The shortest decimal of `mantissa * 2 ^ exponent`. -/
def shortest (mantissa : Nat) (exponent : Int) : Decimal :=
  if mantissa == 0 then ⟨0, 0⟩
  else
    let r := Rounding.ofParts mantissa exponent
    (r.search r.magnitude 17 0).stripZeros 400

end EventHub.Number
