import EventHub.Text.Ranges

/-!
# Digits of every script

A decimal digit belongs to a run of ten consecutive characters that starts with a zero of its
script. Superscripts, circled digits and the like are digits without being decimal digits.

* `digitValue?_lt`: the value of a decimal digit is below ten.
-/

namespace EventHub.Text

/-- The code points of the zeros of all scripts. -/
def zeroCodes : List Nat :=
  [48, 1632, 1776, 1984, 2406, 2534, 2662, 2790, 2918, 3046, 3174, 3302, 3430, 3558, 3664, 3792,
   3872, 4160, 4240, 6112, 6160, 6470, 6608, 6784, 6800, 6992, 7088, 7232, 7248, 42528, 43216,
   43264, 43472, 43504, 43600, 44016, 65296, 66720, 68912, 69734, 69872, 69942, 70096, 70384,
   70736, 70864, 71248, 71360, 71472, 71904, 72016, 72784, 73040, 73120, 92768, 92864, 93008,
   120782, 120792, 120802, 120812, 120822, 123200, 123632, 125264, 130032]

/-- The digits that are not decimal digits. -/
def otherDigitBounds : List Nat :=
  [178, 180, 185, 186, 4969, 4978, 6618, 6619, 8304, 8305, 8308, 8314, 8320, 8330, 9312, 9321,
   9332, 9341, 9352, 9361, 9450, 9451, 9461, 9470, 9471, 9472, 10102, 10111, 10112, 10121,
   10122, 10131, 68160, 68164, 69216, 69225, 69714, 69723, 127232, 127243]

/-- The value of a decimal digit of any script. -/
def digitValue? (c : Char) : Option Nat :=
  (zeroCodes.find? fun base => base ≤ c.toNat && c.toNat < base + 10).map (c.toNat - ·)

/-- Is the character a decimal digit of some script? -/
def isDecimal (c : Char) : Bool := (digitValue? c).isSome

/-- Is the character a digit, decimal or not? -/
def isDigit (c : Char) : Bool :=
  isDecimal c || Ranges.contains otherDigitBounds c.toNat

theorem digitValue?_lt {c : Char} {n : Nat} (h : digitValue? c = some n) : n < 10 := by
  obtain ⟨base, hz, rfl⟩ := Option.map_eq_some_iff.1 h
  have := List.find?_some hz
  simp only [Bool.and_eq_true, decide_eq_true_eq] at this
  omega

/-- The number that a row of decimal digits writes, most significant digit first. -/
def readDigits : Nat → List Char → Option Nat
  | n, [] => some n
  | n, c :: rest => (digitValue? c).bind fun d => readDigits (10 * n + d) rest

/-- The number that a non-empty row of decimal digits writes. -/
def digits? : List Char → Option Nat
  | [] => none
  | cs => readDigits 0 cs

end EventHub.Text
