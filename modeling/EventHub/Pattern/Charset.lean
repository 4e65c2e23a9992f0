import EventHub.Pattern.Basic
import EventHub.Text.Blank
import EventHub.Text.Digit
import EventHub.Text.Word

/-!
# Characters and sets of characters in patterns

Where letter case is ignored, a character is brought to lower case before it is compared. A few
letters have the same upper case without one being the lower case of the other; they count as
the same letter too.

* `holdsCode`: a single character.
* `Charset.holds`: a set of characters.
-/

namespace EventHub.Pattern

open Text

/-- The letters that share an upper case with a lower case letter. -/
def caseKin : List (Nat × List Nat) :=
  [(0x69, [0x131]), (0x73, [0x17f]), (0xb5, [0x3bc]), (0x131, [0x69]), (0x17f, [0x73]),
   (0x345, [0x3b9, 0x1fbe]), (0x390, [0x1fd3]), (0x3b0, [0x1fe3]), (0x3b2, [0x3d0]),
   (0x3b5, [0x3f5]), (0x3b8, [0x3d1]), (0x3b9, [0x345, 0x1fbe]), (0x3ba, [0x3f0]),
   (0x3bc, [0xb5]), (0x3c0, [0x3d6]), (0x3c1, [0x3f1]), (0x3c2, [0x3c3]), (0x3c3, [0x3c2]),
   (0x3c6, [0x3d5]), (0x3d0, [0x3b2]), (0x3d1, [0x3b8]), (0x3d5, [0x3c6]), (0x3d6, [0x3c0]),
   (0x3f0, [0x3ba]), (0x3f1, [0x3c1]), (0x3f5, [0x3b5]), (0x432, [0x1c80]), (0x434, [0x1c81]),
   (0x43e, [0x1c82]), (0x441, [0x1c83]), (0x442, [0x1c84, 0x1c85]), (0x44a, [0x1c86]),
   (0x463, [0x1c87]), (0x1c80, [0x432]), (0x1c81, [0x434]), (0x1c82, [0x43e]),
   (0x1c83, [0x441]), (0x1c84, [0x442, 0x1c85]), (0x1c85, [0x442, 0x1c84]), (0x1c86, [0x44a]),
   (0x1c87, [0x463]), (0x1c88, [0xa64b]), (0x1e61, [0x1e9b]), (0x1e9b, [0x1e61]),
   (0x1fbe, [0x345, 0x3b9]), (0x1fd3, [0x390]), (0x1fe3, [0x3b0]), (0xa64b, [0x1c88]),
   (0xfb05, [0xfb06]), (0xfb06, [0xfb05])]

/-- The letters that share an upper case with a letter. -/
def kinOf (code : Nat) : List Nat := (caseKin.lookup code).getD []

/-- The code of the first character of a row, or a default. -/
def firstCode (default : Nat) : List Char → Nat
  | [] => default
  | c :: _ => c.toNat

/-- Is the code one of a character? -/
def isCharCode (code : Nat) : Bool := code < 0xd800 || (0xdfff < code && code < 0x110000)

/-- The lower case of a character; its first letter where it has several. -/
def lowerCode (ascii : Bool) (code : Nat) : Nat :=
  if ascii then
    if 65 ≤ code && code ≤ 90 then code + 32 else code
  else if isCharCode code then firstCode code (lowerChar (Char.ofNat code))
  else code

/-- The upper case of a character; its first letter where it has several. -/
def upperCode (code : Nat) : Nat :=
  if isCharCode code then firstCode code (upperChar (Char.ofNat code)) else code

/-- Does the character have another case? -/
def isCased (ascii : Bool) (code : Nat) : Bool :=
  if ascii then (65 ≤ code && code ≤ 90) || (97 ≤ code && code ≤ 122)
  else lowerCode false code != code || upperCode code != code

/-- Is the character in the class? -/
def Category.holds (ascii : Bool) (code : Nat) : Category → Bool
  | .digit =>
    if ascii then 48 ≤ code && code ≤ 57 else isCharCode code && isDecimal (Char.ofNat code)
  | .blank =>
    if ascii then (9 ≤ code && code ≤ 13) || code == 32
    else isCharCode code && isBlank (Char.ofNat code)
  | .word =>
    if ascii then code < 128 && isWord (Char.ofNat code)
    else isCharCode code && isWord (Char.ofNat code)

/-- Is the character the given one? -/
def holdsCode (o : Options) (wanted code : Nat) : Bool :=
  if !o.ignoreCase || !isCased o.ascii wanted then code == wanted
  else
    let low := lowerCode o.ascii wanted
    let given := lowerCode o.ascii code
    given == low || (!o.ascii && (kinOf low).contains given)

/-- The last character of the basic plane. -/
def basicPlaneEnd : Nat := 0xffff

/-- The characters with a given lower case. -/
def lowerOrigins (ascii : Bool) (low : Nat) : List Nat :=
  let same := if lowerCode ascii low == low then [low] else []
  if ascii then same ++ (if 97 ≤ low && low ≤ 122 then [low - 32] else [])
  else
    same ++ (if low == 0x69 then [0x130] else []) ++
      lowerRuns.filterMap fun run =>
        let origin := (Int.ofNat low - run.shift).toNat
        if run.covers origin && lowerCode false origin == low then some origin else none

/-- The lower case letters whose kin a letter is, and the letter itself. -/
def withKin (ascii : Bool) (low : Nat) : List Nat :=
  if ascii then [low] else low :: (caseKin.filter fun e => e.2.contains low).map (·.1)

/-- Is a letter the lower case of one in the range, or kin of such a one? -/
def rangeHoldsLower (ascii : Bool) (low high given : Nat) : Bool :=
  (withKin ascii given).any fun g =>
    (lowerOrigins ascii g).any fun c => low ≤ c && c ≤ min high basicPlaneEnd

/-- Has the run of letters one in the range? -/
def runMeets (low high : Nat) (run : CaseRun) : Bool :=
  let skipped := if low ≤ run.first then 0 else (low - run.first + run.step - 1) / run.step
  let first := run.first + skipped * run.step
  first ≤ run.last && first ≤ high

/-- Has the range a letter with another case? -/
def rangeIsCased (ascii : Bool) (low high : Nat) : Bool :=
  if basicPlaneEnd < high then true
  else if ascii then
    (low ≤ 90 && 65 ≤ high) || (low ≤ 122 && 97 ≤ high)
  else
    lowerRuns.any (runMeets low high) || upperRuns.any (runMeets low high) ||
      upperExpansions.any (fun e => low ≤ e.1 && e.1 ≤ high) || (low ≤ 0x130 && 0x130 ≤ high)

/-- Does the member depend on letter case? -/
def Member.isCased (ascii : Bool) : Member → Bool
  | .one code => Pattern.isCased ascii code || basicPlaneEnd < lowerCode ascii code
  | .range low high => rangeIsCased ascii low high
  | .category _ _ => false

/-- Is the character the member or in it? -/
def Member.holds (ascii : Bool) (code : Nat) : Member → Bool
  | .one wanted => code == wanted
  | .range low high => low ≤ code && code ≤ high
  | .category c negated => c.holds ascii code != negated

/-- Is the character, which is in lower case, the member or in it, letter case aside? -/
def Member.holdsLower (ascii : Bool) (given : Nat) : Member → Bool
  | .one wanted =>
    let low := lowerCode ascii wanted
    if basicPlaneEnd < low then given == wanted
    else given == low || (!ascii && (kinOf low).contains given)
  | .range low high =>
    rangeHoldsLower ascii low high given ||
      (basicPlaneEnd < high && ((low ≤ given && given ≤ high) ||
        (low ≤ upperCode given && upperCode given ≤ high)))
  | .category c negated => c.holds ascii given != negated

/-- Is the character in the set? -/
def Charset.holds (o : Options) (members : List Member) (code : Nat) : Bool :=
  if o.ignoreCase && members.any (Member.isCased o.ascii) then
    let given := lowerCode o.ascii code
    members.any (Member.holdsLower o.ascii given)
  else members.any (Member.holds o.ascii code)

end EventHub.Pattern
