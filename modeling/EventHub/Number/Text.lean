import EventHub.Number.Shortest
import EventHub.Text.Blank
import EventHub.Text.Digit

/-!
# Numbers as text

Binary64 numbers are written with the fewest digits that read back, in positional notation from
0.0001 up to below 10^16 and with an exponent elsewhere; a whole number keeps `.0`.
Numbers are read with blanks around them, a sign, and single underscores between digits.
-/

namespace EventHub.Number

/-- Decimal digits of a natural number. -/
def natText (n : Nat) : List Char := Nat.toDigits 10 n

/-- An exponent with its sign and at least two digits. -/
def exponentText (e : Int) : List Char :=
  let ds := natText e.natAbs
  (if e < 0 then '-' else '+') :: (if ds.length < 2 then '0' :: ds else ds)

/-- The digits with a point in positional notation, or with an exponent. -/
def Decimal.text (d : Decimal) : List Char :=
  let ds := natText d.digits
  let n : Int := ds.length
  let point := n + d.exponent
  if -4 < point && point ≤ 16 then
    if point ≤ 0 then '0' :: '.' :: (List.replicate (-point).toNat '0' ++ ds)
    else if n ≤ point then ds ++ List.replicate (point - n).toNat '0' ++ ['.', '0']
    else ds.take point.toNat ++ '.' :: ds.drop point.toNat
  else
    let head := ds.take 1
    let tail := ds.drop 1
    head ++ (if tail.isEmpty then [] else '.' :: tail) ++ 'e' :: exponentText (point - 1)

/-- A binary64 number as text; the three special values have the names that are passed. -/
def floatTextWith (nan infinity : String) (x : Float) : String :=
  match parts x with
  | .nan => nan
  | .infinite negative => if negative then "-" ++ infinity else infinity
  | .finite negative m e =>
    let body := if m == 0 then "0.0" else String.ofList (shortest m e).text
    if negative then "-" ++ body else body

/-- A binary64 number as text. -/
def floatText (x : Float) : String := floatTextWith "nan" "inf" x

/-- An integer as text. -/
def intText (n : Int) : String :=
  if n < 0 then "-" ++ String.ofList (natText n.natAbs) else String.ofList (natText n.natAbs)

/-- Nearest binary64 number to `digits * 10 ^ exponent`. -/
def ofDecimal (negative : Bool) (digits : Nat) (exponent : Int) : Float :=
  let size := (natText digits).length + exponent
  let x : Float :=
    if digits == 0 || size < -400 then 0.0
    else if 400 < size then Float.ofBits 0x7ff0000000000000
    else if exponent < 0 then Float.ofScientific digits true exponent.natAbs
    else Float.ofScientific digits false exponent.toNat
  if negative then -x else x

/-! ## Reading -/

/-- Is the character one of the blanks of ASCII? -/
def isAsciiBlank (c : Char) : Bool := (9 ≤ c.toNat && c.toNat ≤ 13) || c == ' '

/-- Is the character an ASCII digit? -/
def isAsciiDigit (c : Char) : Bool := '0' ≤ c && c ≤ '9'

/-- The blanks and decimal digits of all scripts as those of ASCII. The first character that is
neither of them, nor an ASCII character, ends the text with a question mark. -/
def asciiFormOf : List Char → List Char
  | [] => []
  | c :: rest =>
    if c.toNat < 127 then c :: asciiFormOf rest
    else if Text.isBlank c then ' ' :: asciiFormOf rest
    else match Text.digitValue? c with
      | some d => Nat.digitChar d :: asciiFormOf rest
      | none => ['?']

/-- The form in which numbers are read: a text within ASCII stays as it is. -/
def asciiForm (cs : List Char) : List Char :=
  if cs.all (·.toNat < 128) then cs else asciiFormOf cs

/-- Drops the ASCII blanks at both ends. -/
def stripAscii (cs : List Char) : List Char :=
  ((cs.dropWhile isAsciiBlank).reverse.dropWhile isAsciiBlank).reverse

/-- The value of an ASCII digit. -/
def asciiDigit (c : Char) : Nat := c.toNat - 48

/-- The number that ASCII digits write. -/
def ofDigits (cs : List Char) : Nat := cs.foldl (fun n c => 10 * n + asciiDigit c) 0

/-- A sign and what follows it. -/
def splitSign : List Char → Bool × List Char
  | '-' :: rest => (true, rest)
  | '+' :: rest => (false, rest)
  | cs => (false, cs)

/-- Does every underscore stand between two characters of the class? `before` is what precedes. -/
def underscoresBetween (p : Char → Bool) (before : Bool) : List Char → Bool
  | [] => true
  | '_' :: rest => before && (match rest with
      | c :: _ => p c
      | [] => false) && underscoresBetween p false rest
  | c :: rest => underscoresBetween p (p c) rest

/-- How a text fails to be an integer. -/
inductive IntFault
  | malformed
  | tooLong (digits : Nat)
deriving DecidableEq, Repr

/-- The most digits an integer text may have. -/
def maxIntDigits : Nat := 4300

/-- Reads an integer text in ASCII: blanks around it, a sign, digits with single underscores
between them. -/
def readAsciiInt (cs : List Char) : Except IntFault Int :=
  let (negative, cs) := splitSign (cs.dropWhile isAsciiBlank)
  let row := cs.takeWhile fun c => isAsciiDigit c || c == '_'
  let rest := cs.drop row.length
  let digits := row.filter isAsciiDigit
  if !underscoresBetween isAsciiDigit false row then .error .malformed
  else if maxIntDigits < digits.length then .error (.tooLong digits.length)
  else if digits.isEmpty || !rest.all isAsciiBlank then .error .malformed
  else .ok (if negative then -(ofDigits digits : Int) else ofDigits digits)

/-- Reads an integer text. -/
def readInt (s : String) : Except IntFault Int := readAsciiInt (asciiForm s.toList)

/-- The text in lower case, for the words that ASCII writes. -/
def lowerAscii (cs : List Char) : String := String.ofList (cs.map Char.toLower)

/-- The exponent at the end of a number text. -/
def readExponent : List Char → Option Int
  | [] => some 0
  | e :: rest =>
    let (negative, digits) := splitSign rest
    if (e == 'e' || e == 'E') && !digits.isEmpty && digits.all isAsciiDigit then
      some (if negative then -(ofDigits digits : Int) else ofDigits digits)
    else none

/-- Reads an unsigned decimal with an optional fraction and exponent. -/
def readDecimal (negative : Bool) (cs : List Char) : Option Float :=
  let whole := cs.takeWhile isAsciiDigit
  let (fraction, rest) := match cs.drop whole.length with
    | '.' :: r => (r.takeWhile isAsciiDigit, r.dropWhile isAsciiDigit)
    | r => ([], r)
  if whole.isEmpty && fraction.isEmpty then none
  else (readExponent rest).map fun e =>
    ofDecimal negative (ofDigits (whole ++ fraction)) (e - fraction.length)

/-- Reads a binary64 number in ASCII: blanks around it, single underscores between digits. -/
def readAsciiFloat? (cs : List Char) : Option Float :=
  let cs := stripAscii cs
  if !underscoresBetween isAsciiDigit false cs then none
  else
    let (negative, cs) := splitSign (cs.filter (· != '_'))
    match lowerAscii cs with
    | "nan" => some (Float.ofBits 0x7ff8000000000000)
    | "inf" | "infinity" =>
      some (Float.ofBits (if negative then 0xfff0000000000000 else 0x7ff0000000000000))
    | _ => readDecimal negative cs

/-- Reads a binary64 number. -/
def readFloat? (s : String) : Option Float := readAsciiFloat? (asciiForm s.toList)

end EventHub.Number
