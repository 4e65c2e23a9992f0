import EventHub.Json.Read
import EventHub.Mail.Charset
import EventHub.Mail.Token

/-!
# Encoded words

A word that is written in another character set: its name, the letter of an encoding, and bytes in
that encoding, between question marks.

* `decodeQ`, `decodeB`: the two encodings.
* `encodedWord`: reads a word.
-/

namespace EventHub.Mail

/-! ## Encodings -/

/-- The bytes of an encoding in which an underscore is a blank, and an equals sign with two
hexadecimal digits is a byte. -/
def decodeQ : List UInt8 → List UInt8
  | 0x3d :: a :: b :: rest =>
    match Json.hexDigit? (Char.ofNat a.toNat), Json.hexDigit? (Char.ofNat b.toNat) with
    | some x, some y => UInt8.ofNat (16 * x + y) :: decodeQ rest
    | _, _ => 0x3d :: decodeQ (a :: b :: rest)
  | 0x5f :: rest => 0x20 :: decodeQ rest
  | b :: rest => b :: decodeQ rest
  | [] => []

/-- The six bits that a byte writes in base 64. -/
def sixBits? (b : UInt8) : Option Nat :=
  let n := b.toNat
  if 65 ≤ n && n ≤ 90 then some (n - 65)
  else if 97 ≤ n && n ≤ 122 then some (n - 71)
  else if 48 ≤ n && n ≤ 57 then some (n + 4)
  else if n == 43 then some 62
  else if n == 47 then some 63
  else none

/-- Reading base 64: the place in the group of four, the bits that are left over from it, the
padding since the last digit, and what was read, backwards. -/
structure SixtyFour where
  place : Nat
  left : Nat
  pads : Nat
  read : List UInt8

/-- One more digit. -/
def SixtyFour.push (s : SixtyFour) (bits : Nat) : SixtyFour :=
  match s.place with
  | 0 => { s with place := 1, left := bits, pads := 0 }
  | 1 => { place := 2, left := bits % 16, pads := 0
           read := UInt8.ofNat (s.left * 4 + bits / 16) :: s.read }
  | 2 => { place := 3, left := bits % 4, pads := 0
           read := UInt8.ofNat (s.left * 16 + bits / 4) :: s.read }
  | _ => { place := 0, left := 0, pads := 0, read := UInt8.ofNat (s.left * 64 + bits) :: s.read }

/-- The sign of padding in base 64. -/
def padSign : UInt8 := 0x3d

/-- Reads base 64, passing over what is no digit; it ends with a group that is padded. -/
def readSixtyFour (s : SixtyFour) : List UInt8 → Option (List UInt8)
  | [] => if s.place == 0 then some s.read.reverse else none
  | b :: rest =>
    if b == padSign then
      if 2 ≤ s.place then
        if 4 ≤ s.place + s.pads + 1 then some s.read.reverse
        else readSixtyFour { s with pads := s.pads + 1 } rest
      else readSixtyFour s rest
    else match sixBits? b with
      | some bits => readSixtyFour (s.push bits) rest
      | none => readSixtyFour s rest

/-- Reads base 64, whatever is in it. -/
def looseSixtyFour (bytes : List UInt8) : Option (List UInt8) := readSixtyFour ⟨0, 0, 0, []⟩ bytes

/-- Reads base 64 of digits, and padding to full groups after them. -/
def strictSixtyFour (bytes : List UInt8) : Option (List UInt8) :=
  let digits := bytes.takeWhile fun b => (sixBits? b).isSome
  let padding := bytes.drop digits.length
  let wanted := (4 - digits.length % 4) % 4
  if padding == List.replicate wanted padSign then looseSixtyFour bytes else none

/-- The padding that a row of base 64 lacks. -/
def lackingPadding (bytes : List UInt8) : List UInt8 :=
  List.replicate ((4 - bytes.length % 4) % 4) padSign

/-- The bytes of base 64. What is no base 64 in any reading stays as it is. -/
def decodeB (bytes : List UInt8) : List UInt8 :=
  (((strictSixtyFour (bytes ++ lackingPadding bytes)).or (looseSixtyFour bytes)).or
    (looseSixtyFour (bytes ++ [padSign, padSign]))).getD bytes

/-! ## Words -/

/-- The ASCII bytes of glyphs; none if there are other characters. -/
def asciiBytes? : Glyphs → Option (List UInt8)
  | [] => some []
  | .byte b :: rest => (asciiBytes? rest).map (b :: ·)
  | .char c :: rest =>
    if c.toNat < 0x80 then (asciiBytes? rest).map (c.toNat.toUInt8 :: ·) else none

/-- The name of a character set; a name with bytes is one of no set. -/
def charsetName (gs : Glyphs) : List Char :=
  (gs.takeWhile fun g => !g.is '*').map fun g => match g with
    | .char c => c
    | .byte _ => '?'

/-- The glyphs that an encoded word writes: character set, encoding and bytes. -/
def wordGlyphs (charset encoding body : Glyphs) : Except Refusal Glyphs :=
  match asciiBytes? body with
  | none => .error .badWord
  | some bytes =>
    let name := charsetName charset
    if name.contains (Char.ofNat 0) then .error .badWord
    else match encoding with
      | [g] =>
        if g.isOneOf "qQ" then .ok (decodeBytes name (decodeQ bytes))
        else if g.isOneOf "bB" then .ok (decodeBytes name (decodeB bytes))
        else .error .badWord
      | _ => .error .badWord

/-- The tokens of glyphs: blanks, and what is between them. -/
def runsOf : Nat → Glyphs → List Token
  | 0, _ => []
  | _, [] => []
  | fuel + 1, g :: rest =>
    if g.isBlank then
      let (front, rest) := (g :: rest).span Glyph.isWhite
      .leaf .blanks front :: runsOf fuel rest
    else
      let (front, rest) := (g :: rest).span fun g => !g.isBlank
      .leaf .plain front :: runsOf fuel rest

/-- The digits of hexadecimal numbers. -/
def hexSet : String := "0123456789abcdefABCDEF"

/-- Do the glyphs start with a byte in hexadecimal digits? -/
def startsWithByte : Glyphs → Bool
  | a :: b :: _ => a.isOneOf hexSet && b.isOneOf hexSet
  | _ => false

/-- The end of an encoded word. -/
def wordEnd : Glyphs := [.char '?', .char '=']

/-- The inside of an encoded word and what stands after it. A word ends with a question mark and an
equals sign, unless these are the end of its encoding and the start of its bytes. -/
def wordInside (gs : Glyphs) : Except Refusal (Glyphs × Glyphs) :=
  match cutAtPair '?' '=' gs with
  | none => .error .unfit
  | some (inside, rest) =>
    if startsWithByte rest && inside.count (.char '?') < 2 then
      match cutAtPair '?' '=' rest with
      | some (more, rest) => .ok (inside ++ wordEnd ++ more, rest)
      | none => .ok (inside ++ wordEnd ++ rest, [])
    else .ok (inside, rest)

/-- Reads an encoded word. -/
def encodedWord : Reader Token
  | .char '=' :: .char '?' :: gs => do
    let (inside, rest) ← wordInside gs
    match partsAt '?' inside with
    | [charset, encoding, body] =>
      let glyphs ← wordGlyphs charset encoding body
      .ok (.node .encodedWord (runsOf glyphs.length glyphs), rest)
    | _ => .error .badWord
  | _ => .error .unfit

end EventHub.Mail
