import EventHub.Json.Write

/-!
# Reading JSON

A reader for JSON text that also takes the words for not-a-number and the infinities. Numbers
without fraction and exponent are integers of any size. A key that is repeated in an object keeps
its first place and its last value.

* `Json.read`: the reader; a fault says what was expected and where.
* `ne_nil_of_readBody`: a text is read up to its quote.
* `readValue_scalar`: what is read as a scalar.
* `Stop.message`: the wording of a fault, with line, column and position.
-/

namespace EventHub.Json

/-- What went wrong in a JSON text. -/
inductive Fault
  | expectedValue
  | expectedName
  | expectedColon
  | expectedComma
  | extraData
  | openText
  | controlCharacter
  | badEscape
  | badUnicodeEscape
  | byteOrderMark
  | tooManyDigits (digits : Nat)
  | tooDeep (object : Bool)
deriving DecidableEq, Repr

/-- A fault and the number of characters from it to the end of the text. -/
structure Stop where
  fault : Fault
  left : Nat
deriving DecidableEq, Repr

/-- A reader of the front of a text: its result and the rest. -/
abbrev Reader (α : Type) := List Char → Except Stop (α × List Char)

/-- Fails at the front of the given text. -/
def stop {α : Type} (fault : Fault) (at_ : List Char) : Except Stop α :=
  .error ⟨fault, at_.length⟩

/-- The blanks of JSON. -/
def isJsonBlank (c : Char) : Bool := c == ' ' || c == '\t' || c == '\n' || c == '\r'

/-- Drops leading blanks. -/
def skip (cs : List Char) : List Char := cs.dropWhile isJsonBlank

/-- The value of a hexadecimal digit. -/
def hexDigit? (c : Char) : Option Nat :=
  let n := c.toNat
  if 48 ≤ n && n ≤ 57 then some (n - 48)
  else if 97 ≤ n && n ≤ 102 then some (n - 87)
  else if 65 ≤ n && n ≤ 70 then some (n - 55)
  else none

/-- The number that four hexadecimal digits write. -/
def hex4? (a b c d : Char) : Option Nat := do
  let a ← hexDigit? a
  let b ← hexDigit? b
  let c ← hexDigit? c
  let d ← hexDigit? d
  some (((a * 16 + b) * 16 + c) * 16 + d)

/-- The character of a code. A lone surrogate has none; texts here are made of characters only, so
that U+FFFD stands in its place. -/
def charOfUnit (n : Nat) : Char :=
  if 0xd800 ≤ n && n < 0xe000 then Char.ofNat 0xfffd else Char.ofNat n

/-- The character of an escape letter. -/
def escapeLetter? (c : Char) : Option Char :=
  if c == '"' || c == '\\' || c == '/' then some c
  else if c == 'b' then some (Char.ofNat 8)
  else if c == 'f' then some (Char.ofNat 12)
  else if c == 'n' then some '\n'
  else if c == 'r' then some '\r'
  else if c == 't' then some '\t'
  else none

/-- The characters of a text up to its closing quote; `start` is where its opening quote is. -/
def readBody (start : List Char) : Reader (List Char)
  | [] => stop .openText start
  | '"' :: rest => .ok ([], rest)
  | '\\' :: 'u' :: a :: b :: c :: d :: rest =>
    match hex4? a b c d, rest with
    | none, _ => stop .badUnicodeEscape ('u' :: a :: b :: c :: d :: rest)
    | _, [] => stop .badUnicodeEscape ('u' :: a :: b :: c :: d :: rest)
    | some unit, '\\' :: 'u' :: e :: f :: g :: h :: i :: after =>
      if 0xd800 ≤ unit && unit < 0xdc00 then
        match hex4? e f g h with
        | none => stop .badUnicodeEscape ('u' :: e :: f :: g :: h :: i :: after)
        | some low =>
          if 0xdc00 ≤ low && low < 0xe000 then do
            let (cs, tail) ← readBody start (i :: after)
            .ok (Char.ofNat (0x10000 + (unit - 0xd800) * 1024 + (low - 0xdc00)) :: cs, tail)
          else do
            let (cs, tail) ← readBody start ('\\' :: 'u' :: e :: f :: g :: h :: i :: after)
            .ok (charOfUnit unit :: cs, tail)
      else do
        let (cs, tail) ← readBody start ('\\' :: 'u' :: e :: f :: g :: h :: i :: after)
        .ok (charOfUnit unit :: cs, tail)
    | some unit, rest => do
      let (cs, tail) ← readBody start rest
      .ok (charOfUnit unit :: cs, tail)
  | '\\' :: 'u' :: rest => stop .badUnicodeEscape ('u' :: rest)
  | ['\\'] => stop .openText start
  | '\\' :: c :: rest =>
    match escapeLetter? c with
    | none => stop .badEscape ('\\' :: c :: rest)
    | some e => do
      let (cs, tail) ← readBody start rest
      .ok (e :: cs, tail)
  | c :: rest =>
    if c.toNat < 32 then stop .controlCharacter (c :: rest)
    else do
      let (cs, tail) ← readBody start rest
      .ok (c :: cs, tail)

/-- A text that is read does not end before its quote. -/
theorem ne_nil_of_readBody {start rest cs tail : List Char} (h : readBody start rest = .ok (cs, tail)) :
    rest ≠ [] := by
  rintro rfl
  rw [readBody] at h
  cases h

/-- The digits in front of a text, and what follows them. -/
def splitDigits (cs : List Char) : List Char × List Char :=
  (cs.takeWhile Number.isAsciiDigit, cs.dropWhile Number.isAsciiDigit)

/-- The digits of a fraction, when a point and a digit come next. -/
def readFractionDigits : List Char → Option (List Char × List Char)
  | '.' :: c :: rest =>
    if Number.isAsciiDigit c then some (splitDigits (c :: rest)) else none
  | _ => none

/-- An exponent, when one comes next. -/
def readExponentPart : List Char → Option (Int × List Char)
  | e :: rest =>
    if e == 'e' || e == 'E' then
      let (negative, digits) := Number.splitSign rest
      match digits.takeWhile Number.isAsciiDigit with
      | [] => none
      | ds =>
        let n : Int := Number.ofDigits ds
        some (if negative then -n else n, digits.dropWhile Number.isAsciiDigit)
    else none
  | [] => none

/-- The whole digits of a number: a zero alone, or digits that start with another one. -/
def readWhole : List Char → Option (List Char × List Char)
  | '0' :: rest => some (['0'], rest)
  | c :: rest =>
    if Number.isAsciiDigit c then some (splitDigits (c :: rest)) else none
  | [] => none

/-- Reads a number; `start` is where it begins, its sign included. -/
def readNumber (start : List Char) (negative : Bool) : Reader Value := fun cs =>
  match readWhole cs with
  | none => stop .expectedValue start
  | some (whole, rest) =>
    let (fraction, rest', hasFraction) := match readFractionDigits rest with
      | some (ds, r) => (ds, r, true)
      | none => ([], rest, false)
    match readExponentPart rest', hasFraction with
    | none, false =>
      if Number.maxIntDigits < whole.length then stop (.tooManyDigits whole.length) start
      else
        let n : Int := Number.ofDigits whole
        .ok (.int (if negative then -n else n), rest)
    | none, true =>
      .ok (.float (Number.ofDecimal negative (Number.ofDigits (whole ++ fraction))
        (-fraction.length)), rest')
    | some (e, tail), _ =>
      .ok (.float (Number.ofDecimal negative (Number.ofDigits (whole ++ fraction))
        (e - fraction.length)), tail)

/-- Does the text start with the word? -/
def word? (word : String) (cs : List Char) : Option (List Char) :=
  if word.toList.isPrefixOf cs then some (cs.drop word.length) else none

/-- Reads a value that is neither text nor container. -/
def readScalar : Reader Value := fun cs =>
  match word? "null" cs, word? "true" cs, word? "false" cs, word? "NaN" cs, word? "Infinity" cs,
    word? "-Infinity" cs with
  | some rest, _, _, _, _, _ => .ok (.null, rest)
  | _, some rest, _, _, _, _ => .ok (.bool true, rest)
  | _, _, some rest, _, _, _ => .ok (.bool false, rest)
  | _, _, _, some rest, _, _ => .ok (.nan 0, rest)
  | _, _, _, _, some rest, _ => .ok (.float (Float.ofBits 0x7ff0000000000000), rest)
  | _, _, _, _, _, some rest => .ok (.float (Float.ofBits 0xfff0000000000000), rest)
  | _, _, _, _, _, _ =>
    match cs with
    | '-' :: rest => readNumber cs true rest
    | _ => readNumber cs false cs

mutual

/-- Reads a value, with so many levels of lists and objects at most. Of two nested calls at least
one is on a shorter text, so that twice the length of the text is enough fuel. -/
def readValue : Nat → Nat → Reader Value
  | 0, _, cs => stop .expectedValue cs
  | fuel + 1, levels, cs =>
    match cs with
    | '"' :: rest => do
      let (body, tail) ← readBody cs rest
      .ok (.text (String.ofList body), tail)
    | '[' :: rest =>
      match levels, skip rest with
      | 0, _ => stop (.tooDeep false) cs
      | _, ']' :: tail => .ok (.list [], tail)
      | levels + 1, inner => do
        let (items, tail) ← readItems fuel levels inner
        .ok (.list items, tail)
    | '\x7b' :: rest =>
      match levels, skip rest with
      | 0, _ => stop (.tooDeep true) cs
      | _, '\x7d' :: tail => .ok (.map [], tail)
      | levels + 1, inner => do
        let (fields, tail) ← readMembers fuel levels [] inner
        .ok (.map fields, tail)
    | _ => readScalar cs

/-- Reads the items of a list up to its bracket. -/
def readItems : Nat → Nat → Reader (List Value)
  | 0, _, cs => stop .expectedValue cs
  | fuel + 1, levels, cs => do
    let (v, rest) ← readValue fuel levels cs
    match skip rest with
    | ']' :: tail => .ok ([v], tail)
    | ',' :: more => do
      let (items, tail) ← readItems fuel levels (skip more)
      .ok (v :: items, tail)
    | other => stop .expectedComma other

/-- Reads the entries of an object up to its brace, after those already read. -/
def readMembers : Nat → Nat → Fields → Reader Fields
  | 0, _, _, cs => stop .expectedName cs
  | fuel + 1, levels, known, cs =>
    match cs with
    | '"' :: rest => do
      let (body, tail) ← readBody cs rest
      match skip tail with
      | ':' :: after => do
        let (v, rest) ← readValue fuel levels (skip after)
        let known := Assoc.put known (String.ofList body) v
        match skip rest with
        | '\x7d' :: tail => .ok (known, tail)
        | ',' :: more => readMembers fuel levels known (skip more)
        | other => stop .expectedComma other
      | other => stop .expectedColon other
    | other => stop .expectedName other

end

/-- What is neither a text nor a container is read as a scalar. -/
theorem readValue_scalar {fuel levels : Nat} {c : Char} {cs : List Char}
    (hc : c ≠ '"' ∧ c ≠ '[' ∧ c ≠ '\x7b') : readValue (fuel + 1) levels (c :: cs) = readScalar (c :: cs) := by
  rw [readValue]
  all_goals simp [hc]

/-- Reads a whole text. -/
def readChars (cs : List Char) : Except Stop Value := do
  if cs.head? == some (Char.ofNat 0xfeff) then stop .byteOrderMark cs
  else do
    let (v, rest) ← readValue (2 * cs.length + 2) maxLevels (skip cs)
    match skip rest with
    | [] => .ok v
    | other => stop .extraData other

/-- Reads a JSON text. -/
def read (s : String) : Except Stop Value := readChars s.toList

/-- What a fault is called. -/
def Fault.label : Fault → String
  | .expectedValue => "Expecting value"
  | .expectedName => "Expecting property name enclosed in double quotes"
  | .expectedColon => "Expecting ':' delimiter"
  | .expectedComma => "Expecting ',' delimiter"
  | .extraData => "Extra data"
  | .openText => "Unterminated string starting at"
  | .controlCharacter => "Invalid control character at"
  | .badEscape => "Invalid \\escape"
  | .badUnicodeEscape => "Invalid \\uXXXX escape"
  | .byteOrderMark => "Unexpected UTF-8 BOM (decode using utf-8-sig)"
  | .tooManyDigits _ => "too many digits"
  | .tooDeep _ => "too deep"

/-- The wording for an integer text with too many digits. -/
def digitLimitMessage (digits : Nat) : String :=
  s!"Exceeds the limit ({Number.maxIntDigits} digits) for integer string conversion: value has " ++
  s!"{digits} digits; use sys.set_int_max_str_digits() to increase the limit"

/-- The wording for lists and objects that are nested too deep. -/
def depthMessage (object : Bool) : String :=
  "maximum recursion depth exceeded while decoding a JSON " ++
  (if object then "object" else "array") ++ " from a unicode string"

/-- The wording of a fault in the given text. -/
def Stop.message (stop : Stop) (s : String) : String :=
  match stop.fault with
  | .tooManyDigits n => digitLimitMessage n
  | .tooDeep object => depthMessage object
  | fault =>
    let cs := s.toList
    let position := cs.length - stop.left
    let before := cs.take position
    let line := before.count '\n' + 1
    let column := (before.reverse.takeWhile (· != '\n')).length + 1
    s!"{fault.label}: line {line} column {column} (char {position})"

end EventHub.Json
