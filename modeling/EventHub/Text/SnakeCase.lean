import EventHub.Text.LetterCase

/-!
# Names in snake case

A name in camel case is split into words: before the last capital of a row that small letters
follow, between a small letter and a capital, and on both sides of digits. Hyphens become
underscores, and all letters small.

* `snakeCase`: the rule.
-/

namespace EventHub.Text

/-- Is the character a capital ASCII letter? -/
def isCapital (c : Char) : Bool := 'A' ≤ c && c ≤ 'Z'

/-- Is the character a small ASCII letter? -/
def isSmall (c : Char) : Bool := 'a' ≤ c && c ≤ 'z'

/-- Is the character an ASCII digit? -/
def isNumeral (c : Char) : Bool := '0' ≤ c && c ≤ '9'

/-- Puts an underscore between neighbours of the two classes. -/
def splitBetween (left right : Char → Bool) : List Char → List Char
  | [] => []
  | [c] => [c]
  | c :: d :: rest =>
    if left c && right d then c :: '_' :: splitBetween left right (d :: rest)
    else c :: splitBetween left right (d :: rest)

/-- Puts an underscore before the last capital of a row that a small letter follows. -/
def splitCapitals : List Char → List Char
  | c :: d :: e :: rest =>
    if isCapital c && isCapital d && isSmall e then c :: '_' :: splitCapitals (d :: e :: rest)
    else c :: splitCapitals (d :: e :: rest)
  | cs => cs

/-- The name in snake case. -/
def snakeCase (s : String) : String :=
  let words := splitBetween isSmall isNumeral <| splitBetween isNumeral isCapital <|
    splitBetween isSmall isCapital <| splitCapitals s.toList
  lower (String.ofList (words.map fun c => if c == '-' then '_' else c))

end EventHub.Text
