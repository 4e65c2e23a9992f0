/-!
# Lines

A text is cut into lines at line feeds, carriage returns and the other line boundaries; a carriage
return with a line feed is one boundary, and a boundary at the end starts no further line.
-/

namespace EventHub.Text

/-- The boundaries of lines in plain bytes. -/
def isPlainBreak (c : Char) : Bool := c == '\n' || c == '\r'

/-- The boundaries of lines in text. -/
def isLineBreak (c : Char) : Bool :=
  [10, 11, 12, 13, 28, 29, 30, 133, 8232, 8233].contains c.toNat

/-- Puts a character in front of the first line. -/
def consLine (c : Char) : List (List Char) → List (List Char)
  | [] => [[c]]
  | line :: rest => (c :: line) :: rest

/-- The lines of a text for the given boundaries. -/
def linesWith (isBreak : Char → Bool) : List Char → List (List Char)
  | [] => []
  | '\r' :: '\n' :: rest => [] :: linesWith isBreak rest
  | c :: rest =>
    if isBreak c then [] :: linesWith isBreak rest else consLine c (linesWith isBreak rest)

/-- The lines of a text. -/
def lines (s : String) : List String := (linesWith isLineBreak s.toList).map String.ofList

/-- The lines of the text of a file. -/
def fileLines (s : String) : List String := (linesWith isPlainBreak s.toList).map String.ofList

/-- Has the text more than one line? -/
def manyLines (s : String) : Bool := 1 < (lines s).length

/-- The text as the body of a message: every line ends with a line feed. -/
def mailBody (s : String) : String :=
  String.intercalate "\n" (fileLines s) ++ "\n"

end EventHub.Text
