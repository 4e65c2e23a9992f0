import EventHub.Value.Show

/-!
# Writing JSON

Values as JSON text in ASCII, with a blank after commas and colons. A value without a JSON form
is written as its plain text.

* `obstacle?`: what keeps a value from being written in a number of levels.
* `maxLevels`: how many levels there are for what is sent, and for what is read.
-/

namespace EventHub.Json

/-- A UTF-16 unit as an escape. -/
def escapeUnit (n : Nat) : List Char := '\\' :: 'u' :: Text.hexText 4 n

/-- A character inside a JSON text. -/
def escapeChar (c : Char) : List Char :=
  let n := c.toNat
  if c == '"' || c == '\\' then ['\\', c]
  else if 32 ≤ n && n < 127 then [c]
  else if c == '\n' then ['\\', 'n']
  else if c == '\r' then ['\\', 'r']
  else if c == '\t' then ['\\', 't']
  else if n == 8 then ['\\', 'b']
  else if n == 12 then ['\\', 'f']
  else if n < 65536 then escapeUnit n
  else escapeUnit (0xd800 + (n - 65536) / 1024) ++ escapeUnit (0xdc00 + (n - 65536) % 1024)

/-- A text in JSON. -/
def textChars (s : String) : List Char := '"' :: s.toList.flatMap escapeChar ++ ['"']

/-- Parts with a comma and a blank between them. -/
def separated : List (List Char) → List Char
  | [] => []
  | [part] => part
  | part :: rest => part ++ ',' :: ' ' :: separated rest

/-- A key in JSON: texts as they are, and plain scalars by their JSON text. -/
def keyText : Value → String
  | .text s => s
  | .null => "null"
  | .bool b => if b then "true" else "false"
  | .float x => Number.floatTextWith "NaN" "Infinity" x
  | .nan _ => "NaN"
  | v => v.plain

/-- Can the value be a key in JSON? -/
def isKey : Value → Bool
  | .null | .bool _ | .int _ | .float _ | .nan _ | .text _ => true
  | _ => false

/-- What keeps a value from being written: a key without a form in JSON, or a list or map that is
nested too deep. -/
inductive Obstacle
  | key (k : Value)
  | depth

/-- One level deeper, if there is one. -/
def Obstacle.below : Nat → (Nat → Option Obstacle) → Option Obstacle
  | 0, _ => some .depth
  | levels + 1, inner => inner levels

mutual

/-- What first keeps a value from being written in so many levels of lists and maps. -/
def obstacle? : Value → Nat → Option Obstacle
  | .list items, levels | .tuple items, levels => Obstacle.below levels (itemObstacle? items)
  | .map fields, levels => Obstacle.below levels (fieldObstacle? fields)
  | .table entries, levels => Obstacle.below levels (entryObstacle? entries)
  | _, _ => none

/-- What first keeps items from being written. -/
def itemObstacle? : List Value → Nat → Option Obstacle
  | [], _ => none
  | v :: rest, levels => (obstacle? v levels).or (itemObstacle? rest levels)

/-- What first keeps the values of a map from being written. -/
def fieldObstacle? : List (String × Value) → Nat → Option Obstacle
  | [], _ => none
  | (_, v) :: rest, levels => (obstacle? v levels).or (fieldObstacle? rest levels)

/-- What first keeps a table from being written: one of its keys, or something in a value. -/
def entryObstacle? : List (Value × Value) → Nat → Option Obstacle
  | [], _ => none
  | (k, v) :: rest, levels =>
    if isKey k then (obstacle? v levels).or (entryObstacle? rest levels) else some (.key k)

end

mutual

/-- A value in JSON. -/
def chars : Value → List Char
  | .null => "null".toList
  | .bool b => if b then "true".toList else "false".toList
  | .int n => (Number.intText n).toList
  | .float x => (Number.floatTextWith "NaN" "Infinity" x).toList
  | .nan _ => "NaN".toList
  | .text s => textChars s
  | .list items => '[' :: separated (itemChars items) ++ [']']
  | .tuple items => '[' :: separated (itemChars items) ++ [']']
  | .map fields => '\x7b' :: separated (fieldChars fields) ++ ['\x7d']
  | .table entries => '\x7b' :: separated (entryChars entries) ++ ['\x7d']
  | .bytes bs => textChars (Value.bytes bs).plain
  | .set items => textChars (Value.set items).plain
  | .moment m => textChars (Value.moment m).plain
  | .function name => textChars (Value.function name).plain
  | .record kind fields => textChars (Value.record kind fields).plain
  | .inputPart path => textChars (Value.inputPart path).plain

/-- Every item in JSON. -/
def itemChars : List Value → List (List Char)
  | [] => []
  | v :: rest => chars v :: itemChars rest

/-- Every entry of a map in JSON. -/
def fieldChars : List (String × Value) → List (List Char)
  | [] => []
  | (k, v) :: rest => (textChars k ++ ':' :: ' ' :: chars v) :: fieldChars rest

/-- Every entry of a table in JSON. -/
def entryChars : List (Value × Value) → List (List Char)
  | [] => []
  | (k, v) :: rest => (textChars (keyText k) ++ ':' :: ' ' :: chars v) :: entryChars rest

end

/-- The most levels of lists and maps that a text of the wire has. -/
def maxLevels : Nat := 990

/-- The JSON text of a value. -/
def write (v : Value) : String := String.ofList (chars v)

end EventHub.Json
