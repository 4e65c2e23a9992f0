import EventHub.Number.Text
import EventHub.Text.Quoted
import EventHub.Value.Basic

/-!
# Values as text

`Value.shown` writes a value so that its type can be seen: texts are quoted, containers have
their brackets. `Value.plain` writes a text as it is and a moment in ISO form.

* `Value.plain_text`: a text is its own plain form.
-/

namespace EventHub

/-- Texts with a comma between them. -/
def commaList (parts : List String) : String := String.intercalate ", " parts

/-- A length of time as it is shown: whole days, then seconds and microseconds of a day. -/
def shownDuration (micros : Int) : String :=
  let days := micros.fdiv Time.dayMicros
  let rest := micros.fmod Time.dayMicros
  let parts :=
    (if days == 0 then [] else ["days=" ++ Number.intText days]) ++
    (if rest / 1000000 == 0 then [] else ["seconds=" ++ Number.intText (rest / 1000000)]) ++
    (if rest % 1000000 == 0 then [] else ["microseconds=" ++ Number.intText (rest % 1000000)])
  "datetime.timedelta(" ++ (if parts.isEmpty then "0" else commaList parts) ++ ")"

/-- A moment as it is shown: its numbers, without zero seconds and microseconds. -/
def shownMoment (m : Time.Moment) : String :=
  let c := m.clock
  let small :=
    if c.micro != 0 then [c.second, c.micro] else if c.second != 0 then [c.second] else []
  let numbers := ([m.year, m.month, m.day, c.hour, c.minute] ++ small).map toString
  let zone := match m.offset with
    | none => []
    | some 0 => ["tzinfo=datetime.timezone.utc"]
    | some offset => ["tzinfo=datetime.timezone(" ++ shownDuration offset ++ ")"]
  "datetime.datetime(" ++ commaList (numbers ++ zone) ++ ")"

mutual

/-- The value with its type to be seen. -/
def Value.shown : Value → String
  | .null => "None"
  | .bool b => if b then "True" else "False"
  | .int n => Number.intText n
  | .float x => Number.floatText x
  | .nan _ => "nan"
  | .text s => Text.quoted s
  | .bytes bs => Text.quotedBytes bs
  | .list items => "[" ++ commaList (Value.shownItems items) ++ "]"
  | .tuple [v] => "(" ++ v.shown ++ ",)"
  | .tuple items => "(" ++ commaList (Value.shownItems items) ++ ")"
  | .set [] => "set()"
  | .set items => "\x7b" ++ commaList (Value.shownItems items) ++ "\x7d"
  | .map fields => "\x7b" ++ commaList (Value.shownFields fields) ++ "\x7d"
  | .table entries => "\x7b" ++ commaList (Value.shownEntries entries) ++ "\x7d"
  | .moment m => shownMoment m
  | .function name => "<function " ++ name ++ ">"
  | .record kind fields => kind.name ++ "(" ++ commaList (Value.shownRecord fields) ++ ")"
  | .inputPart path => "input" ++ String.join (path.map ("." ++ ·))

/-- Every item shown. -/
def Value.shownItems : List Value → List String
  | [] => []
  | v :: rest => v.shown :: Value.shownItems rest

/-- Every entry of a map shown. -/
def Value.shownFields : List (String × Value) → List String
  | [] => []
  | (k, v) :: rest => (Text.quoted k ++ ": " ++ v.shown) :: Value.shownFields rest

/-- Every entry of a table shown. -/
def Value.shownEntries : List (Value × Value) → List String
  | [] => []
  | (k, v) :: rest => (k.shown ++ ": " ++ v.shown) :: Value.shownEntries rest

/-- Every field of a record shown. -/
def Value.shownRecord : List (String × Value) → List String
  | [] => []
  | (k, v) :: rest => (k ++ "=" ++ v.shown) :: Value.shownRecord rest

end

/-- The value as plain text. -/
def Value.plain : Value → String
  | .text s => s
  | .moment m => m.textWith ' '
  | .record _ fields => String.intercalate " " (Value.shownRecord fields)
  | v => v.shown

theorem Value.plain_text (s : String) : (Value.text s).plain = s := rfl

end EventHub
