import EventHub.Fault
import EventHub.Text.LetterCase

/-!
# The log

Lines with a level, the name of the part that wrote them, and a text. Lines below the level
`info` are not kept.

* `Level.ofName?_name`: a level is told by its name.
* `extraText`: the circumstances of a fault as they are added to its line.
-/

namespace EventHub

/-- How important a line is. -/
inductive Level
  | notset | debug | info | warning | error | critical
deriving DecidableEq, Repr

namespace Level

/-- The number of a level. -/
def number : Level → Nat
  | notset => 0
  | debug => 10
  | info => 20
  | warning => 30
  | error => 40
  | critical => 50

/-- The name of a level. -/
def name : Level → String
  | notset => "NOTSET"
  | debug => "DEBUG"
  | info => "INFO"
  | warning => "WARNING"
  | error => "ERROR"
  | critical => "CRITICAL"

/-- The level of a name; two levels have a second name. -/
def ofName? (s : String) : Option Level :=
  match s with
  | "NOTSET" => some notset
  | "DEBUG" => some debug
  | "INFO" => some info
  | "WARN" | "WARNING" => some warning
  | "ERROR" => some error
  | "FATAL" | "CRITICAL" => some critical
  | _ => none

theorem ofName?_name (l : Level) : ofName? l.name = some l := by
  cases l <;> rfl

/-- Is a line of the level kept? -/
def kept (l : Level) : Bool := info.number ≤ l.number

end Level

/-- The number of a level that is given by name or number; null and unknown names mean the
default. -/
def resolveLevel (level default : Value) : Value :=
  match level with
  | .null => default
  | .int _ | .bool _ => level
  | v => match Level.ofName? (Text.upper (Text.strip v.plain)) with
    | some l => .int l.number
    | none => default

/-- How the log is set up. -/
structure LogSetup where
  level : Value
  noisyLevel : Value
  toFile : Bool

/-- Parts that write many lines. -/
def noisyParts : List String := ["paho", "urllib3"]

/-- The level that noisy parts are held at, unless everything is to be seen. -/
def levelOfNoisy (level : Value) : Value :=
  let everything : Bool := match level with
    | .int n => n ≤ Level.debug.number
    | .bool _ => true
    | _ => false
  if everything then level else .int Level.warning.number

/-- The set-up for a level and, where one is given, a file. -/
def LogSetup.of (level file : Value) : LogSetup :=
  let level := resolveLevel level (.int Level.info.number)
  { level, noisyLevel := levelOfNoisy level, toFile := file.truthy }

/-- The set-up as a value. -/
def LogSetup.toValue (s : LogSetup) : Value :=
  .map [("root", s.level), ("noisy", .map (noisyParts.map fun part => (part, s.noisyLevel))),
    ("handlers", .list ([.text "StreamHandler"] ++
      (if s.toFile then [.text "FileHandler"] else []))),
    ("file_made", .bool s.toFile)]

/-- A line of the log. -/
structure LogLine where
  level : Level
  part : String
  text : String
deriving DecidableEq, Repr

/-- The circumstances that are known, each with a blank before it. -/
def extraText (extra : Fields) : String :=
  String.join ((extra.filter fun (_, v) => !v.isNull).map fun (k, v) => s!" {k}=" ++ v.plain)

/-- A title with circumstances and the fault that they led to. -/
def faultText (title : String) (extra : Fields) (fault : String) : String :=
  title ++ extraText extra ++ ": " ++ fault

end EventHub
