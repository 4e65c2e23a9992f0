import EventHub.Fault

/-!
# Arguments of the program

The options of the command line. An option has a value, which is the next argument or follows an
equals sign, and its name may be cut short as long as it stays unique. Wrong usage ends the
program with status 2, a call for help with status 0.

* `Arguments.parse`: the options of a list of arguments.
-/

namespace EventHub

/-- The options of the program: texts, null where none is given, and the empty list where only a
separator follows the equals sign. -/
structure Arguments where
  config : Value
  logLevel : Value
  replay : Value

/-- The options when none are given. -/
def Arguments.standard : Arguments :=
  { config := .text "config/lookingglass_config.yaml", logLevel := .null, replay := .null }

/-- The options by what they set. -/
inductive ProgramOption
  | config | logLevel | replay | help
deriving DecidableEq, Repr

namespace ProgramOption

/-- The long name of an option. -/
def name : ProgramOption → String
  | config => "--config"
  | logLevel => "--log-level"
  | replay => "--replay"
  | help => "--help"

/-- All options. -/
def all : List ProgramOption := [help, config, logLevel, replay]

/-- The options whose names start with a text. -/
def startingWith (s : String) : List ProgramOption :=
  all.filter fun o => s.toList.isPrefixOf o.name.toList

/-- The option of an exact name. -/
def named? (s : String) : Option ProgramOption :=
  if s == "-h" then some help else all.find? fun o => o.name == s

end ProgramOption

/-- What an argument is. -/
inductive ArgumentKind
  | operand
  | separator
  | option (o : ProgramOption) (value : Option String)
  | helpCluster (rest : List Char)
  | unknown
  | ambiguous

/-- A row without the line break at its end, if it has one. -/
def withoutLineEnd (cs : List Char) : List Char :=
  if cs.getLast? == some '\n' then cs.dropLast else cs

/-- Is the text a negative number? A line break may follow it. -/
def isNegativeNumber (cs : List Char) : Bool :=
  match withoutLineEnd cs with
  | '-' :: rest =>
    let whole := rest.takeWhile Text.isDecimal
    match rest.dropWhile Text.isDecimal with
    | [] => !whole.isEmpty
    | '.' :: fraction => !fraction.isEmpty && fraction.all Text.isDecimal
    | _ => false
  | _ => false

/-- The text before and after the first equals sign, if there is one. -/
def splitEquals (s : String) : String × Option String :=
  let cs := s.toList
  let name := cs.takeWhile (· != '=')
  match cs.drop name.length with
  | _ :: rest => (String.ofList name, some (String.ofList rest))
  | [] => (s, none)

/-- What an argument is that starts with a hyphen and is no exact name of an option. -/
def abbreviated (s : String) : ArgumentKind :=
  let (name, value) := splitEquals s
  match value.bind fun v => (ProgramOption.named? name).map fun o => (o, v) with
  | some (o, v) =>
    if name == "-h" && !v.isEmpty then .helpCluster v.toList else .option o value
  | none =>
    match s.toList with
    | '-' :: '-' :: _ =>
      match ProgramOption.startingWith name with
      | [o] => .option o value
      | [] => if s.toList.contains ' ' then .operand else .unknown
      | _ => .ambiguous
    | '-' :: 'h' :: rest => .helpCluster rest
    | cs => if isNegativeNumber cs || cs.contains ' ' then .operand else .unknown

/-- What an argument is. -/
def ArgumentKind.of (s : String) : ArgumentKind :=
  match s.toList with
  | ['-', '-'] => .separator
  | '-' :: _ :: _ => match ProgramOption.named? s with
    | some o => .option o none
    | none => abbreviated s
  | _ => .operand

/-- Ends the program. -/
def endProgram {β : Type} (status : Nat) : Except Fault β :=
  .error (.raised .exit (toString status))

/-- Sets an option. -/
def Arguments.set (a : Arguments) (o : ProgramOption) (v : Value) : Arguments :=
  match o with
  | .config => { a with config := v }
  | .logLevel => { a with logLevel := v }
  | .replay => { a with replay := v }
  | .help => a

/-- The value after an equals sign; a separator there leaves an empty list. -/
def attachedValue (v : String) : Value := if v == "--" then .list [] else .text v

/-- Reads arguments that were told apart. `extra` tells whether something was left over. -/
def readArguments (a : Arguments) (extra : Bool) :
    List (String × ArgumentKind) → Except Fault Arguments
  | [] => if extra then endProgram 2 else .ok a
  | (_, .separator) :: _ => endProgram 2
  | (_, .option .help value) :: _ => endProgram (if value.isNone then 0 else 2)
  | (_, .option o (some v)) :: rest => readArguments (a.set o (attachedValue v)) extra rest
  | (_, .option o none) :: (v, .operand) :: rest => readArguments (a.set o (.text v)) extra rest
  | (_, .option _ none) :: _ => endProgram 2
  | (_, .helpCluster rest) :: _ => endProgram (if rest.all (· == 'h') then 0 else 2)
  | (_, _) :: rest => readArguments a true rest

/-- Tells arguments apart. Behind a separator all are operands. -/
def classify : List String → List (String × ArgumentKind)
  | [] => []
  | s :: rest =>
    match ArgumentKind.of s with
    | .separator => (s, .separator) :: rest.map fun r => (r, .operand)
    | kind => (s, kind) :: classify rest

/-- Is the argument the beginning of several options? -/
def ArgumentKind.isAmbiguous : ArgumentKind → Bool
  | ambiguous => true
  | _ => false

/-- The options of a list of arguments. -/
def Arguments.parse (arguments : List String) : Except Fault Arguments :=
  let told := classify arguments
  if told.any fun e => e.2.isAmbiguous then endProgram 2
  else readArguments .standard false told

end EventHub
