import EventHub.Fault

/-!
# Reports of faults

A fault of the hub as it is reported to an application that raises one itself: its text, the
details that it carries, and the kinds that it belongs to.

* `faultReport`: the report of a kind with the arguments that it is raised with.
* `FaultKind.details`: the details of a kind.
-/

namespace EventHub

/-- The kinds of faults that an application may raise. -/
def FaultKind.ofTheHub : List FaultKind :=
  [.automation, .definition, .invalidEvent, .notFound, .ruleNotFound, .flowNotFound,
   .actionNotFound, .flowDisabled, .stepExecution, .actionExecution, .synthesis, .busFull, .startup]

/-- The kind of a name. -/
def FaultKind.ofName? (name : String) : Option FaultKind :=
  FaultKind.ofTheHub.find? fun kind => kind.name == name

/-- The names of the arguments of the kinds that take a fixed number of them. -/
def FaultKind.arguments : FaultKind → Option (List String)
  | ruleNotFound => some ["rule_id"]
  | flowNotFound | flowDisabled => some ["flow_id"]
  | actionNotFound => some ["action_type"]
  | stepExecution => some ["step_id", "message"]
  | actionExecution => some ["action_type", "message"]
  | _ => none

/-- Names in quotes, the last two joined by a word. -/
def andList : List String → String
  | [] => ""
  | [a] => s!"'{a}'"
  | [a, b] => s!"'{a}' and '{b}'"
  | a :: rest => s!"'{a}', " ++ andList rest

/-- The fault of a wrong number of arguments. -/
def arityFault (kind : FaultKind) (names : List String) (given : Nat) : Fault :=
  let missing := names.drop given
  let plural := if missing.length == 1 then "" else "s"
  if given < names.length then
    .raised .type (s!"{kind.name}.__init__() missing {missing.length} required positional " ++
      s!"argument{plural}: " ++ andList missing)
  else
    .raised .type (s!"{kind.name}.__init__() takes {names.length + 1} positional arguments but " ++
      s!"{given + 1} were given")

/-- The text of a fault that takes any arguments. -/
def looseText (args : List Value) : String :=
  match args with
  | [] => ""
  | [v] => v.plain
  | vs => (Value.tuple vs).shown

/-- The text of a kind with its arguments. -/
def FaultKind.text (kind : FaultKind) (args : List Value) : String :=
  match kind, args with
  | .ruleNotFound, [id] => "Rule not found: " ++ id.plain
  | .flowNotFound, [id] => "Flow not found: " ++ id.plain
  | .flowDisabled, [id] => "Flow is disabled: " ++ id.plain
  | .actionNotFound, [actionType] => "Unknown action type: " ++ actionType.plain
  | .stepExecution, [_, message] => message.plain
  | .actionExecution, [actionType, message] =>
    "Action " ++ actionType.plain ++ " failed: " ++ message.plain
  | _, args => looseText args

/-- The details that a kind carries. -/
def FaultKind.details (kind : FaultKind) (args : List Value) : Fields :=
  match kind, args with
  | .ruleNotFound, [id] => [("rule_id", id)]
  | .flowNotFound, [id] | .flowDisabled, [id] => [("flow_id", id)]
  | .actionNotFound, [actionType] => [("action_type", actionType)]
  | .stepExecution, [id, _] => [("step_id", id)]
  | .actionExecution, [actionType, message] => [("action_type", actionType), ("reason", message)]
  | _, _ => []

/-- The report of a kind with the arguments that it is raised with. -/
def faultReport (kind : FaultKind) (args : List Value) : Except Fault Value :=
  let report : Value := .map [("message", .text (kind.text args)),
    ("attributes", .map (kind.details args)),
    ("bases", .list (kind.lineage.map fun k => .text k.name))]
  match kind.arguments with
  | some names => if names.length == args.length then .ok report
    else .error (arityFault kind names args.length)
  | none => .ok report

end EventHub
