/-!
# Kinds of faults

Every fault has a kind, and every kind is a special case of broader ones. Whoever handles faults
of a broad kind also handles those of the special ones.

* `FaultKind.lineage_ends`: the broadest kind is common to all.
-/

namespace EventHub

/-- The kinds of faults. -/
inductive FaultKind
  | any
  | automation | definition | invalidEvent | notFound | ruleNotFound | flowNotFound
  | actionNotFound | flowDisabled | stepExecution | actionExecution | synthesis | busFull
  | startup
  | value | type | arithmetic | overflow | zeroDivision | lookup | key | index | member | runtime
  | notImplemented | recursion | validation | jsonDecode | unicode | unbound | queueFull | pattern
  | system | connection | refused | fileNotFound | isDirectory | smtp | request (name : String)
  | exit
deriving DecidableEq, Repr

namespace FaultKind

/-- The name of a kind. -/
def name : FaultKind → String
  | any => "Exception"
  | automation => "AutomationError"
  | definition => "DefinitionError"
  | invalidEvent => "InvalidEventError"
  | notFound => "NotFoundError"
  | ruleNotFound => "RuleNotFoundError"
  | flowNotFound => "FlowNotFoundError"
  | actionNotFound => "ActionNotFoundError"
  | flowDisabled => "FlowDisabledError"
  | stepExecution => "StepExecutionError"
  | actionExecution => "ActionExecutionError"
  | synthesis => "SynthesisError"
  | busFull => "EventBusFullError"
  | startup => "OrchestratorError"
  | value => "ValueError"
  | type => "TypeError"
  | arithmetic => "ArithmeticError"
  | overflow => "OverflowError"
  | zeroDivision => "ZeroDivisionError"
  | lookup => "LookupError"
  | key => "KeyError"
  | index => "IndexError"
  | member => "AttributeError"
  | runtime => "RuntimeError"
  | notImplemented => "NotImplementedError"
  | recursion => "RecursionError"
  | validation => "ValidationError"
  | jsonDecode => "JSONDecodeError"
  | unicode => "UnicodeError"
  | unbound => "UnboundLocalError"
  | queueFull => "Full"
  | pattern => "error"
  | system => "OSError"
  | connection => "ConnectionError"
  | refused => "ConnectionRefusedError"
  | fileNotFound => "FileNotFoundError"
  | isDirectory => "IsADirectoryError"
  | smtp => "SMTPException"
  | request name => name
  | exit => "SystemExit"

/-- The broader kinds of a kind, nearest first. -/
def broader : FaultKind → List FaultKind
  | any => []
  | exit => []
  | definition | invalidEvent => [automation, value, any]
  | notFound => [automation, lookup, any]
  | ruleNotFound | flowNotFound | actionNotFound => [notFound, automation, lookup, any]
  | flowDisabled | stepExecution | actionExecution | synthesis | busFull | startup =>
    [automation, any]
  | overflow | zeroDivision => [arithmetic, any]
  | key | index => [lookup, any]
  | notImplemented | recursion => [runtime, any]
  | validation | jsonDecode | unicode => [value, any]
  | unbound => [any]
  | connection | fileNotFound | isDirectory | smtp => [system, any]
  | refused => [connection, system, any]
  | request name =>
    if name == "RequestException" then [system, any] else [request "RequestException", system, any]
  | automation | value | type | arithmetic | lookup | member | runtime | queueFull | pattern
    | system => [any]

/-- A kind with its broader kinds. -/
def lineage (kind : FaultKind) : List FaultKind := kind :: kind.broader

/-- Is the kind the broader one or a special case of it? -/
def isA (kind wide : FaultKind) : Bool := kind.lineage.contains wide

theorem lineage_ends (kind : FaultKind) (h : kind ≠ exit) : kind.isA any = true := by
  cases kind with
  | exit => exact absurd rfl h
  | request name => by_cases hn : name = "RequestException" <;> simp [isA, lineage, broader, hn]
  | _ => rfl

end FaultKind

end EventHub
