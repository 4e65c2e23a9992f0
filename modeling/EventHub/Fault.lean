import EventHub.Fault.Kind
import EventHub.Json.Read
import EventHub.Record.Issue
import EventHub.Value.Show

/-!
# Faults

Everything that can go wrong, as causes; `Fault.message` words them and `Fault.kind` says who
handles them.
-/

namespace EventHub

/-- What definitions are about. -/
inductive Subject
  | rule
  | ruleUpdate (id : String)
  | flow
  | flowUpdate (id : String)
  | invocation
deriving DecidableEq, Repr

/-- What is wrong with a definition or registration. -/
inductive DefinitionFlaw
  | invalid (subject : Subject) (name : String) (issues : List Issue)
  | ruleExists (id : String)
  | flowExists (id : String)
  | unnamedAction
  | uncallableAction (actionType : String)
  | missingCondition
  | unknownOperator (op : String)
  | dayTime (text : String)
deriving DecidableEq, Repr

/-- What is wrong with a raw event. -/
inductive EventFlaw
  | notMap (typeName : String)
  | missing (fields : List String)
  | invalid (issues : List Issue)
deriving DecidableEq, Repr

/-- A value is of a type that does not support what is asked of it. -/
inductive TypeFlaw
  | notIterable (typeName : String)
  | notContainer (typeName : String)
  | unhashable (typeName : String)
  | textMembership (typeName : String)
  | bytesMembership (typeName : String)
  | notSubscriptable (typeName : String)
  | noItemAssignment (typeName : String)
  | listIndex (typeName : String)
  | unordered (op : String) (left right : String)
  | unsupported (op : String) (left right : String)
  | mixedMoments
  | intArgument (typeName : String)
  | floatArgument (typeName : String)
  | notPair (index : Nat)
  | uncallableHandler
  | badPattern
  | jsonKey (typeName : String)
  | notInteger
  | missingArgument (function argument : String)
deriving DecidableEq, Repr

/-- A value has the right type and a wrong content. -/
inductive ValueFlaw
  | intText (text : String)
  | intTextBytes (bytes : List UInt8)
  | intDigits (digits : Nat)
  | floatText (text : String)
  | floatTextBytes (bytes : List UInt8)
  | nanToInt
  | pairLength (index length : Nat)
  | negativeCapacity
deriving DecidableEq, Repr

/-- A fault and, where one led to it, its cause. -/
inductive Fault
  | definition (flaw : DefinitionFlaw)
  | invalidEvent (flaw : EventFlaw)
  | ruleNotFound (id : String)
  | flowNotFound (id : String)
  | actionNotFound (actionType : String)
  | flowDisabled (id : String)
  | step (stepId : Value) (text : String) (cause : Option Fault)
  | action (actionType reason : String) (cause : Option Fault)
  | synthesis (title : String) (cause : Fault)
  | busFull (eventId : String)
  | startup (cause : Fault)
  | validation (name : String) (issues : List Issue)
  | type (flaw : TypeFlaw)
  | value (flaw : ValueFlaw)
  | infiniteToInt
  | intTooLarge
  | sizeTooLarge
  | noMember (typeName member : String)
  | key (key : Value)
  | json (stop : Json.Stop) (source : String)
  | tooDeep
  | raised (kind : FaultKind) (text : String)

/-- The wording of a flaw of a definition. -/
def DefinitionFlaw.message : DefinitionFlaw → String
  | invalid subject name issues =>
    let title := match subject with
      | .rule => "Invalid rule definition"
      | .ruleUpdate id => s!"Invalid rule update for {id}"
      | .flow => "Invalid flow definition"
      | .flowUpdate id => s!"Invalid flow update for {id}"
      | .invocation => "Invalid action invocation"
    title ++ ": " ++ issuesText name issues
  | ruleExists id => s!"Rule already registered: {id}"
  | flowExists id => s!"Flow already exists: {id}"
  | unnamedAction => "Action type is required"
  | uncallableAction actionType => s!"Action handler for {actionType} must be callable"
  | missingCondition => "Condition is required"
  | unknownOperator op => s!"Unknown predicate operator: {op}"
  | dayTime text => s!"Invalid time of day {Text.quoted text}, expected HH:MM"

/-- The wording of a flaw of an event. -/
def EventFlaw.message : EventFlaw → String
  | notMap typeName => s!"Event must be a mapping, got {typeName}"
  | missing fields => "Event missing required fields: " ++ commaList fields
  | invalid issues => issuesText "Event" issues

/-- The wording of a flaw of type. -/
def TypeFlaw.message : TypeFlaw → String
  | notIterable t => s!"'{t}' object is not iterable"
  | notContainer t => s!"argument of type '{t}' is not iterable"
  | unhashable t => s!"unhashable type: '{t}'"
  | textMembership t => s!"'in <string>' requires string as left operand, not {t}"
  | bytesMembership t => s!"a bytes-like object is required, not '{t}'"
  | notSubscriptable t => s!"'{t}' object is not subscriptable"
  | noItemAssignment t => s!"'{t}' object does not support item assignment"
  | listIndex t => s!"list indices must be integers or slices, not {t}"
  | unordered op l r => s!"'{op}' not supported between instances of '{l}' and '{r}'"
  | unsupported op l r => s!"unsupported operand type(s) for {op}: '{l}' and '{r}'"
  | mixedMoments => "can't compare offset-naive and offset-aware datetimes"
  | intArgument t =>
    s!"int() argument must be a string, a bytes-like object or a real number, not '{t}'"
  | floatArgument t => s!"float() argument must be a string or a real number, not '{t}'"
  | notPair i => s!"cannot convert dictionary update sequence element #{i} to a sequence"
  | uncallableHandler => "Event handler must be callable"
  | badPattern => "Event pattern must be a string, a compiled regex or a callable"
  | jsonKey t => s!"keys must be str, int, float, bool or None, not {t}"
  | notInteger => "an integer is required"
  | missingArgument function argument =>
    s!"{function}() missing 1 required positional argument: '{argument}'"

/-- The most characters of a malformed integer that a message shows, the first quote included. -/
def shownIntLimit : Nat := 200

/-- The beginning of a quoted text. -/
def cutQuoted (quoted : String) : String := String.ofList (quoted.toList.take shownIntLimit)

/-- The wording of a flaw of content. -/
def ValueFlaw.message : ValueFlaw → String
  | intText s => "invalid literal for int() with base 10: " ++ cutQuoted (Text.quoted s)
  | intTextBytes bs =>
    "invalid literal for int() with base 10: " ++
      cutQuoted (Text.quotedBytes (bs.take shownIntLimit))
  | intDigits n => Json.digitLimitMessage n
  | floatText s => s!"could not convert string to float: {Text.quoted s}"
  | floatTextBytes bs => s!"could not convert string to float: {Text.quotedBytes bs}"
  | nanToInt => "cannot convert float NaN to integer"
  | pairLength i n =>
    s!"dictionary update sequence element #{i} has length {n}; 2 is required"
  | negativeCapacity => "maxlen must be non-negative"

namespace Fault

/-- The wording of a fault. -/
def message : Fault → String
  | definition flaw => flaw.message
  | invalidEvent flaw => flaw.message
  | ruleNotFound id => s!"Rule not found: {id}"
  | flowNotFound id => s!"Flow not found: {id}"
  | actionNotFound actionType => s!"Unknown action type: {actionType}"
  | flowDisabled id => s!"Flow is disabled: {id}"
  | step _ text _ => text
  | action actionType reason _ => s!"Action {actionType} failed: {reason}"
  | synthesis title cause => s!"{title}: " ++ cause.message
  | busFull eventId => s!"Event queue full; rejected {eventId}"
  | startup cause => "Failed to initialize flow orchestrator: " ++ cause.message
  | validation name issues => issuesText name issues
  | type flaw => flaw.message
  | value flaw => flaw.message
  | infiniteToInt => "cannot convert float infinity to integer"
  | intTooLarge => "int too large to convert to float"
  | sizeTooLarge => "Python int too large to convert to C ssize_t"
  | noMember typeName member => s!"'{typeName}' object has no attribute '{member}'"
  | key k => k.shown
  | json stop source => stop.message source
  | tooDeep => "maximum recursion depth exceeded"
  | raised _ text => text

/-- The kind of a fault. -/
def kind : Fault → FaultKind
  | definition _ => .definition
  | invalidEvent _ => .invalidEvent
  | ruleNotFound _ => .ruleNotFound
  | flowNotFound _ => .flowNotFound
  | actionNotFound _ => .actionNotFound
  | flowDisabled _ => .flowDisabled
  | step _ _ _ => .stepExecution
  | action _ _ _ => .actionExecution
  | synthesis _ _ => .synthesis
  | busFull _ => .busFull
  | startup _ => .startup
  | validation _ _ => .validation
  | type _ => .type
  | value _ => .value
  | infiniteToInt | intTooLarge | sizeTooLarge => .overflow
  | noMember _ _ => .member
  | key _ => .key
  | json stop _ => match stop.fault with
    | .tooManyDigits _ => .value
    | .tooDeep _ => .recursion
    | _ => .jsonDecode
  | tooDeep => .recursion
  | raised kind _ => kind

/-- The kind of what led to a fault, where something did. -/
def causeKind? : Fault → Option FaultKind
  | definition (.invalid _ _ _) | invalidEvent (.invalid _) => some .validation
  | definition (.dayTime _) => some .value
  | step _ _ cause | action _ _ cause => cause.map kind
  | synthesis _ cause | startup cause => some cause.kind
  | busFull _ => some .queueFull
  | _ => none

/-- Is the fault of the kind? -/
def isA (fault : Fault) (kind : FaultKind) : Bool := fault.kind.isA kind

end Fault

end EventHub
