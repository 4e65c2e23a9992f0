import EventHub.Rules.Engine

/-!
# The steps of flows

Each kind of step has its runner. Whatever goes wrong in a step becomes a fault of that step.

* `Condition.describe`: a condition as it is reported.
* `ruleStepEvent`: the event with which a step fires a rule.
* `runStep`: one step, and the input of the flow after it.
* `outcome_asStep_ok`, `outcome_asStep_error`: a result is kept, a fault becomes one of the step.
-/

namespace EventHub

variable {α : Type}

mutual

/-- A condition as it is reported: predicates as documents, functions by name. -/
def Condition.describe : Value → Value
  | .record .predicate fields => (Value.record .predicate fields).document
  | .list items => .list (Condition.describeAll items)
  | .function name => .text name
  | v => v

/-- Every condition of a list as it is reported. -/
def Condition.describeAll : List Value → List Value
  | [] => []
  | v :: rest => Condition.describe v :: Condition.describeAll rest

end

/-- A member of a value; only records have any. -/
def memberOf (v : Value) (name : String) : Except Fault Value :=
  match v with
  | .record kind fields => match Assoc.get? fields name with
    | some v => .ok v
    | none => .error (.noMember kind.name name)
  | v => .error (.noMember v.typeName name)

/-! ## The kinds of steps -/

/-- The type of the events with which steps fire rules that name no type. -/
def flowEventType : String := "flow_execution"

/-- The source of the events with which steps fire rules that name no source. -/
def flowEventSource : String := "flow_orchestrator"

/-- The entries of an input; an input that counts as false has none. -/
def inputEntries (input : Value) : Except Fault Value :=
  if input.truthy then input.toMap else .ok (.map [])

/-- The event with which a step fires a rule: of the first type and source that the rule names,
with the input of the flow as its data. -/
def ruleStepEvent (id now : String) (r : Rule) (data flowId stepId : Value) : Except Fault Event :=
  match Event.check id (.map [("id", .text id),
      ("type", .text (r.eventTypes.headD flowEventType)),
      ("source", .text (r.sources.headD flowEventSource)), ("timestamp", .text now),
      ("data", data), ("metadata", .map [("flow_id", flowId), ("step_id", stepId)])]) with
  | .ok e => .ok e
  | .error issues => .error (.validation "Event" issues)

/-- The rule that a value names. -/
def findRule (id : Value) : Task α Rule := do
  match ← getRule id with
  | some r => return r
  | none => throw (.ruleNotFound id.plain)

/-- Fires a rule. -/
def runRuleStep (host : Host α) (stepId ruleId : Value) (ctx : Context) : Task α Value := do
  let r ← findRule ruleId
  let id ← Task.freshId "flow-event"
  let now ← Task.now
  let data ← Task.ofExcept (inputEntries ctx.input)
  let e ← Task.ofExcept (ruleStepEvent id now r data (.ofText? (ctx.flow.bind (·.id))) stepId)
  return RuleRuns.toValue (← processEvent host (.checked e) (some ctx))

/-- Tests a condition. -/
def runConditionStep (host : Host α) (condition : Value) (ctx : Context) : Task α Value := do
  let result ← Task.ofExcept
    (Condition.holds host.app.ask ctx.templateValues condition)
  return .map [("condition", Condition.describe condition), ("result", .bool result),
    ("timestamp", .text (← Task.now))]

/-- What a step gives: its result, and the input of the flow, which it may have changed. -/
structure StepReply where
  result : Value
  input : Value

/-- A result that leaves the input of a context as it is. -/
def StepReply.ofResult (ctx : Context) (result : Value) : StepReply := ⟨result, ctx.input⟩

/-- The result of a transform. -/
def transformResult (source output : Value) : Task α Value := do
  return .map [("transformed", .bool true), ("input", source), ("output", output),
    ("timestamp", .text (← Task.now))]

/-- Transforms the input of the flow. The result holds the input, and an output that is a part of
it, as parts. -/
def transformInput (host : Host α) (spec : Value) (ctx : Context) : Task α StepReply := do
  let reply ← applyTransform host ctx.input spec ctx
  let output := match reply.part with
    | some path => .inputPart path
    | none => reply.answer
  return ⟨← transformResult (.inputPart []) output, reply.argument⟩

/-- Transforms data: a value of its own, or the input of the flow. -/
def runTransformStep (host : Host α) (input type template function : Value) (ctx : Context) :
    Task α StepReply := do
  let spec : Value := .map [("type", type), ("template", template), ("function", function)]
  if input.isNull then transformInput host spec ctx
  else
    let source ← Task.ofExcept (ctx.templateValues.resolve input)
    let reply ← applyTransform host source spec ctx
    return .ofResult ctx (← transformResult reply.argument reply.answer)

/-! ## Steps that were not checked -/

/-- The name of the class of steps that are no records. -/
def looseClass : String := "types.SimpleNamespace"

/-- An attribute of a step of a class that was not checked. -/
def looseAttribute (owner : String) (attributes : Fields) (name : String) : Except Fault Value :=
  match Assoc.get? attributes name with
  | some v => .ok v
  | none => .error (.noMember owner name)

/-- Runs a step that was not checked by its type; none when the type is unknown. -/
def runLoose (host : Host α) (owner : String) (attributes : Fields) (stepType : Value)
    (ctx : Context) : Option (Task α StepReply) :=
  let given (name : String) : Task α Value := Task.ofExcept (looseAttribute owner attributes name)
  match stepType with
  | .text "rule" => some do
    let ruleId ← given "rule_id"
    return .ofResult ctx (← runRuleStep host (Value.get attributes "id") ruleId ctx)
  | .text "action" => some do
    return .ofResult ctx (← executeAction host (← given "action") ctx true)
  | .text "condition" => some do
    return .ofResult ctx (← runConditionStep host (← given "condition") ctx)
  | .text "transform" => some do
    let input ← given "input"
    let spec ← given "transform"
    let part (name : String) : Task α Value := Task.ofExcept (memberOf spec name)
    runTransformStep host input (← part "type") (← part "template") (← part "function") ctx
  | _ => none

/-! ## Any step -/

/-- Is the fault one of a step already? -/
def Fault.ofStep : Fault → Bool
  | .step _ _ _ => true
  | _ => false

/-- The fault of a step. -/
def stepFault (stepId : Value) (fault : Fault) : Fault :=
  if fault.ofStep then fault else .step stepId fault.message (some fault)

/-- A task whose faults are those of a step. -/
def asStep {β : Type} (stepId : Value) (t : Task α β) : Task α β := do
  match ← Task.attempt t with
  | .ok v => return v
  | .error fault => throw (stepFault stepId fault)

/-- The id of a step. -/
def Step.idValue : Step → Value
  | .rule id _ | .action id _ | .condition id _ | .transform id _ _ => .text id
  | .unchecked _ attributes | .irregular attributes =>
    (Assoc.get? attributes "id").getD (.text "?")

/-- Runs a step of a class that was not checked. -/
def runIrregular (host : Host α) (owner : String) (attributes : Fields) (ctx : Context) :
    Task α StepReply := do
  let id := (Step.irregular attributes).idValue
  let stepType := Value.get attributes "type"
  if let some name := stepType.unhashable? then throw (.type (.unhashable name))
  match runLoose host owner attributes stepType ctx with
  | some t => asStep id t
  | none => throw (.step id ("Unknown step type: " ++ stepType.plain) none)

/-- Runs a step. -/
def runStep (host : Host α) (s : Step) (ctx : Context) : Task α StepReply :=
  let kept (t : Task α Value) : Task α StepReply := do return .ofResult ctx (← t)
  match s with
  | .rule id ruleId => asStep (.text id) (kept (runRuleStep host (.text id) (.text ruleId) ctx))
  | .action id call => asStep (.text id) (kept (executeCall host call ctx true))
  | .condition id test => asStep (.text id) (kept (runConditionStep host test ctx))
  | .transform id input spec => asStep (.text id)
      (runTransformStep host input (.text spec.type.name) spec.template
        (.ofOption (spec.function.map .function)) ctx)
  | .unchecked kind attributes => runIrregular host kind.name attributes ctx
  | .irregular attributes => runIrregular host looseClass attributes ctx

theorem outcome_asStep_ok {β : Type} {stepId : Value} {v : β} {t : Task α β} {h h' : Hub α}
    (ht : Task.outcome t h = (.ok v, h')) : Task.outcome (asStep stepId t) h = (.ok v, h') := by
  simp only [Task.outcome, ExceptT.run, StateT.run] at ht
  simp only [asStep, Task.outcome, Task.attempt, ExceptT.run, StateT.run, bind, ExceptT.bind,
    ExceptT.mk, StateT.bind, ht, ExceptT.bindCont]
  rfl

theorem outcome_asStep_error {β : Type} {stepId : Value} {fault : Fault} {t : Task α β}
    {h h' : Hub α}
    (ht : Task.outcome t h = (.error fault, h')) :
    Task.outcome (asStep stepId t) h = (.error (stepFault stepId fault), h') := by
  simp only [Task.outcome, ExceptT.run, StateT.run] at ht
  simp only [asStep, Task.outcome, Task.attempt, ExceptT.run, StateT.run, bind, ExceptT.bind,
    ExceptT.mk, StateT.bind, ht, ExceptT.bindCont]
  rfl

end EventHub
