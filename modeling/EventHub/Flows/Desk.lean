import EventHub.Flows.Book
import EventHub.Flows.Runner

/-!
# The flow desk

Flows are registered, changed and removed, and run by id. A step that fails leaves its error in
place of its result, and the steps after it still run.

* `createFlow`, `updateFlow`, `deleteFlow`: the registry.
* `runSteps`: the steps of a flow, each with the results before it.
* `executeSteps`: a flow is run and reported.
* `tallied`: what a flow adds to the counters, whatever comes of it.
-/

namespace EventHub

variable {α : Type}

/-- The part of the hub that these lines of the log are from. -/
def flowPart : String := "FlowOrchestrator"

/-- Changes the flow desk. -/
def modifyFlows (f : FlowDesk → FlowDesk) : Task α Unit :=
  modify fun h => { h with flows := f h.flows }

/-- A desk without flows. -/
def FlowDesk.empty : FlowDesk :=
  { book := [], listeners := [], initialized := false, total := 0, active := 0, completed := 0,
    failed := 0, last := none }

/-! ## The registry -/

/-- The name and id of a flow, as they are logged. -/
def Flow.title (f : Flow) : String := s!"{f.name} (" ++ (Value.ofText? f.id).plain ++ ")"

/-- Registers a flow and gives its id. -/
def createFlow (host : Host α) (d : Definition Flow) : Task α String := do
  let now ← Task.now
  let f ← Task.ofExcept (d.toFlow now)
  let fresh ← if f.id.isNone then Task.freshId "flow" else pure ""
  let (id, f, book) ← Task.ofExcept ((← get).flows.book.register now fresh f)
  modifyFlows fun d => { d with book }
  Task.log .info flowPart ("Flow created: " ++ f.title)
  announce host Topic.flowCreated (.flow f)
  return id

/-- Merges updates into a flow. -/
def updateFlow (host : Host α) (id : String) (updates : Value) : Task α Flow := do
  let now ← Task.now
  let (f, book) ← Task.ofExcept ((← get).flows.book.update now id updates)
  modifyFlows fun d => { d with book }
  Task.log .info flowPart (s!"Flow updated: {f.name} ({id})")
  announce host Topic.flowUpdated (.flow f)
  return f

/-- Removes a flow. -/
def deleteFlow (host : Host α) (id : String) : Task α Unit := do
  let (f, book) ← Task.ofExcept ((← get).flows.book.remove id)
  modifyFlows fun d => { d with book }
  Task.log .info flowPart (s!"Flow deleted: {f.name} ({id})")
  announce host Topic.flowDeleted (.value (.map [("flow_id", .text id), ("name", .text f.name)]))

/-! ## Counters -/

/-- A flow begins. -/
def FlowDesk.begin (d : FlowDesk) : FlowDesk :=
  { d with total := d.total + 1, active := d.active + 1 }

/-- A flow ends: without failures it is completed, with any it has failed. -/
def FlowDesk.finish (d : FlowDesk) (run : FlowRun) : FlowDesk :=
  { d with
    active := d.active - 1
    failed := if run.failures == 0 then d.failed else d.failed + 1
    completed := if run.failures == 0 then d.completed + 1 else d.completed
    last := some run }

/-- Runs a task that gives a result with the id of a flow and a number of failures, and counts it
as a flow. A task that does not come to its end counts as one failure of the flow `flowId`. -/
def tallied {β : Type} (flowId : Option String) (t : Task α (β × Option String × Nat)) :
    Task α β := do
  let started ← Task.now
  modifyFlows FlowDesk.begin
  match ← Task.attempt t with
  | .ok (b, id, failures) =>
    modifyFlows (·.finish ⟨id, started, failures⟩)
    return b
  | .error fault =>
    modifyFlows (·.finish ⟨flowId, started, 1⟩)
    throw fault

/-! ## Running -/

/-- The step that a fault is of. -/
def Fault.stepId : Fault → Value
  | .step id _ _ => id
  | _ => .null

/-- Runs one step. A failed step gives its error, and whether it failed is told beside it. Only
faults of steps are failures of steps. -/
def stepResult (host : Host α) (flowId : Option String) (s : Step) (ctx : Context) :
    Task α (StepReply × Bool) := do
  match ← Task.attempt (runStep host s ctx) with
  | .ok reply => return (reply, false)
  | .error fault =>
    if !fault.ofStep then throw fault
    Task.logFault flowPart "Flow step failed"
      [("flow_id", .ofText? flowId), ("step_id", fault.stepId)] fault
    return (.ofResult ctx (.map [("error", .text fault.message)]), true)

/-- What came of the steps of a flow so far: their results, in which the input stands as parts,
the input as it is now, and the number of failures. -/
structure FlowState where
  results : List Value
  input : Value
  failures : Nat

/-- The results with the parts of the input put in. -/
def FlowState.settled (s : FlowState) : List Value := Value.settledItems s.input s.results

/-- A step adds its result. -/
def FlowState.add (s : FlowState) (reply : StepReply) (failed : Bool) : FlowState :=
  { results := s.results ++ [reply.result], input := reply.input
    failures := if failed then s.failures + 1 else s.failures }

/-- Runs steps in order, each with the input as it is and the results of those before it. -/
def runSteps (host : Host α) (flowId : Option String) (ctx : Context) (state : FlowState) :
    List Step → Task α FlowState
  | [] => return state
  | s :: rest => do
    let ctx := { ctx with input := state.input, steps := state.settled }
    let (reply, failed) ← stepResult host flowId s ctx
    runSteps host flowId ctx (state.add reply failed) rest

/-- The context of a flow. -/
def flowContext (h : Hub α) (f : Flow) (input : Value) : Context :=
  { Context.bare h.now.text with flow := some f, input, running := true }.withServices h

/-- The notice of a flow that was run. -/
def flowReport (f : Flow) (input : Value) (results : List Value) (now : String) : Notice :=
  .value (.map [("flow_id", .ofText? f.id), ("input", input), ("results", .list results),
    ("timestamp", .text now)])

/-- Runs the steps of a flow and reports them. The report tells what the entries of the input have
become, and leaves out entries that steps have added. -/
def executeSteps (host : Host α) (f : Flow) (input : Value) : Task α (List Value × Nat) := do
  let entries ← Task.ofExcept (inputEntries input)
  let state ← runSteps host f.id (flowContext (← get) f entries) ⟨[], entries, 0⟩ f.steps
  let results := state.settled
  let failures := state.failures
  Task.log .info flowPart
    ("Flow executed: " ++ f.title ++ s!" steps={results.length} failed={failures}")
  let told := Value.settled state.input entries.asParts
  announce host Topic.flowExecuted (flowReport f told results (← Task.now))
  return (results, failures)

/-- Runs a flow as one of those that are counted. -/
def runFlow (host : Host α) (f : Flow) (input : Value) : Task α (List Value) :=
  tallied f.id do
    let (results, failures) ← executeSteps host f input
    return (results, f.id, failures)

/-- Runs a registered flow, which has to be enabled, and gives the results of its steps. -/
def executeFlow (host : Host α) (id : String) (input : Value) : Task α (List Value) := do
  match Assoc.get? (← get).flows.book id with
  | none => throw (.flowNotFound id)
  | some f =>
    if !f.metadata.enabled then throw (.flowDisabled id)
    runFlow host f input

end EventHub
