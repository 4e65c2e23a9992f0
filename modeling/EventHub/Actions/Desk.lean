import EventHub.Actions.Nesting
import EventHub.Actions.Run
import EventHub.Condition

/-!
# The action desk

Actions are run by name. The desk looks for the handler of an invocation, resolves the tokens of
its parameters, runs the handler, and counts what came of it. A fault of a handler becomes a fault
of the action, once, however deeply actions are nested.

* `executeCall`: an invocation is looked up, resolved and run.
* `runHandler`: a handler at work; the conditional action runs a branch, whose parameters were
  resolved with its own.
* `counted`: a run is counted and its fault named.
* `findHandler_eq_error`: what happens to an unknown action.
-/

namespace EventHub

variable {α : Type}

/-- The part of the hub that these lines of the log are from. -/
def deskPart : String := "ActionFramework"

/-- Changes the action desk. -/
def modifyDesk (f : ActionDesk → ActionDesk) : Task α Unit :=
  modify fun h => { h with desk := f h.desk }

/-! ## Counting -/

/-- Counts a run that succeeded. -/
def ActionDesk.succeed (d : ActionDesk) (actionType started : String) : ActionDesk :=
  { d with total := d.total + 1, succeeded := d.succeeded + 1,
           last := some ⟨actionType, true, started, ""⟩ }

/-- Counts a run that failed. -/
def ActionDesk.fail (d : ActionDesk) (actionType started error : String) : ActionDesk :=
  { d with total := d.total + 1, failed := d.failed + 1,
           last := some ⟨actionType, false, started, error⟩ }

/-- Is the fault one of an action already? -/
def Fault.ofAction : Fault → Bool
  | .action _ _ _ => true
  | _ => false

/-- The fault of an action; the fault of a nested action stays as it is. -/
def nameFault (actionType : String) (fault : Fault) : Fault :=
  if fault.ofAction then fault else .action actionType fault.message (some fault)

/-- Runs an action and counts it. A fault that is not yet one of an action is logged. -/
def counted (actionType : String) (ctx : Context) (t : Task α Value) : Task α Value := do
  let started ← Task.now
  match ← Task.attempt t with
  | .ok v =>
    modifyDesk fun d => d.succeed actionType started
    return v
  | .error fault =>
    modifyDesk fun d => d.fail actionType started fault.message
    if !fault.ofAction then
      Task.logFault deskPart "Action execution failed"
        [("action", .text actionType), ("rule", .ofText? (ctx.rule.bind (·.id)))] fault
    throw (nameFault actionType fault)

/-! ## Running -/

/-- The handler of an action. -/
def findHandler (actionType : String) : Task α ActionHandler := do
  match Assoc.get? (← get).desk.actions actionType with
  | some handler => return handler
  | none => throw (.actionNotFound actionType)

/-- What the condition of a conditional action comes to. -/
def branchOutcome (host : Host α) (params : Fields) (ctx : Context) : Task α Bool := do
  let condition := Value.get params "condition"
  if condition.isNull then throw (.raised .value "conditional_action requires condition")
  Task.ofExcept (Condition.holds host.app.ask ctx.templateValues condition)

/-- The result of a conditional action without a branch to run. -/
def idleBranch (outcome : Bool) : Task α Value := do
  return .map [("condition_result", .bool outcome), ("executed", .bool false),
    ("timestamp", .text (← Task.now))]

/-- The result of a conditional action whose branch was run. -/
def ranBranch (outcome : Bool) (branch result : Value) : Task α Value :=
  match branch.fields? with
  | some fields => return .map [("condition_result", .bool outcome), ("executed", .bool true),
      ("action", Value.get fields "type"), ("result", result)]
  | none => throw (.noMember branch.typeName "get")

/-- Runs a handler with parameters in which all tokens are resolved. -/
def runHandler (host : Host α) (handler : ActionHandler) (params : Fields) (ctx : Context) :
    Task α Value := do
  match handler with
  | .function name => return (← host.app.act host.receive name (.map params) ctx).answer
  | .stock .conditional =>
    let outcome ← branchOutcome host params ctx
    match hb : chosenBranch params outcome with
    | none => idleBranch outcome
    | some branch =>
      match hc : invocationOf branch with
      | .error fault => throw fault
      | .ok call =>
        let inner ← findHandler call.type
        have : Value.depthFields call.parameters < Value.depthFields params := branchCall_lt hb hc
        ranBranch outcome branch
          (← counted call.type ctx (runHandler host inner call.parameters ctx))
  | .stock action => runStock host action params ctx
termination_by Value.depthFields params

/-- The parameters of an invocation, with their tokens resolved unless that was done before. -/
def preparedParameters (call : ActionInvocation) (ctx : Context) (resolve : Bool) :
    Except Fault Fields :=
  if resolve then Value.resolveFields ctx.templateValues call.parameters
  else .ok call.parameters

/-- Looks an invocation up, resolves its parameters and runs it. -/
def executeCall (host : Host α) (call : ActionInvocation) (ctx : Context) (resolve : Bool) :
    Task α Value := do
  let handler ← findHandler call.type
  let params ← Task.ofExcept (preparedParameters call ctx resolve)
  counted call.type ctx (runHandler host handler params ctx)

/-- Runs the invocation that a value describes. -/
def executeAction (host : Host α) (v : Value) (ctx : Context) (resolve : Bool) : Task α Value := do
  executeCall host (← Task.ofExcept (invocationOf v)) ctx resolve

/-! ## The table of handlers -/

/-- Registers a handler. Only what can be called can be one. -/
def registerHandler (actionType : String) (handler : Option ActionHandler) : Task α Unit := do
  if actionType.isEmpty then throw (.definition .unnamedAction)
  match handler with
  | none => throw (.definition (.uncallableAction actionType))
  | some handler =>
    let replaced := Assoc.has (← get).desk.actions actionType
    modifyDesk fun d => { d with actions := Assoc.put d.actions actionType handler }
    if replaced then Task.log .info deskPart s!"Action re-registered: {actionType}"

/-- Takes an action out of the table. -/
def unregisterHandler (actionType : String) : Task α Unit := do
  let _ ← findHandler actionType
  modifyDesk fun d => { d with actions := Assoc.erase d.actions actionType }
  Task.log .info deskPart s!"Action unregistered: {actionType}"

/-- Is the action in the table? -/
def ActionDesk.has (d : ActionDesk) (actionType : String) : Bool := Assoc.has d.actions actionType

/-- The names of the actions, sorted. -/
def ActionDesk.available (d : ActionDesk) : List String :=
  (Assoc.keys d.actions).mergeSort fun a b => compareTexts a b != .gt

/-- A run as a value; an empty error is left out. -/
def ActionRun.toValue (r : ActionRun) : Value :=
  .map ([("action", .text r.actionType), ("success", .bool r.success),
    ("timestamp", .text r.started)] ++
    (if r.error.isEmpty then [] else [("error", .text r.error)]))

/-- The counters of the desk. -/
def ActionDesk.stats (d : ActionDesk) : Value :=
  .map [("total_executions", .int d.total), ("successful_executions", .int d.succeeded),
    ("failed_executions", .int d.failed),
    ("last_execution", .ofOption (d.last.map ActionRun.toValue)),
    ("available_actions", .int d.actions.length)]

/-- A service without web hooks and numbers. -/
def NotificationService.bare (settings : NotificationSettings)
    (httpTimeout smtpTimeout : Value) : NotificationService :=
  { settings, webhookUrls := [], smsTo := [], smsTo_truthy := nofun, httpTimeout, smtpTimeout,
    logOnly := false }

/-- A service that delivers as the settings say. -/
def NotificationService.ofSettings (settings : NotificationSettings)
    (httpTimeout smtpTimeout : Value) : Except Fault NotificationService := do
  let webhookUrls := (← settings.webhookUrls.toList).filter Value.truthy
  let numbers ← settings.smsTo.toList
  .ok { NotificationService.bare settings httpTimeout smtpTimeout with
    webhookUrls
    smsTo := numbers.filter Value.truthy
    smsTo_truthy := fun _ hn => (List.mem_filter.1 hn).2 }

/-- A desk without actions. -/
def ActionDesk.bare (settings : ActionSettings) (service : NotificationService) : ActionDesk :=
  { settings, service, actions := [], total := 0, succeeded := 0, failed := 0, last := none }

/-- A desk with the stock actions. -/
def ActionDesk.stocked (settings : ActionSettings) (service : NotificationService) : ActionDesk :=
  { ActionDesk.bare settings service with
    actions := StockAction.all.map fun a => (a.name, .stock a) }

/-- Opens a desk with the stock actions. -/
def openDesk (settings : ActionSettings) (service : NotificationService) : Task α Unit := do
  modifyDesk fun _ => .stocked settings service
  Task.log .info deskPart s!"Action framework ready with {(← get).desk.actions.length} actions"

theorem findHandler_eq_error {h : Hub α} {actionType : String}
    (hn : h.desk.has actionType = false) :
    Task.outcome (findHandler actionType) h = (.error (.actionNotFound actionType), h) := by
  have hg : Assoc.get? h.desk.actions actionType = none := by
    simpa [ActionDesk.has, Assoc.has] using hn
  have hf : Task.outcome (findHandler actionType) h =
      Task.outcome (match Assoc.get? h.desk.actions actionType with
        | some handler => pure handler
        | none => throw (.actionNotFound actionType)) h := rfl
  rw [hf, hg]
  rfl

end EventHub
