import EventHub.Flows.Listen

/-!
# Starting and stopping

The hub starts by listening to the bus, sharing the actions of the desk with the rule engine, and
loading the configured rules and flows. When any of this fails, it stops listening again.

* `initialize`, `shutdown`: the two ends.
* `syncActions`: what the rule engine shares with the action desk.
-/

namespace EventHub

variable {α : Type}

/-! ## Actions and connectors -/

/-- Shares the actions of the given names with the rule engine. -/
def shareActions : List String → Task α Unit
  | [] => return ()
  | actionType :: rest => do
    setEngineAction actionType (some (.shared actionType))
    shareActions rest

/-- Shares every action of the desk with the rule engine. -/
def syncActions : Task α Unit := do shareActions (← get).desk.available

/-- Registers an action on the desk and shares it with the rule engine. -/
def registerAction (actionType : String) (handler : Option ActionHandler) : Task α Unit := do
  registerHandler actionType handler
  setEngineAction actionType (some (.shared actionType))

/-- Adds a connector. -/
def registerConnector (id : String) (c : Connector) : Task α Unit :=
  modify fun h => { h with connectors := Assoc.put h.connectors id c }

/-! ## Start and stop -/

/-- Ends the subscriptions of the given numbers. -/
def unsubscribeAll : List Nat → Task α Unit
  | [] => return ()
  | id :: rest => do
    let _ ← unsubscribe id
    unsubscribeAll rest

/-- Stops listening to the bus. -/
def stopListening : Task α Unit := do
  unsubscribeAll (← get).flows.listeners
  modifyFlows fun d => { d with listeners := [] }

/-- Starts listening to the bus. -/
def startListening : Task α Unit := do
  let types ← subscribe Topic.typeDiscovered (some .discoverType)
  let fields ← subscribe Topic.fieldsDiscovered (some .discoverFields)
  let events ← subscribe Topic.event (some .handleEvent)
  modifyFlows fun d => { d with listeners := [types, fields, events] }

/-- Registers flows in order. -/
def createFlows (host : Host α) : List Value → Task α Unit
  | [] => return ()
  | v :: rest => do
    let _ ← createFlow host (.ofFlowValue v)
    createFlows host rest

/-- Listens, shares the actions, and loads the configured rules and flows. -/
def wire (host : Host α) : Task α Unit := do
  let settings := (← get).settings
  startListening
  syncActions
  let rules ← Task.ofExcept settings.rules.toList
  let _ ← loadRules host (rules.map .ofRuleValue)
  createFlows host (← Task.ofExcept settings.flows.toList)

/-- Starts the hub, unless it has been started. -/
def start (host : Host α) : Task α Unit := do
  if (← get).flows.initialized then return ()
  match ← Task.attempt (wire host) with
  | .error fault =>
    stopListening
    Task.logFault flowPart "Flow orchestrator initialization failed" [] fault
    throw (.startup fault)
  | .ok _ =>
    modifyFlows fun d => { d with initialized := true }
    let rules ← getRules
    let h ← get
    Task.log .info flowPart
      (s!"Flow orchestrator initialized rules={rules.length} flows={h.flows.book.length} " ++
        s!"actions={h.desk.actions.length}")

/-- Stops the hub. -/
def shutdown : Task α Unit := do
  stopListening
  stopBus
  modifyFlows fun d => { d with initialized := false }
  Task.log .info flowPart "Flow orchestrator stopped"

/-! ## Views -/

/-- The rules that were synthesized. -/
def autoGeneratedRules : Task α (List Rule) := do
  return (← getRules).filter fun r => r.metadata.autoGenerated

/-- A flow that ended, as a value. -/
def FlowRun.toValue (r : FlowRun) : Value :=
  .map [("flow_id", .ofText? r.flowId), ("started_at", .text r.started),
    ("failed_steps", .int r.failures)]

/-- The counters of the hub and its parts. -/
def hubStats : Task α Value := do
  let h ← get
  let d := h.flows
  let engine ← engineStats
  return .map [("total_flows", .int d.total), ("active_flows", .int d.active),
    ("completed_flows", .int d.completed), ("failed_flows", .int d.failed),
    ("last_flow", .ofOption (d.last.map FlowRun.toValue)), ("flows", .int d.book.length),
    ("event_bus", h.bus.stats), ("rule_engine", engine), ("action_framework", h.desk.stats)]

/-- A rule's document under its id. -/
def exportEntry (document : Value) : String × Value :=
  match document with
  | .map fields => ((Value.get fields "id").plain, document)
  | v => (v.plain, document)

/-- The rules, the flows and the discovered schema. -/
def exportState : Task α Value := do
  let rules ← exportRules
  let h ← get
  let flows := h.flows.book.map fun (id, f) => (id, f.toValue.document)
  return .map [("rules", .map (Assoc.ofList (rules.map exportEntry))), ("flows", .map flows),
    ("discovered_schema", h.bus.schema.toValue), ("exported_at", .text (← Task.now))]

theorem outcome_unsubscribeAll_nil (h : Hub α) :
    Task.outcome (unsubscribeAll []) h = (.ok (), h) := rfl

end EventHub
