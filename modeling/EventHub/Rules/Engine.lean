import EventHub.Actions.Desk
import EventHub.Rules.Match
import EventHub.Rules.Outcome

/-!
# The rule engine

Every event runs the enabled rules whose conditions it matches, in the order in which they were
registered, and each of them runs its actions in order. A condition that fails takes only its
rule out; an action that fails keeps nothing from the next.

* `registerRule`, `updateRule`, `deleteRule`, `setRuleEnabled`, `loadRules`: the registry.
* `matchingRules`: the rules that an event runs.
* `runActions`, `executeRule`: a rule at work.
* `processEvent`: the entry of events.
* `length_runActions`: a rule has one outcome for each of its actions.
-/

namespace EventHub

variable {α : Type}

/-- The part of the hub that these lines of the log are from. -/
def enginePart : String := "RuleEngine"

/-- Changes the rule engine. -/
def modifyEngine (f : Engine → Engine) : Task α Unit :=
  modify fun h => { h with engine := f h.engine }

/-- Fails when the operation of the engine is out of order. -/
def engineOperation (name : String) : Task α Unit := Task.inService (.engine name)

/-- Sends a notice of the engine. -/
def engineNotice (host : Host α) (topic : String) (n : Notice) : Task α Unit := do
  emit host (← get).engine.outlet topic n

/-- An engine without rules. -/
def Engine.empty (outlet : Option Outlet) : Engine :=
  { book := .empty, actions := [], rulesRun := 0, actionsRun := 0, errors := 0, lastRun := none,
    outlet }

/-! ## The action table -/

/-- Sets the handler of an action. Only what can be called can be one. -/
def setEngineAction (actionType : String) (handler : Option EngineHandler) : Task α Unit := do
  engineOperation "register_action"
  match handler with
  | none => throw (.definition (.uncallableAction actionType))
  | some handler =>
    modifyEngine fun e => { e with actions := Assoc.put e.actions actionType handler }

/-- Takes an action out of the table and tells whether it was there. -/
def dropEngineAction (actionType : String) : Task α Bool := do
  engineOperation "unregister_action"
  let found := Assoc.has (← get).engine.actions actionType
  modifyEngine fun e => { e with actions := Assoc.erase e.actions actionType }
  return found

/-- The names of the actions, in the order in which they were set. -/
def engineActions : Task α (List String) := do
  engineOperation "get_actions"
  return Assoc.keys (← get).engine.actions

/-! ## The registry -/

/-- The name and id of a rule, as they are logged. -/
def Rule.title (r : Rule) : String := s!"{r.name} (" ++ (Value.ofText? r.id).plain ++ ")"

/-- Registers a rule and gives its id. -/
def registerRule (host : Host α) (d : Definition Rule) : Task α String := do
  engineOperation "register_rule"
  let now ← Task.now
  let r ← Task.ofExcept (d.toRule now)
  let fresh ← if RuleBook.needsId r then Task.freshId "rule" else pure ""
  let (id, r, book) ← Task.ofExcept ((← get).engine.book.register now fresh r)
  modifyEngine fun e => { e with book }
  Task.log .info enginePart ("Rule registered: " ++ r.title)
  engineNotice host Topic.ruleRegistered (.rule r)
  return id

/-- Merges updates into a rule. -/
def updateRule (host : Host α) (id : String) (updates : Value) : Task α Rule := do
  engineOperation "update_rule"
  let now ← Task.now
  let (r, book) ← Task.ofExcept ((← get).engine.book.update now id updates)
  modifyEngine fun e => { e with book }
  Task.log .info enginePart ("Rule updated: " ++ r.title)
  engineNotice host Topic.ruleUpdated (.rule r)
  return r

/-- Removes a rule. -/
def deleteRule (host : Host α) (id : String) : Task α Unit := do
  engineOperation "delete_rule"
  let (r, book) ← Task.ofExcept ((← get).engine.book.remove id)
  modifyEngine fun e => { e with book }
  Task.log .info enginePart ("Rule removed: " ++ r.title)
  engineNotice host Topic.ruleRemoved
    (.value (.map [("rule_id", .text id), ("name", .text r.name)]))

/-- Enables or disables a rule. -/
def setRuleEnabled (host : Host α) (id : String) (enabled : Value) : Task α Rule := do
  engineOperation "set_rule_enabled"
  updateRule host id (.map [("metadata", .map [("enabled", enabled)])])

/-- The rule of an id. -/
def getRule (id : Value) : Task α (Option Rule) := do
  engineOperation "get_rule"
  let key ← Task.ofExcept id.textKey?
  let book := (← get).engine.book
  return key.bind book.get?

/-- All rules, in the order of registration. -/
def getRules : Task α (List Rule) := do
  engineOperation "get_rules"
  return Assoc.values (← get).engine.book.rules

/-- The rules that name an event type, in the order of registration. -/
def getRulesByEventType (eventType : String) : Task α (List Rule) := do
  engineOperation "get_rules_by_event_type"
  return (← get).engine.book.ofEventType eventType

/-- Registers the definitions in order; the first that is refused ends the loading. -/
def registerAll (host : Host α) : List (Definition Rule) → Task α (List String)
  | [] => return []
  | d :: rest => do
    let id ← registerRule host d
    return id :: (← registerAll host rest)

/-- Registers the definitions in order and gives their ids. -/
def loadRules (host : Host α) (definitions : List (Definition Rule)) : Task α (List String) := do
  engineOperation "load_rules"
  let ids ← registerAll host definitions
  Task.log .info enginePart s!"Loaded {ids.length} rules"
  return ids

/-- The documents of all rules. -/
def exportRules : Task α (List Value) := do
  engineOperation "export_rules"
  return (Assoc.values (← get).engine.book.rules).map fun r => r.toValue.document

/-! ## Matching -/

/-- Keeps the rules that the event matches. A condition that fails is counted and logged, and its
rule is left out. -/
def matchingAmong (host : Host α) (e : Event) : List Rule → Task α (List Rule)
  | [] => return []
  | r :: rest => do
    match matchesEvent host.app.ask r.conditions e with
    | .ok true => return r :: (← matchingAmong host e rest)
    | .ok false => matchingAmong host e rest
    | .error fault =>
      modifyEngine fun s => { s with errors := s.errors + 1 }
      Task.logFault enginePart "Rule condition failed"
        [("rule_id", .ofText? r.id), ("event_id", .text e.id)] fault
      matchingAmong host e rest

/-- The enabled rules that the event matches, in the order of registration. -/
def matchingRules (host : Host α) (e : Event) : Task α (List Rule) := do
  matchingAmong host e ((← get).engine.book.candidates e.type)

/-! ## Running -/

/-- The context with the collaborators of the hub; a context keeps an outlet that it has. -/
def Context.withServices (ctx : Context) (h : Hub α) : Context :=
  { ctx with connectors := h.connectors, cached := h.cached, broker := h.broker,
             outlet := some (ctx.outlet.getD .bus) }

/-- Runs a handler of the engine: a function of the application, or an action of the desk, which
resolves the parameters. -/
def runEngineHandler (host : Host α) (handler : EngineHandler) (params : Fields)
    (ctx : Context) : Task α Value := do
  match handler with
  | .function name => return (← host.app.act host.receive name (.map params) ctx).answer
  | .shared actionType =>
    executeCall host ⟨actionType, params⟩ (ctx.withServices (← get)) true

/-- The fault of an action of a rule, and what is logged of it. -/
def actionFault (actionType : String) (fault : Fault) : Task α Fault := do
  if !fault.ofAction then
    Task.logFault enginePart "Rule action failed" [("action", .text actionType)] fault
  return nameFault actionType fault

/-- Runs one action of a rule. -/
def runAction (host : Host α) (call : ActionInvocation) (ctx : Context) :
    Task α ActionOutcome := do
  match Assoc.get? (← get).engine.actions call.type with
  | none =>
    let id : Value := .ofText? (ctx.rule.bind (·.id))
    Task.log .error enginePart
      ("Rule " ++ id.plain ++ s!" references unknown action {call.type}")
    return ⟨call.type, .error (.action call.type s!"Unknown action type: {call.type}" none)⟩
  | some handler =>
    match ← Task.attempt (runEngineHandler host handler call.parameters ctx) with
    | .ok v => return ⟨call.type, .ok v⟩
    | .error fault => return ⟨call.type, .error (← actionFault call.type fault)⟩

/-- Runs the actions of a rule in order, whatever comes of each. -/
def runActions (host : Host α) (ctx : Context) :
    List ActionInvocation → Task α (List ActionOutcome)
  | [] => return []
  | call :: rest => do
    let outcome ← runAction host call ctx
    return outcome :: (← runActions host ctx rest)

/-- Counts a rule that was run. -/
def Engine.count (s : Engine) (run : RuleRun) : Engine :=
  { s with
    rulesRun := s.rulesRun + 1
    actionsRun := s.actionsRun + run.outcomes.length
    errors := s.errors + run.failures.length
    lastRun := some run.timestamp }

/-- The context in which a rule runs its actions. -/
def ruleContext (ctx : Context) (r : Rule) (e : Event) (outlet : Option Outlet) : Context :=
  { ctx with event := some e, rule := some r, outlet := ctx.outlet.or outlet }

/-- Runs a rule for an event. Without a context the rule has one of its own. -/
def executeRule (host : Host α) (r : Rule) (e : Event) (ctx : Option Context) :
    Task α RuleRun := do
  engineOperation "execute_rule"
  let now ← Task.now
  let ctx := ruleContext (ctx.getD (.bare now)) r e (← get).engine.outlet
  let outcomes ← runActions host ctx r.actions
  let run : RuleRun := ⟨r.id.getD "", r.name, e.id, outcomes, now⟩
  modifyEngine (·.count run)
  Task.log .info enginePart
    s!"Rule executed: {r.name} event={e.id} actions={outcomes.length} failed={run.failures.length}"
  engineNotice host Topic.ruleExecuted (.value (ctx.settled run.toValue))
  return run

/-- Runs rules for an event in order. -/
def executeAll (host : Host α) (e : Event) (ctx : Option Context) : List Rule → Task α RuleRuns
  | [] => return []
  | r :: rest => do
    let run ← executeRule host r e ctx
    return run :: (← executeAll host e ctx rest)

/-- Runs every enabled rule that matches an event. -/
def processEvent (host : Host α) (raw : Definition Event) (ctx : Option Context) :
    Task α RuleRuns := do
  engineOperation "process_event"
  let e ← normalizeEvent raw
  executeAll host e ctx (← matchingRules host e)

/-- The counters of the engine. -/
def Engine.stats (s : Engine) : Value :=
  .map [("total_rules", .int s.book.rules.length), ("rules_executed", .int s.rulesRun),
    ("actions_executed", .int s.actionsRun), ("errors", .int s.errors),
    ("last_execution", .ofText? s.lastRun), ("actions", .int s.actions.length)]

/-- The counters of the engine. -/
def engineStats : Task α Value := do
  engineOperation "get_stats"
  return (← get).engine.stats

theorem length_runActions (host : Host α) (ctx : Context) (calls : List ActionInvocation)
    (h h' : Hub α) (outcomes : List ActionOutcome)
    (hr : Task.outcome (runActions host ctx calls) h = (.ok outcomes, h')) :
    outcomes.length = calls.length := by
  induction calls generalizing h h' outcomes with
  | nil =>
    simp only [runActions, Task.outcome] at hr
    cases hr
    rfl
  | cons call rest ih =>
    simp only [runActions, Task.outcome, ExceptT.run, StateT.run, bind, ExceptT.bind,
      ExceptT.mk, StateT.bind] at hr
    cases h1 : runAction host call ctx h with
    | mk r1 s1 =>
      rw [h1] at hr
      cases r1 with
      | error fault => cases hr
      | ok o =>
        simp only [ExceptT.bindCont, StateT.bind] at hr
        cases h2 : runActions host ctx rest s1 with
        | mk r2 s2 =>
          simp only [bind, h2] at hr
          cases r2 with
          | error fault => cases hr
          | ok os =>
            cases hr
            simp [ih s1 h' os (by simpa [Task.outcome, ExceptT.run, StateT.run] using h2)]

end EventHub
