import EventHub.Discovery.Synthesis
import EventHub.Flows.Desk

/-!
# What the hub listens to

Every event runs the rules that it matches, or is logged by a flow of its own. A newly seen event
type gets a rule, and fields that are seen later are added to it.

* `handleEvent`, `discoverType`, `discoverFields`: the three listeners.
* `processGeneric`: the flow of an event that no rule handles.
* `faultOfMissing`: what a listener does with a notice that lacks what it asks for.
-/

namespace EventHub

variable {α : Type}

/-! ## Events -/

/-- What came of the flow of an event that no rule handles. -/
structure GenericRun where
  flowId : Option String
  results : List Value
  failures : Nat

/-- The flow of an event that no rule handles. -/
def makeGenericFlow (e : Event) : Task α Flow := do
  let id ← Task.freshId s!"generic-{e.type}"
  match Flow.check (← Task.now) (genericFlow id e) with
  | .ok f => return f
  | .error issues => throw (.validation "Flow" issues)

/-- Logs an event that no rule handles, through a flow that is run once and not registered. -/
def processGeneric (host : Host α) (e : Event) : Task α GenericRun := do
  let f ← makeGenericFlow e
  Task.log .info flowPart s!"Processing generic event {e.type} from {e.source}"
  let (results, failures) ← executeSteps host f
    (.map [("event", e.toValue.document), ("data", .map e.data)])
  announce host Topic.genericProcessed
    (.value (.map [("event_type", .text e.type), ("source", .text e.source),
      ("timestamp", .text e.timestamp), ("flow_id", .ofText? f.id)]))
  return ⟨f.id, results, failures⟩

/-- The event of a notice. -/
def Notice.toDefinition : Notice → Definition Event
  | .event e => .checked e
  | n => .document n.toValue

/-- The fault of asking a notice for members, if it lacks one. -/
def faultOfMissing (v : Value) (names : List String) : Except Fault (List Value) :=
  names.mapM (memberOf v)

/-- Runs the rules of an event, or its generic flow when there are none. -/
def handleNotice (host : Host α) (n : Notice) : Task α (Option String × Nat) := do
  let h ← get
  let ctx := (Context.bare h.now.text).withServices h
  let runs ← processEvent host n.toDefinition (some ctx)
  if RuleRuns.processed runs then return (none, 0)
  match n with
  | .event e =>
    let run ← processGeneric host e
    return (run.flowId, run.failures)
  | n =>
    let _ ← Task.ofExcept (memberOf n.toValue "type")
    return (none, 0)

/-- Handles an event, which counts as one flow. A fault is logged with the id and the type of the
event. -/
def handleEvent (host : Host α) (n : Notice) : Task α Unit :=
  tallied none do
    match ← Task.attempt (handleNotice host n) with
    | .ok (id, failures) => return ((), id, failures)
    | .error fault =>
      let named ← Task.ofExcept (faultOfMissing n.toValue ["id", "type"])
      Task.logFault flowPart "Rule processing failed"
        (["event_id", "type"].zip named) fault
      return ((), none, 1)

/-! ## Discoveries -/

/-- Logs that a synthesis failed. -/
def synthesisFailed (title : String) (eventType : Value) (fault : Fault) : Task α Unit :=
  Task.logFault flowPart title [("event_type", eventType)] (.synthesis title fault)

/-- Registers the rule of a newly seen event type. -/
def synthesizeRule (host : Host α) (eventType : Value) (sample : Except Fault Value) :
    Task α Unit := do
  let sample ← Task.ofExcept sample
  let _ ← registerRule host (.document (autoRule eventType sample))

/-- Makes a rule for an event type, unless it has one. -/
def discoverEventType (host : Host α) (eventType : Value) (sample : Except Fault Value) :
    Task α Unit := do
  let id := autoRuleId eventType
  if (← getRule (.text id)).isSome then return ()
  match ← Task.attempt (synthesizeRule host eventType sample) with
  | .error fault => synthesisFailed "Rule synthesis failed" eventType fault
  | .ok _ =>
    let r ← getRule (.text id)
    Task.log .info flowPart ("Auto-generated rule for event type: " ++ eventType.plain)
    announce host Topic.ruleAutoGenerated
      (.value (.map [("rule_id", .text id), ("event_type", eventType),
        ("rule", .ofOption (r.map fun r => r.toValue.document))]))

/-- Listens to discoveries of event types. -/
def discoverType (host : Host α) (n : Notice) : Task α Unit := do
  match n with
  | .typeDiscovery d => discoverEventType host (.text d.eventType) (.ok (Value.map d.sampleData))
  | n =>
    let eventType ← Task.ofExcept (memberOf n.toValue "event_type")
    discoverEventType host eventType
      (do (← memberOf n.toValue "sample_data").toMap)

/-- Adds new fields to a rule and tells whether there was anything to add. -/
def extendRule (host : Host α) (r : Rule) (names : List String) : Task α Bool := do
  match ← Task.ofExcept (mergeNewFields r names) with
  | none => return false
  | some updates =>
    let _ ← updateRule host (r.id.getD "") updates
    return true

/-- Adds new fields to a rule and logs what came of it. -/
def extendLogged (host : Host α) (eventType : String) (names : List String) (r : Rule) :
    Task α Unit := do
  match ← Task.attempt (extendRule host r names) with
  | .error fault => synthesisFailed "Rule field update failed" (.text eventType) fault
  | .ok false => return ()
  | .ok true =>
    Task.log .info flowPart
      ("Updated auto-generated rule " ++ (Value.ofText? r.id).plain ++ " with new fields: " ++
        commaList names)

/-- Adds new fields to each of the rules. -/
def extendAll (host : Host α) (eventType : String) (names : List String) :
    List Rule → Task α Unit
  | [] => return ()
  | r :: rest => do
    if r.metadata.autoGenerated then extendLogged host eventType names r
    extendAll host eventType names rest

/-- Listens to discoveries of fields. -/
def discoverFields (host : Host α) (n : Notice) : Task α Unit := do
  match n with
  | .fieldsDiscovery d =>
    extendAll host d.eventType d.fieldNames (← getRulesByEventType d.eventType)
  | n =>
    let v := n.toValue
    throw (.noMember v.typeName "field_names")

end EventHub
