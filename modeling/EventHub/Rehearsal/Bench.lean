import EventHub.Hub.Receive
import EventHub.Pattern.Reader
import EventHub.Rehearsal.Functions
import EventHub.Rehearsal.Tagged

/-!
# The bench

A hub is rehearsed on a bench. The bench keeps the scripts of subscribers, the names of their
subscriptions, and what a drill has shown. What a step of a script does is a parameter. Rehearsals are
runs on examples: what is proved of the hub is proved for every application, this one included.

* `Bench.application`: the sample functions together with scripted subscribers.
* `overflowDrill`: the queue is filled while a subscriber holds the dispatcher.
-/

namespace EventHub.Rehearsal

/-- What a subscriber does with what it receives: it notes it, performs steps, and fails with a
text if there is one; or it holds the dispatcher while events are published. -/
inductive Script
  | steps (name : Value) (steps : List Value) (failure : Option String)
  | hold (events : List Value) (stopEarly : Bool)

/-- What a drill has shown so far. -/
structure DrillReport where
  published : List Value
  queued : Nat
  idle : Bool
  held : Bool

/-- A drill before anything was published. -/
def DrillReport.blank : DrillReport := ⟨[], 0, true, false⟩

/-- What is kept beside the hub. -/
structure Bench where
  scripts : List Script
  handles : List (String × Nat)
  outlet : Option Outlet
  drill : DrillReport

/-- An empty bench. -/
def Bench.empty : Bench := { scripts := [], handles := [], outlet := none, drill := .blank }

/-- A task on a hub with a bench. -/
abbrev BenchTask := Task Bench

/-- Changes the bench. -/
def modifyBench (f : Bench → Bench) : BenchTask Unit := modify fun h => { h with host := f h.host }

/-- Adds a script and gives the number of its subscriber. -/
def addScript (s : Script) : BenchTask Nat := do
  let k := (← get).host.scripts.length
  modifyBench fun b => { b with scripts := b.scripts ++ [s] }
  return k

/-! ## What steps name -/

/-- The function that a tagged value names. -/
def functionName? (v : Value) : Option String :=
  match v with
  | .map [("$fn", .text name)] => some name
  | _ => none

/-- The items of a list. -/
def listItems (v : Value) : List Value :=
  match v with
  | .list items | .tuple items => items
  | _ => []

/-- The entries of a map. -/
def entriesOf (v : Value) : Fields := v.fields?.getD []

/-- The subscriber that a tagged value describes: a function, or a script. -/
def subscriberOf (v : Value) : BenchTask (Option Subscriber) := do
  match functionName? v, v with
  | some name, _ => return some (.function name)
  | none, .map fields =>
    let failure := match Value.get fields "raise" with
      | .null => none
      | v => some v.plain
    let k ← addScript (.steps (Value.get fields "name") (listItems (Value.get fields "do")) failure)
    return some (.client k)
  | none, _ => return none

/-- The kind of fault that a kind of flaw is. -/
def flawFaultKind : Pattern.FlawKind → FaultKind
  | .form => .pattern
  | .count => .overflow
  | .options => .value

/-- The pattern that a tagged value writes as text. -/
def searchOf (v : Value) : Except Fault EventPattern :=
  match v with
  | .text source =>
    match Pattern.read source with
    | .ok pattern => .ok (.search pattern)
    | .error flaw => .error (.raised (flawFaultKind flaw.kind) (flaw.message source))
  | .list _ | .map _ => .error (.type (.unhashable v.typeName))
  | _ => .error (.raised .type "first argument must be string or compiled pattern")

/-- The pattern that a tagged value describes. -/
def patternOf (v : Value) : Except Fault (Option EventPattern) :=
  match v with
  | .text name => .ok (some (.name name))
  | .map [("$regex", source)] => (searchOf source).map some
  | v => .ok ((functionName? v).map .function)

/-- What a tagged value makes, if it is not null. -/
def ofPresent {β : Type} (v : Value) (f : Value → BenchTask β) : BenchTask (Option β) := do
  let v ← untagged v
  if v.isNull then return none else return some (← f v)

/-- The value of a tagged field, or a default. -/
def untaggedOr (fields : Fields) (key : String) (default : Value) : BenchTask Value :=
  match Assoc.get? fields key with
  | some v => untagged v
  | none => return default

/-- The context that a tagged value describes. -/
def contextOf (v : Value) : BenchTask Context := do
  let s := entriesOf v
  let ctx := Context.bare (← Task.now)
  let event ← ofPresent (Value.get s "event") validEvent
  let rule ← ofPresent (Value.get s "rule") validRule
  let flow ← ofPresent (Value.get s "flow") validFlow
  let input ← untaggedOr s "input" (.map [])
  let steps ← untaggedOr s "steps" (.list [])
  let timestamp ← untaggedOr s "timestamp" ctx.timestamp
  return { ctx with event, rule, flow, input, steps := listItems steps, timestamp }

/-- The context that a tagged value describes, with the collaborators of the bench. -/
def servicedContextOf (v : Value) : BenchTask Context := do
  let ctx ← contextOf v
  let h ← get
  return { ctx with connectors := h.connectors, cached := h.cached, broker := h.broker,
                    outlet := h.host.outlet }

/-! ## The drill -/

/-- Publishes an event and notes its id or its fault; `note` tells how a fault is noted. -/
def publishNoted (note : Fault → Value) (host : Host Bench) (v : Value) : BenchTask Value := do
  match ← Task.attempt (do publishEvent host (.ofEventValue (← untagged v))) with
  | .ok e => return .text e.id
  | .error fault => return note fault

/-- Publishes every event. -/
def publishAll (note : Fault → Value) (host : Host Bench) : List Value → BenchTask (List Value)
  | [] => return []
  | v :: rest => do
    let noted ← publishNoted note host v
    return noted :: (← publishAll note host rest)

/-- Holds the dispatcher, once, while the events are published. -/
def hold (note : Fault → Value) (host : Host Bench) (events : List Value) (stopEarly : Bool) :
    BenchTask Unit := do
  if (← get).host.drill.held then return ()
  modifyBench fun b => { b with drill := { b.drill with held := true } }
  let published ← publishAll note host events
  let bus := (← get).bus
  modifyBench fun b => { b with drill :=
    { b.drill with published, queued := bus.pending.length, idle := bus.idle } }
  if stopEarly then stopBus

/-- Publishes events until the dispatcher takes one, and is held by subscriber `k` while the rest
is published. -/
def publishUntilHeld (note : Fault → Value) (host : Host Bench) (k : Nat) (stopEarly : Bool) :
    List Value → BenchTask (List Value)
  | [] => return []
  | v :: rest => do
    modifyBench fun b => { b with scripts := b.scripts.set k (.hold rest stopEarly) }
    let noted ← publishNoted note host v
    drain host drainLimit
    let drill := (← get).host.drill
    if drill.held then return noted :: drill.published
    else return noted :: (← publishUntilHeld note host k stopEarly rest)

/-- Fills the queue while a subscriber holds the dispatcher, and reports what was published, how
many events waited, and whether the bus was idle. -/
def overflowDrill (note : Fault → Value) (host : Host Bench) (events : List Value)
    (stopEarly : Bool) : BenchTask Value := do
  let k ← addScript (.hold [] stopEarly)
  modifyBench fun b => { b with drill := .blank }
  let id ← subscribe Topic.event (some (.client k))
  startBus
  let published ← publishUntilHeld note host k stopEarly events
  if (← get).bus.running then stopBus
  let _ ← unsubscribe id
  let drill := (← get).host.drill
  return .map [("published", .list published), ("queued", .int drill.queued),
    ("idle", .bool drill.idle)]

/-! ## The application -/

/-- The sample functions, without subscribers. -/
def functionsOnly : Application Bench :=
  { ask := askSample
    act := fun receive name v ctx =>
      let silent : Application Bench :=
        { ask := askSample, act := fun _ _ v _ => return .ofAnswer .null v
          serve := fun _ _ _ => return () }
      actSample ⟨silent, receive⟩ name v ctx
    serve := fun _ _ _ => return () }

/-- Performs steps in order; the first fault ends them. -/
def performAll (perform : Host Bench → Value → BenchTask Value) (host : Host Bench) :
    List Value → BenchTask Unit
  | [] => return ()
  | step :: rest => do
    let _ ← perform host step
    performAll perform host rest

/-- Runs the script of a subscriber. -/
def serve (note : Fault → Value) (perform : Host Bench → Value → BenchTask Value)
    (receive : Receive Bench) (k : Nat) (n : Notice) : BenchTask Unit := do
  let host : Host Bench := ⟨functionsOnly, receive⟩
  match (← get).host.scripts[k]? with
  | some (.steps name steps failure) =>
    Task.record (.received name n)
    performAll perform host steps
    if let some text := failure then throw (.raised .runtime text)
  | some (.hold events stopEarly) => hold note host events stopEarly
  | none => return ()

/-- The sample functions together with scripted subscribers. -/
def Bench.application (note : Fault → Value) (perform : Host Bench → Value → BenchTask Value) :
    Application Bench :=
  { functionsOnly with serve := serve note perform }

end EventHub.Rehearsal
