import EventHub.Arguments
import EventHub.Hub.Assembly
import EventHub.Hub.Guard
import EventHub.Settings.Load
import EventHub.Text.Lines

/-!
# The program

The program loads its settings, opens the way to the broker, starts a hub, replays the events of a
file if it is asked to, and then waits until it is interrupted.

* `runProgram`: the program from start to end, with its exit status.
* `connectBroker`: a broker that cannot be reached is done without.
* `replay`: publishes the events of a text, one of them a line in JSON. Lines of blanks are passed over, and
  lines that hold no event are skipped with a warning.
-/

namespace EventHub

variable {α : Type}

/-! ## Replaying events -/

/-- The value of a line. -/
def readLine (s : String) : Except Fault Value :=
  match Json.read s with
  | .ok v => .ok v
  | .error stop => .error (.json stop s)

/-- Publishes the event of a line and has it dispatched. -/
def replayLine (host : Host α) (line : String) : Task α Unit := do
  let v ← Task.ofExcept (readLine line)
  let _ ← publishEvent host (.document v)
  drain host drainLimit

/-- Is the fault one for which a line is skipped? -/
def Fault.skipsLine (fault : Fault) : Bool := fault.isA .value || fault.isA .automation

/-- Publishes the events of lines that are numbered from `number` on, and counts them. -/
def replayLines (host : Host α) (part : String) : Nat → List String → Task α Nat
  | _, [] => return 0
  | number, line :: rest => do
    let line := Text.strip line
    if line.isEmpty then replayLines host part (number + 1) rest
    else
      match ← Task.attempt (replayLine host line) with
      | .ok _ => return (← replayLines host part (number + 1) rest) + 1
      | .error fault =>
        if !fault.skipsLine then throw fault
        Task.log .warning part (s!"Skipping replay line {number}: " ++ fault.message)
        replayLines host part (number + 1) rest

/-- Publishes the events of a text and counts them. -/
def replay (host : Host α) (part path text : String) : Task α Nat := do
  let n ← replayLines host part 1 (Text.fileLines text)
  Task.log .info part s!"Replayed {n} events from {path}"
  return n

/-! ## The program -/

/-- The part of the hub that these lines of the log are from. -/
def programPart : String := "main"

/-- What the program finds around it. `arrival` is the message that arrives before the program is
interrupted. -/
structure Surroundings where
  arguments : List String
  environment : Environment
  document? : String → Option Value
  text? : String → Option String
  gateway : Gateway
  arrival : Option (String × Value)

/-- How the program ended: its exit status, and whether it had assembled a hub. -/
structure ProgramEnd where
  status : Nat
  assembled : Bool
deriving DecidableEq, Repr

/-- Opens the way to the broker. -/
def connectBroker (settings : BrokerSettings) (gateway : Gateway) : Task α (Option Broker) := do
  if !settings.enabled then
    Task.log .info programPart
      "MQTT disabled; mqtt_publish actions will fail until a broker is configured"
    return none
  Task.contact (gateway.make settings)
  match ← Task.attempt (Task.contact gateway.connect) with
  | .ok _ => return some gateway.broker
  | .error fault =>
    if !fault.isA .system then throw fault
    Task.log .error programPart ("Could not reach MQTT broker " ++ settings.host.plain ++ ":" ++
      settings.port.plain ++ ": " ++ fault.message)
    return none

/-- Closes the way to the broker, if it is open. -/
def disconnectBroker (gateway : Gateway) (broker : Option Broker) : Task α Unit := do
  if broker.isSome then
    Task.guarded (some programPart) "MQTT stop" [] () (Task.contact gateway.stop)

/-- Replays the events of a file. -/
def replayFile (host : Host α) (text? : String → Option String) (path : String) :
    Task α Unit := do
  match text? path with
  | some text => discard (replay host programPart path text)
  | none =>
    let path := normalPath path
    throw ((flawOf path).fault path)

/-- A message of the broker arrives. -/
def takeArrival (host : Host α) (broker : Option Broker) (arrival : Option (String × Value)) :
    Task α Unit := do
  match broker, arrival with
  | some _, some (topic, payload) =>
    takeMessage host (.message topic payload)
    drain host drainLimit
  | _, _ => return ()

/-- Waits until the program is interrupted, then ends everything in order. -/
def runUntilInterrupted (host : Host α) (s : Surroundings) (broker : Option Broker) :
    Task α Unit := do
  let outcome ← Task.attempt (takeArrival host broker s.arrival)
  if let .ok _ := outcome then
    Task.log .info programPart "Shutting down automation core…"
  Task.guarded (some programPart) "Orchestrator shutdown" [] () shutdown
  disconnectBroker s.gateway broker
  Task.ofExcept outcome

/-- Runs the assembled hub and gives the exit status. -/
def runAssembled (host : Host α) (s : Surroundings) (broker : Option Broker)
    (replayPath : Value) : Task α Nat := do
  match ← Task.attempt (start host) with
  | .error fault =>
    if !fault.isA .automation then throw fault
    Task.log .error programPart ("Startup failed: " ++ fault.message)
    disconnectBroker s.gateway broker
    return 1
  | .ok _ =>
    startBus
    if let .text path := replayPath then
      if !path.isEmpty then replayFile host s.text? path
    Task.log .info programPart "Automation core started; press Ctrl+C to stop"
    runUntilInterrupted host s broker
    return 0

/-- The level of the log: the one of the arguments, or the one of the settings. -/
def logLevelOf (a : Arguments) (settings : Settings) : Value :=
  a.logLevel.orElse settings.logLevel

/-- Runs the program. -/
def runProgram (host : Host α) (s : Surroundings) : Task α ProgramEnd := do
  let a ← Task.ofExcept (Arguments.parse s.arguments)
  match Settings.load s.environment s.document? a.config with
  | .error fault =>
    Task.record (.loggingSet [])
    Task.log .error programPart ("Failed to load configuration: " ++ fault.message)
    return ⟨1, false⟩
  | .ok settings =>
    Task.record (.loggingSet [("level", logLevelOf a settings), ("log_file", settings.logFile)])
    Task.log .info programPart
      s!"Loaded settings: {settings.rules.count} rules, {settings.flows.count} flows"
    let broker ← connectBroker settings.broker s.gateway
    assemble settings broker
    return ⟨← runAssembled host s broker a.replay, true⟩

end EventHub
