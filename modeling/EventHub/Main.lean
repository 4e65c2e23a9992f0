import EventHub.Hub.Assembly
import EventHub.Startup.Program
import Std.Time.DateTime.Timestamp

/-!
# The command line

The program without a network. The configuration document is a file of JSON, the log goes to the
standard error, and the program ends as soon as the events of the replayed file are dispatched.

* `main`: the program of the arguments, with its exit status.
* `shutGateway`, `loneApplication`: a broker that cannot be reached, and no functions.
-/

namespace EventHub

/-- The variables of the environment that settings are taken from. -/
def settingVariables : List String :=
  ["MQTT_ENABLED", "MQTT_BROKER_HOST", "MQTT_BROKER_PORT", "MQTT_USERNAME", "MQTT_PASSWORD",
   "MQTT_PUBLISH_TIMEOUT_SEC", "LG_LOG_LEVEL", "LG_LOG_FILE", "LG_HTTP_TIMEOUT_SEC",
   "NOTIFY_WEBHOOK_URLS", "SMTP_HOST", "SMTP_PORT", "SMTP_USER", "SMTP_PASSWORD", "SMTP_FROM",
   "SMTP_TO", "SMTP_STARTTLS", "TELEGRAM_BOT_TOKEN", "TELEGRAM_CHAT_ID", "SMS_WEBHOOK_URL",
   "SMS_TO", "SLACK_WEBHOOK_URL", "SLACK_CHANNEL"]

/-- The answer of a network that is not there. -/
def unreachable {β : Type} : Contact β := .silent (.error (.raised .refused "no network"))

/-- A gateway that lets nothing through. -/
def shutGateway : Gateway :=
  { make := fun _ => .silent (.ok ())
    connect := unreachable
    stop := .silent (.ok ())
    broker := { publish := fun _ _ _ _ => unreachable, subscribe := none } }

/-- An application that adds nothing to the hub. -/
def loneApplication : Application Unit :=
  { ask := fun name _ => .error (.key (.text name))
    act := fun _ name _ _ => Task.fail (.key (.text name))
    serve := fun _ _ _ => return () }

/-- The instant from which clocks count. -/
def clockStart : Nat := Time.dayNumber 1970 1 1 * Time.dayMicros

/-- The moment so many nanoseconds after the start of clocks. -/
def momentOfClock (nanoseconds : Int) : Time.Moment :=
  .ofInstant (clockStart + nanoseconds.toNat / 1000)

/-- The exit status of an outcome: a fault that ends the program tells its own. -/
def exitStatus : Except Fault ProgramEnd → Nat
  | .ok ending => ending.status
  | .error (.raised .exit status) => status.toNat?.getD 1
  | .error _ => 1

/-- The text of a file, if it can be read. -/
def textOfFile? (path : Value) : IO (Option String) := do
  match path with
  | .text path => try return some (← IO.FS.readFile path) catch _ => return none
  | _ => return none

/-- The variables of the environment that are set. -/
def readEnvironment : List String → IO Environment
  | [] => return []
  | name :: rest => do
    let others ← readEnvironment rest
    match ← IO.getEnv name with
    | some s => return (name, s) :: others
    | none => return others

/-- What the program finds on this machine. A file that holds no document counts as missing. -/
def readSurroundings (arguments : List String) : IO Surroundings := do
  let (config, replay) := match Arguments.parse arguments with
    | .ok a => (a.config, a.replay)
    | .error _ => (.null, .null)
  let document := (← textOfFile? config).bind fun text => (Json.read text).toOption
  let events ← textOfFile? replay
  return { arguments, environment := ← readEnvironment settingVariables
           document? := fun _ => document, text? := fun _ => events
           gateway := shutGateway, arrival := none }

/-- Runs the program and writes its log. -/
def runMain (arguments : List String) : IO UInt32 := do
  let surroundings ← readSurroundings arguments
  let clock ← Std.Time.Timestamp.now
  let hub : Hub Unit :=
    .blank (momentOfClock clock.toNanosecondsSinceUnixEpoch.toInt) 0 .closed ()
  let (outcome, hub) := Task.outcome (runProgram loneApplication.host surroundings) hub
  for line in hub.log.reverse do
    IO.eprintln (line.level.name ++ " " ++ line.part ++ ": " ++ line.text)
  if let .error fault := outcome then
    if !fault.isA .exit then IO.eprintln (fault.kind.name ++ ": " ++ fault.message)
  return (exitStatus outcome).toUInt32

end EventHub

/-- Runs the hub with the options of the command line. -/
def main (arguments : List String) : IO UInt32 := EventHub.runMain arguments
