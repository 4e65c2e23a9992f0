import EventHub.Actions.Stock
import EventHub.Bus.History
import EventHub.Bus.Subscription
import EventHub.Cache
import EventHub.Flows.Book
import EventHub.Hub.Context
import EventHub.Hub.Log
import EventHub.Schema
import EventHub.Settings.Basic
import EventHub.Value.Key

/-!
# The state of a hub

Everything that operations of the hub read and change, in one value, and the tasks that run on
it. A task that fails keeps what it changed before.

* `Task.attempt`: a task whose fault is a result.
* `Task.freshId`: numbers are drawn one after the other, whatever they are drawn for.
-/

namespace EventHub

/-- The bus: who receives, what was published, and what waits. -/
structure Bus where
  subscriptions : Subscriptions
  history : History
  schema : Schema
  pending : List Event
  busy : Bool
  capacity : Int
  patience : Float
  running : Bool

/-- How the rule engine runs an action: through the action desk, or as a function of the
application. -/
inductive EngineHandler
  | shared (actionType : String)
  | function (name : String)
deriving DecidableEq, Repr

/-- The rule engine: its rules, its action table and its counters. -/
structure Engine where
  book : RuleBook
  actions : List (String × EngineHandler)
  rulesRun : Nat
  actionsRun : Nat
  errors : Nat
  lastRun : Option String
  outlet : Option Outlet

/-- How the action desk runs an action. -/
inductive ActionHandler
  | stock (action : StockAction)
  | function (name : String)
deriving DecidableEq, Repr

/-- The latest run of an action. -/
structure ActionRun where
  actionType : String
  success : Bool
  started : String
  error : String

/-- Where notifications go out. The addresses of web hooks and the numbers for short messages are
those of the settings; a number that is empty is none. -/
structure NotificationService where
  settings : NotificationSettings
  webhookUrls : List Value
  smsTo : List Value
  smsTo_truthy : ∀ number ∈ smsTo, number.truthy = true
  httpTimeout : Value
  smtpTimeout : Value
  logOnly : Bool

/-- The action desk: its actions, what they need, and its counters. -/
structure ActionDesk where
  settings : ActionSettings
  service : NotificationService
  actions : List (String × ActionHandler)
  total : Nat
  succeeded : Nat
  failed : Nat
  last : Option ActionRun

/-- The latest flow that ended. -/
structure FlowRun where
  flowId : Option String
  started : String
  failures : Nat

/-- The flow desk: the registered flows, its subscriptions to the bus, and its counters. -/
structure FlowDesk where
  book : FlowBook
  listeners : List Nat
  initialized : Bool
  total : Int
  active : Int
  completed : Int
  failed : Int
  last : Option FlowRun

/-- How the network behind a broker link behaves. -/
structure Network where
  refuses : Bool
  acknowledges : Bool
  disconnectFails : Bool
  returnCode : Int
  reconnectFailures : Nat

/-- A link to a message broker. -/
structure Link where
  settings : BrokerSettings
  timeout : Value
  subscriptions : List (String × Int)
  connected : Bool
  stopped : Bool
  messages : Nat
  listener : Option Subscriber
  network : Network

/-- An operation that can be taken out of service. -/
inductive Service
  | observe
  | engine (operation : String)
deriving DecidableEq, Repr

/-- Everything that operations read and change. `host` is what the application keeps. -/
structure Hub (α : Type) where
  now : Time.Moment
  elapsed : Float
  serial : Nat
  effects : List Effect
  log : List LogLine
  outages : List (Service × String)
  bus : Bus
  engine : Engine
  desk : ActionDesk
  flows : FlowDesk
  cache : Cache Key Float Value
  cacheLifetime : Value
  cached : Bool
  connectors : List (String × Connector)
  broker : Option Broker
  outside : Outside
  settings : Settings
  link : Option Link
  host : α

/-- A task on a hub: its result or fault, and what it changed. -/
abbrev Task (α β : Type) := ExceptT Fault (StateM (Hub α)) β

namespace Task

variable {α β : Type}

/-- Runs a task: its outcome and the hub after it. -/
def outcome (t : Task α β) (h : Hub α) : Except Fault β × Hub α := t.run.run h

/-- Fails. -/
def fail (fault : Fault) : Task α β := throw fault

/-- Goes on with a result, or fails. -/
def ofExcept : Except Fault β → Task α β
  | .ok b => pure b
  | .error fault => throw fault

/-- A task whose fault is a result. -/
def attempt (t : Task α β) : Task α (Except Fault β) := fun h => (.ok (t h).1, (t h).2)

/-- The time as text. -/
def now : Task α String := do return (← get).now.text

/-- The seconds that have passed. -/
def elapsed : Task α Float := do return (← get).elapsed

/-- The digits of an id. -/
def idDigits (n : Nat) : String := String.ofList (Text.hexText 12 n)

/-- A new id. -/
def freshId (stem : String) : Task α String := do
  let h ← get
  set { h with serial := h.serial + 1 }
  return s!"{stem}-{idDigits (h.serial + 1)}"

/-- Writes a line to the log. -/
def log (level : Level) (part text : String) : Task α Unit :=
  modify fun h => if level.kept then { h with log := ⟨level, part, text⟩ :: h.log } else h

/-- Writes a fault with its circumstances to the log. -/
def logFault (part title : String) (extra : Fields) (fault : Fault) : Task α Unit :=
  log .error part (faultText title extra fault.message)

/-- Records an effect. -/
def record (e : Effect) : Task α Unit := modify fun h => { h with effects := e :: h.effects }

/-- Asks the outside world. -/
def contact (c : Contact β) : Task α β := fun h =>
  match c h.effects with
  | (r, effects) => (r, { h with effects := effects })

/-- Fails when the service is out of order. -/
def inService (s : Service) : Task α Unit := do
  match Assoc.get? (← get).outages s with
  | some notice => throw (.raised .runtime notice)
  | none => return ()

theorem attempt_ne_error (t : Task α β) (h : Hub α) (fault : Fault) :
    (outcome (attempt t) h).1 ≠ .error fault := by
  simp [outcome, attempt, ExceptT.run, StateT.run]

end Task

/-- Receives a notice for a subscriber. -/
abbrev Receive (α : Type) := Subscriber → Notice → Task α Unit

/-- What a function gives back for a value: an answer, and the value, which it may have changed.
Where the answer is a part of the value, `part` is the path to it. -/
structure Reply where
  answer : Value
  argument : Value
  part : Option (List String)

/-- What the application adds to a hub: functions of one value, actions of a value and a context,
and clients that receive notices. The latter two may use the hub. -/
structure Application (α : Type) where
  ask : String → Value → Except Fault Value
  act : Receive α → String → Value → Context → Task α Reply
  serve : Receive α → Nat → Notice → Task α Unit

/-- The application, and how notices reach subscribers. -/
structure Host (α : Type) where
  app : Application α
  receive : Receive α

end EventHub
