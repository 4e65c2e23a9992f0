import EventHub.Fault
import EventHub.Record.Flow
import EventHub.Record.Event
import EventHub.Settings.Basic

/-!
# Effects and notices

A notice is what subscribers receive. An effect is a contact with the outside world. The
outside world is known by its answers only, which may depend on everything that happened before.

* `Contact.recorded`: an effect with an answer.
-/

namespace EventHub

/-- What is received: a record of the hub, a message of the broker, or any other value. -/
inductive Notice
  | event (e : Event)
  | typeDiscovery (d : TypeDiscovery)
  | fieldsDiscovery (d : FieldsDiscovery)
  | rule (r : Rule)
  | flow (f : Flow)
  | message (topic : String) (payload : Value)
  | value (v : Value)

/-- The notice as a value. -/
def Notice.toValue : Notice → Value
  | event e => e.toValue
  | typeDiscovery d => d.toValue
  | fieldsDiscovery d => d.toValue
  | rule r => r.toValue
  | flow f => f.toValue
  | message topic payload => .tuple [.text topic, payload]
  | value v => v

/-- The values that a receiver is given: a message comes as its topic and its payload. -/
def Notice.parts : Notice → List Value
  | message topic payload => [.text topic, payload]
  | n => [n.toValue]

/-- The notice that a value makes: a record where it is one, the value itself elsewhere. -/
def Notice.ofValue (v : Value) : Notice :=
  match v with
  | .record .event _ => match Event.check "" v with
    | .ok e => event e
    | .error _ => value v
  | .record .typeDiscovery _ => match TypeDiscovery.check "" v with
    | .ok d => typeDiscovery d
    | .error _ => value v
  | .record .fieldsDiscovery _ => match FieldsDiscovery.check "" v with
    | .ok d => fieldsDiscovery d
    | .error _ => value v
  | .record .rule _ => match Rule.check "" v with
    | .ok r => rule r
    | .error _ => value v
  | .record .flow _ => match Flow.check "" v with
    | .ok f => flow f
    | .error _ => value v
  | _ => value v

/-- A command of a mail session. -/
inductive MailCommand
  | connect (host port timeout : Value)
  | hello
  | startTls
  | login (user password : Value)
  | send (subject sender recipients body : String)
  | quit

/-- A contact with the outside world. -/
inductive Effect
  | emitted (topic : String) (notice : Notice)
  | received (name : Value) (notice : Notice)
  | slept (milliseconds : Int)
  | http (method : String) (url : Value) (options : Fields)
  | mail (command : MailCommand)
  | brokerPublish (topic payload : Value) (qos : Int) (retain : Bool)
  | brokerSubscribe (topic : Value) (qos : Int)
  | connectorExecute (id : String) (capability operation params : Value)
  | connectorConnect (id : String)
  | connectorDisconnect (id : String)
  | loggingSet (options : Fields)
  | gatewayMade (host port : Value)
  | gatewayConnected
  | gatewayStopped
  | linkMade (clientId : Value)
  | linkAuthorised (user password : Value)
  | linkConnected (host port : Value) (keepAlive : Int)
  | linkLoopStarted
  | linkLoopStopped
  | linkDisconnected
  | linkReconnected
  | linkSubscribed (topic : String) (qos : Int)
  | linkPublished (topic : String) (message : Value) (qos : Int) (retain : Bool)
  | linkWaited (timeout : Value)

/-- A question to the outside world: the effects so far, newest first, give an answer and the
effects with it. -/
abbrev Contact (β : Type) := List Effect → Except Fault β × List Effect

/-- A contact that leaves an effect and has an answer. -/
def Contact.recorded {β : Type} (effect : Effect) (answer : Except Fault β) : Contact β :=
  fun journal => (answer, effect :: journal)

/-- A contact that leaves no effect. -/
def Contact.silent {β : Type} (answer : Except Fault β) : Contact β :=
  fun journal => (answer, journal)

/-- A request to a web address. -/
structure HttpRequest where
  method : String
  url : Value
  options : Fields

/-- The answer to a request. -/
structure HttpResponse where
  status : Int
  contentType : String
  body : String

/-- A message broker; one that takes no subscriptions can only publish. -/
structure Broker where
  publish : Value → Value → Int → Bool → Contact Value
  subscribe : Option (Value → Int → Contact Value)

/-- A way to a broker that is opened when the program starts and closed when it ends. -/
structure Gateway where
  make : BrokerSettings → Contact Unit
  connect : Contact Unit
  stop : Contact Unit
  broker : Broker

/-- An adapter to a device or service. -/
structure Connector where
  execute : Value → Value → Value → Contact Value
  connect : Contact Value
  disconnect : Contact Value

/-- The rest of the outside world: the web and the mail server. -/
structure Outside where
  http : HttpRequest → Contact HttpResponse
  mail : MailCommand → Contact Unit

/-- A world in which every contact is refused. -/
def Outside.closed : Outside :=
  { http := fun _ => .silent (.error (.raised (.request "ConnectionError") "no network"))
    mail := fun _ => .silent (.error (.raised .refused "no network")) }

end EventHub
