import EventHub.Hub.State
import EventHub.Link.Message

/-!
# The link to the broker

A link publishes and subscribes over a network. When the network is lost it connects again until
it succeeds or is stopped, and every connection renews the subscriptions.

* `openLink`, `connectLink`, `stopLink`: the life of a link.
* `linkUp`, `linkDown`: what the network reports.
* `publishOnLink`, `subscribeOnLink`, `receiveOnLink`: messages.
-/

namespace EventHub

variable {α : Type}

/-- The part of the hub that these lines of the log are from. -/
def linkPart : String := "MQTTClient"

/-- The link of the hub. -/
def getLink : Task α Link := do
  match (← get).link with
  | some l => return l
  | none => throw (.raised .runtime "no link")

/-- Changes the link. -/
def modifyLink (f : Link → Link) : Task α Unit := modify fun h => { h with link := h.link.map f }

/-- The words of a return code of the network. -/
def returnText (code : Int) : String :=
  match code with
  | 0 => "No error."
  | 1 => "Out of memory."
  | 2 => "A network protocol error occurred when communicating with the broker."
  | 3 => "Invalid function arguments provided."
  | 4 => "The client is not currently connected."
  | 5 => "The connection was refused."
  | 6 => "Message not found (internal error)."
  | 7 => "The connection was lost."
  | 8 => "A TLS error occurred."
  | 9 => "Payload too large."
  | 10 => "This feature is not supported."
  | 11 => "Authorisation failed."
  | 12 => "Access denied by ACL."
  | 14 => "Error defined by errno."
  | 15 => "Message queue full."
  | 16 => "Client or broker did not communicate in the keepalive interval."
  | _ => "Unknown error."

/-- The return code of a network that is not connected. -/
def notConnected : Int := 4

/-- The seconds between two messages that keep a connection alive. -/
def keepAlive : Int := 60

/-- The milliseconds between two attempts to connect again. -/
def reconnectPause : Int := 5000

/-- The number of the next message. -/
def nextMessage : Task α Nat := do
  modifyLink fun l => { l with messages := l.messages + 1 }
  return (← getLink).messages

/-! ## The life of a link -/

/-- Opens a link. -/
def openLink (settings : BrokerSettings) (timeout : Value) (listener : Option Subscriber)
    (network : Network) : Task α Unit := do
  let timeout := if timeout.isNull then settings.publishTimeout else timeout
  let link : Link := { settings, timeout, subscriptions := [], connected := false,
                       stopped := false, messages := 0, listener, network }
  modify fun h => { h with link := some link }
  Task.record (.linkMade (if settings.clientId.truthy then settings.clientId else .text ""))
  if settings.username.truthy then
    Task.record (.linkAuthorised settings.username settings.password)

/-- Asks the network for the messages of topics. -/
def renew : List (String × Int) → Task α Unit
  | [] => return ()
  | (topic, qos) :: rest => do
    let _ ← nextMessage
    Task.record (.linkSubscribed topic qos)
    renew rest

/-- The network reports a connection, or with a reason that there is none. -/
def linkUp (reason : Option String) : Task α Unit := do
  let l ← getLink
  match reason with
  | some reason => Task.log .error linkPart s!"Failed to connect to MQTT broker: {reason}"
  | none =>
    Task.log .info linkPart
      ("Connected to MQTT broker " ++ l.settings.host.plain ++ ":" ++ l.settings.port.plain)
    modifyLink fun l => { l with connected := true }
    renew l.subscriptions

/-- Connects again after so many failures. -/
def reconnect : Nat → Task α Unit
  | 0 => do
    Task.log .info linkPart "Attempting to reconnect to MQTT broker…"
    Task.record .linkReconnected
  | failures + 1 => do
    Task.log .info linkPart "Attempting to reconnect to MQTT broker…"
    Task.record .linkReconnected
    Task.log .error linkPart "MQTT reconnection failed: still down"
    Task.record (.slept reconnectPause)
    reconnect failures

/-- The network reports that the connection is lost. -/
def linkDown (reason : String) : Task α Unit := do
  Task.log .warning linkPart s!"MQTT disconnected: {reason}"
  modifyLink fun l => { l with connected := false }
  let l ← getLink
  if !l.stopped then
    modifyLink fun l => { l with network := { l.network with reconnectFailures := 0 } }
    reconnect l.network.reconnectFailures

/-- Connects and tells whether the connection stands. -/
def connectLink : Task α Bool := do
  let l ← getLink
  Task.record (.linkConnected l.settings.host l.settings.port keepAlive)
  if l.network.refuses then throw (.raised .refused "refused")
  Task.record .linkLoopStarted
  if l.network.acknowledges then linkUp none
  if (← getLink).connected then return true
  Task.log .warning linkPart "MQTT connection timeout; continuing anyway"
  return false

/-- Stops the link. -/
def stopLink : Task α Unit := do
  modifyLink fun l => { l with stopped := true }
  let l ← getLink
  Task.record .linkDisconnected
  Task.record .linkLoopStopped
  if l.network.disconnectFails then throw (.raised .runtime "already gone")

/-! ## Messages -/

/-- Publishes a payload. Above quality 0 the link waits for the acknowledgement. -/
def publishOnLink (topic : String) (payload : Value) (qos : Int) (retain : Bool) :
    Task α Value := do
  let message ← Task.ofExcept (wireForm payload)
  let l ← getLink
  let id ← nextMessage
  Task.record (.linkPublished topic message qos retain)
  if l.network.returnCode != 0 then
    throw (.raised .runtime
      s!"MQTT publish to {topic} failed: {returnText l.network.returnCode}")
  if 0 < qos then Task.record (.linkWaited l.timeout)
  return .map [("topic", .text topic), ("qos", .int qos), ("retain", .bool retain),
    ("mid", .int id), ("published", .bool (0 ≤ qos))]

/-- Subscribes to a topic. The subscription is renewed by every later connection. -/
def subscribeOnLink (topic : String) (qos : Int) : Task α Value := do
  modifyLink fun l => { l with subscriptions := Assoc.put l.subscriptions topic qos }
  let code := (← getLink).network.returnCode
  let id ← nextMessage
  Task.record (.linkSubscribed topic qos)
  if code != 0 && code != notConnected then
    throw (.raised .runtime s!"MQTT subscribe to {topic} failed: {returnText code}")
  Task.log .info linkPart s!"Subscribed to MQTT topic {topic} qos={qos}"
  return .map [("topic", .text topic), ("qos", .int qos), ("mid", .int id),
    ("subscribed", .bool (code == 0))]

/-- A message arrives. A fault of its receiver is logged. -/
def receiveOnLink (host : Host α) (topic : String) (bytes : List UInt8) : Task α Unit := do
  match (← getLink).listener with
  | none => return ()
  | some s =>
    match ← Task.attempt (do
      host.receive s (.message topic (← Task.ofExcept (decodePayload bytes)))) with
    | .ok _ => return ()
    | .error fault =>
      Task.logFault linkPart "MQTT message handling failed" [("topic", .text topic)] fault

end EventHub
