import EventHub.Actions.Deliver
import EventHub.Actions.Transform
import EventHub.Bus.Dispatch
import EventHub.Hub.Store

/-!
# What the stock actions do

Every action is given its parameters, with all tokens resolved, and its context. An action fails
with a fault; who runs it decides what the fault means.

* `runStock`: every stock action but the conditional one, which runs other actions.
-/

namespace EventHub

variable {α : Type}

/-- The part of the hub that these lines of the log are from. -/
def actionPart : String := "actions"

/-- Sends a notice through an outlet, if there is one. -/
def emit (host : Host α) (outlet : Option Outlet) (topic : String) (n : Notice) : Task α Unit :=
  match outlet with
  | none => return ()
  | some .journal => Task.record (.emitted topic n)
  | some .bus => announce host topic n

/-- Is the value null or the empty text? -/
def isBlankValue : Value → Bool
  | .null => true
  | .text s => s.isEmpty
  | _ => false

/-- Fails when one of the parameters is null or empty. -/
def require (action : StockAction) (params : Fields) (names : List String) : Task α Unit := do
  let missing := names.filter fun name => isBlankValue (Value.get params name)
  if !missing.isEmpty then
    throw (.raised .value (s!"{action.name} requires " ++ commaList missing))

/-- One value, or the items of a list. -/
def oneOrMany (v : Value) : Except Fault (List Value) :=
  match v with
  | .text s => .ok [.text s]
  | v => v.toList

/-- The source of the event of a context. -/
def sourceOf (ctx : Context) : Value :=
  .text ((ctx.event.map (·.source)).getD "rule-engine")

/-- The connector of an id. -/
def findConnector (ctx : Context) (id : Value) : Task α (String × Connector) := do
  if let some name := id.unhashable? then throw (.type (.unhashable name))
  let found := match id with
    | .text id => (Assoc.get? ctx.connectors id).map fun c => (id, c)
    | _ => none
  match found with
  | some c => return c
  | none => throw (.raised .lookup ("Connector not found: " ++ id.plain))

/-- The connector that stands in for a broker. -/
def brokerConnector (ctx : Context) : Task α Connector := do
  match Assoc.get? ctx.connectors "mqtt" with
  | some c => return c
  | none => throw (.raised .runtime "MQTT broker not available")

/-- Publishes a message on the broker. -/
def runMqttPublish (params : Fields) (ctx : Context) : Task α Value := do
  require .mqttPublish params ["topic"]
  let topic := Value.get params "topic"
  let payload := Value.getOr params "payload" (Value.get params "message")
  let qos ← Task.ofExcept (Value.getOr params "qos" (.int 0)).toInt
  let retain := (Value.get params "retain").truthy
  match ctx.broker with
  | some broker => Task.contact (broker.publish topic payload qos retain)
  | none =>
    let c ← brokerConnector ctx
    Task.contact (c.execute (.text "mqtt:publish") (.text "publish")
      (.map [("topic", topic), ("message", payload), ("qos", .int qos), ("retain", .bool retain)]))

/-- Subscribes to messages of the broker. -/
def runMqttSubscribe (params : Fields) (ctx : Context) : Task α Value := do
  require .mqttSubscribe params ["topic"]
  let topic := Value.get params "topic"
  let qos ← Task.ofExcept (Value.getOr params "qos" (.int 0)).toInt
  match ctx.broker.bind (·.subscribe) with
  | some subscribe => Task.contact (subscribe topic qos)
  | none =>
    let c ← brokerConnector ctx
    Task.contact (c.execute (.text "mqtt:subscribe") (.text "subscribe")
      (.map [("topic", topic), ("qos", .int qos)]))

/-- Writes an event to the log. -/
def runLogEvent (params : Fields) (ctx : Context) : Task α Value := do
  let levelName := Text.upper (Value.getOr params "level" (.text "info")).plain
  let ruleName : Value := .ofText? (ctx.rule.map (·.name))
  let message := Value.orElse (Value.get params "message")
    (.text ("Rule execution: " ++ ruleName.plain))
  let data ← Task.ofExcept (Value.orElse (Value.get params "data") (.map [])).toMap
  let data := data.put "rule_id" (.ofText? (ctx.rule.bind (·.id)))
  let data := data.put "event_id" (.ofText? (ctx.event.map (·.id)))
  Task.log ((Level.ofName? levelName).getD .info) actionPart
    (message.plain ++ " " ++ data.shown)
  return .map [("logged", .bool true), ("level", .text (Text.lower levelName)),
    ("message", message), ("data", data), ("timestamp", .text (← Task.now))]

/-- The notification that parameters describe. -/
def Notification.ofParams (params : Fields) (ctx : Context) : Notification :=
  { Notification.plain (.text (Value.get params "message").plain) with
    priority := .text (Value.getOr params "priority" (.text "normal")).plain
    subject := Value.get params "subject"
    source := sourceOf ctx }

/-- The channels that parameters name: one or more, or else the log. -/
def channelsOf (params : Fields) : Except Fault (List Value) :=
  oneOrMany (Value.orElse (Value.get params "channels") (.list [.text "log"]))

/-- The record of a notification with a status for each channel that it was sent on. -/
def Notification.record (n : Notification) (id time : String) (channels : List Value)
    (statuses : List (Value × Value)) : Value :=
  .map [("id", .text id), ("message", n.message), ("priority", n.priority),
    ("channels", .list channels), ("deliveries", .ofDistinct statuses), ("source", n.source),
    ("timestamp", .text time)]

/-- Sends a notification on the named channels, and tells of it whether it was delivered or not. -/
def sendThrough (host : Host α) (providers : Providers α) (params : Fields) (ctx : Context) :
    Task α Value := do
  require .sendNotification params ["message"]
  let n := Notification.ofParams params ctx
  let channels ← Task.ofExcept (channelsOf params)
  let statuses ← dispatchThrough providers n channels
  let id ← Task.freshId "notification"
  let record := n.record id (← Task.now) channels statuses
  emit host ctx.outlet Topic.notification (.value record)
  if !statuses.isEmpty && !statuses.any (fun s => isSent s.2) then
    refuse ("Notification not delivered on any channel: " ++ (Value.ofDistinct statuses).shown)
  return record

/-- Sends a notification through the providers of a service. -/
def runSendNotification (host : Host α) (service : NotificationService) (params : Fields)
    (ctx : Context) : Task α Value :=
  sendThrough host service.providers params ctx

/-- Sends a notification on one channel, which has to take it. -/
def deliverSurely (service : NotificationService) (n : Notification)
    (channel : NotificationChannel) : Task α Unit := do
  let statuses ← dispatchNotification service n [.text channel.name]
  match statuses with
  | [(_, .text "sent")] => return ()
  | [(_, status)] => refuse (s!"{channel.name} delivery " ++ status.plain)
  | _ => refuse s!"{channel.name} delivery None"

/-- Sends a short message to the given numbers. -/
def runSendSms (service : NotificationService) (params : Fields) (ctx : Context) :
    Task α Value := do
  require .sendSms params ["to", "message"]
  let given ← Task.ofExcept (oneOrMany (Value.get params "to"))
  deliverSurely service { Notification.plain (.text (Value.get params "message").plain) with
    recipients := .list given, source := sourceOf ctx } .sms
  return .map [("sent", .bool true), ("to", .list given), ("timestamp", .text (← Task.now))]

/-- Writes a message into a chat room. -/
def runSlackNotify (service : NotificationService) (params : Fields) (ctx : Context) :
    Task α Value := do
  require .slackNotify params ["message"]
  let room := Value.get params "channel"
  deliverSurely service { Notification.plain (.text (Value.get params "message").plain) with
    source := sourceOf ctx, room := room, attachments := Value.get params "attachments" } .slack
  return .map [("sent", .bool true), ("channel", room), ("timestamp", .text (← Task.now))]

/-- Sends a mail to the given addresses. -/
def runSendEmail (service : NotificationService) (params : Fields) : Task α Value := do
  require .sendEmail params ["to", "subject", "body"]
  let given ← Task.ofExcept (oneOrMany (Value.get params "to"))
  let subject := Value.get params "subject"
  sendMail service (.list given) (.text subject.plain) (.text (Value.get params "body").plain)
  return .map [("sent", .bool true), ("to", .list given), ("subject", subject),
    ("timestamp", .text (← Task.now))]

/-- Has a connector run an operation of a capability. -/
def runConnectorExecute (params : Fields) (ctx : Context) : Task α Value := do
  require .connectorExecute params ["connector_id", "capability", "operation"]
  let (_, c) ← findConnector ctx (Value.get params "connector_id")
  let arguments ← Task.ofExcept (Value.orElse (Value.get params "parameters") (.map [])).toMap
  Task.contact (c.execute (Value.get params "capability") (Value.get params "operation") arguments)

/-- Has a connector connect. -/
def runConnectorConnect (params : Fields) (ctx : Context) : Task α Value := do
  require .connectorConnect params ["connector_id"]
  let (_, c) ← findConnector ctx (Value.get params "connector_id")
  Task.contact c.connect

/-- Has a connector disconnect. -/
def runConnectorDisconnect (params : Fields) (ctx : Context) : Task α Value := do
  require .connectorDisconnect params ["connector_id"]
  let (_, c) ← findConnector ctx (Value.get params "connector_id")
  Task.contact c.disconnect

/-- The body of a request: lists and maps as a document, all else as it is. -/
def bodyOption (body : Value) : Fields :=
  match body with
  | .null => []
  | .map _ | .table _ | .list _ => [("json", body)]
  | v => [("data", v)]

/-- Makes a request to the web, which has to be accepted. -/
def runHttpRequest (settings : ActionSettings) (params : Fields) : Task α Value := do
  require .httpRequest params ["url"]
  let method := Text.upper (Value.getOr params "method" (.text "GET")).plain
  let timeout ← Task.ofExcept (Value.getOr params "timeout_sec" settings.httpTimeout).toFloat
  let url := Value.get params "url"
  let options : Fields := [("headers", Value.orElse (Value.get params "headers") .null),
    ("timeout", .float timeout)] ++ bodyOption (Value.get params "body")
  let r ← request method url options
  Task.ofExcept (r.accepted url)
  let body ← Task.ofExcept r.content
  return .map [("status_code", .int r.status), ("method", .text method), ("url", url),
    ("body", body)]

/-- Milliseconds that are waited in seconds: the ones next to the thousandfold of those seconds,
which are a binary64 number. -/
def waitedMilliseconds (duration : Value) : Except Fault Int := do
  let seconds := (← duration.toFloat) / 1000
  match Number.Magnitude.ofFloat (seconds * 1000) with
  | .finite d => .ok d.nearest
  | _ => .error .infiniteToInt

/-- Do two values stand in a relation? -/
def related (r : Relation) (v w : Value) : Except Fault Bool :=
  match v.ordered r w with
  | .ok b => .ok b
  | .error flaw => .error (.type flaw)

/-- The delay that is asked for, but no longer than a limit and no less than nothing. -/
def delayWithin (limit requested : Value) : Except Fault Value := do
  let least := if ← related .lt limit requested then limit else requested
  .ok (if ← related .gt least (.int 0) then least else .int 0)

/-- Waits, but not longer than allowed. -/
def runDelay (settings : ActionSettings) (params : Fields) : Task α Value := do
  let requested : Value := .int (← Task.ofExcept (Value.getOr params "duration" (.int 1000)).toInt)
  let duration ← Task.ofExcept (delayWithin settings.maxDelay requested)
  if !duration.same requested then
    Task.log .warning actionPart
      ("Delay of " ++ requested.plain ++ "ms clamped to " ++ duration.plain ++ "ms")
  Task.record (.slept (← Task.ofExcept (waitedMilliseconds duration)))
  return .map [("delayed", .bool true), ("duration", duration),
    ("timestamp", .text (← Task.now))]

/-- Transforms data. -/
def runTransformData (host : Host α) (params : Fields) (ctx : Context) : Task α Value := do
  require .transformData params ["input", "transform"]
  let source := Value.get params "input"
  let reply ← applyTransform host source (Value.get params "transform") ctx
  return .map [("transformed", .bool true), ("input", reply.argument), ("output", reply.answer),
    ("timestamp", .text (← Task.now))]

/-- Keeps a value in the cache. -/
def runStoreData (params : Fields) (ctx : Context) : Task α Value := do
  require .storeData params ["key"]
  if !ctx.cached then refuse "Cache not available"
  let key := Value.get params "key"
  storeValue key (Value.get params "value") (Value.get params "ttl")
  return .map [("stored", .bool true), ("key", key), ("timestamp", .text (← Task.now))]

/-- Runs a stock action. The conditional action, which runs other actions, is not run here. -/
def runStock (host : Host α) (action : StockAction) (params : Fields) (ctx : Context) :
    Task α Value := do
  let desk := (← get).desk
  match action with
  | .mqttPublish => runMqttPublish params ctx
  | .mqttSubscribe => runMqttSubscribe params ctx
  | .sendNotification => runSendNotification host desk.service params ctx
  | .sendSms => runSendSms desk.service params ctx
  | .slackNotify => runSlackNotify desk.service params ctx
  | .sendEmail => runSendEmail desk.service params
  | .connectorExecute => runConnectorExecute params ctx
  | .connectorConnect => runConnectorConnect params ctx
  | .connectorDisconnect => runConnectorDisconnect params ctx
  | .logEvent => runLogEvent params ctx
  | .storeData => runStoreData params ctx
  | .httpRequest => runHttpRequest desk.settings params
  | .delay => runDelay desk.settings params
  | .transformData => runTransformData host params ctx
  | .conditional => return .null

end EventHub
