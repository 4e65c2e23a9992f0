import EventHub.Actions.Web
import EventHub.Hub.Effect

/-!
# A scripted world

A hub can be rehearsed without a network: the web answers as a script says, mail servers, brokers
and connectors behave in one of a few ways, and every contact leaves its effect.

* `WebScript.outside`: the web and the mail server of a script.
* `BrokerManner.broker`, `ConnectorManner.connector`: brokers and connectors.
-/

namespace EventHub.Rehearsal

/-- How an address of the web answers. -/
inductive WebAnswer
  | unreachable (kind message : String)
  | broken (message : String)
  | response (r : HttpResponse)

/-- An answer with a document. -/
def WebAnswer.document (status : Int) (body : String) : WebAnswer :=
  .response ⟨status, "application/json", body⟩

/-- The answer of addresses that the script does not name. -/
def WebAnswer.standard : WebAnswer := .document 200 "\x7b\"ok\": true\x7d"

/-- What the answer means for a request. -/
def WebAnswer.result : WebAnswer → Except Fault HttpResponse
  | unreachable kind message => .error (.raised (.request kind) message)
  | broken message => .error (.raised .runtime message)
  | response r => .ok r

/-- How the mail server fails, if it does. -/
inductive MailManner
  | works | refuses | rejectsLogin
deriving DecidableEq, Repr

/-- What a command of a mail session leads to. -/
def MailManner.result : MailManner → MailCommand → Except Fault Unit
  | refuses, .connect _ _ _ => .error (.raised .refused "smtp refused")
  | rejectsLogin, .login _ _ => .error (.raised .smtp "bad credentials")
  | _, _ => .ok ()

/-- The answers of the web by address, and the manner of the mail server. -/
structure WebScript where
  answers : List (String × WebAnswer)
  mail : MailManner

/-- The answer of an address. -/
def WebScript.answer (s : WebScript) (url : Value) : WebAnswer :=
  match url with
  | .text url => (Assoc.get? s.answers url).getD .standard
  | _ => .standard

/-- The web and the mail server of a script. -/
def WebScript.outside (s : WebScript) : Outside :=
  { http := fun r => .recorded (.http r.method r.url r.options) (s.answer r.url).result
    mail := fun c => .recorded (.mail c) (s.mail.result c) }

/-- How a broker behaves. -/
inductive BrokerManner
  | publishOnly | full | failing
deriving DecidableEq, Repr

/-- The broker of a manner. -/
def BrokerManner.broker (m : BrokerManner) : Broker :=
  let down : Contact Value := .silent (.error (.raised .runtime "broker down"))
  { publish := fun topic payload qos retain =>
      if m = .failing then down
      else .recorded (.brokerPublish topic payload qos retain)
        (.ok (.map [("topic", topic), ("published", .bool true)]))
    subscribe :=
      if m = .publishOnly then none
      else some fun topic qos =>
        if m = .failing then down
        else .recorded (.brokerSubscribe topic qos)
          (.ok (.map [("topic", topic), ("qos", .int qos), ("subscribed", .bool true)])) }

/-- How a connector behaves. -/
inductive ConnectorManner
  | works | rejects | unimplemented
deriving DecidableEq, Repr

/-- The connector of a manner. -/
def ConnectorManner.connector (m : ConnectorManner) (id : String) : Connector :=
  let missing : Contact Value := .silent (.error (.raised .notImplemented ""))
  { execute := fun capability operation params =>
      match m with
      | .unimplemented => missing
      | .rejects => .silent (.error (.raised .value (id ++ " rejected " ++ operation.plain)))
      | .works => .recorded (.connectorExecute id capability operation params)
          (.ok (.map [("ok", .bool true)]))
    connect :=
      if m = .unimplemented then missing
      else .recorded (.connectorConnect id) (.ok (.text "connected"))
    disconnect :=
      if m = .unimplemented then missing
      else .recorded (.connectorDisconnect id) (.ok (.text "disconnected")) }

/-- How the way to the broker behaves when the program starts and ends. -/
inductive GatewayManner
  | works | refuses | stopFails
deriving DecidableEq, Repr

/-- The way to the broker of a manner. -/
def GatewayManner.gateway (m : GatewayManner) : Gateway :=
  { make := fun s => .recorded (.gatewayMade s.host s.port) (.ok ())
    connect := .recorded .gatewayConnected
      (if m = .refuses then .error (.raised .refused "refused") else .ok ())
    stop := .recorded .gatewayStopped
      (if m = .stopFails then .error (.raised .runtime "stop failed") else .ok ())
    broker :=
      { publish := fun topic payload qos retain =>
          .recorded (.brokerPublish topic payload qos retain)
            (.ok (.map [("published", .bool true)]))
        subscribe := none } }

end EventHub.Rehearsal
