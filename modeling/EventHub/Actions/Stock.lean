/-!
# The stock actions

The names of the actions that come with the hub.

* `StockAction.ofName?_name`: an action is told by its name.
-/

namespace EventHub

/-- The actions that come with the hub. -/
inductive StockAction
  | mqttPublish | mqttSubscribe | sendNotification | sendSms | slackNotify | sendEmail
  | connectorExecute | connectorConnect | connectorDisconnect | logEvent | storeData
  | httpRequest | delay | transformData | conditional
deriving DecidableEq, Repr

namespace StockAction

/-- The name of an action. -/
def name : StockAction → String
  | mqttPublish => "mqtt_publish"
  | mqttSubscribe => "mqtt_subscribe"
  | sendNotification => "send_notification"
  | sendSms => "send_sms"
  | slackNotify => "slack_notify"
  | sendEmail => "send_email"
  | connectorExecute => "connector_execute"
  | connectorConnect => "connector_connect"
  | connectorDisconnect => "connector_disconnect"
  | logEvent => "log_event"
  | storeData => "store_data"
  | httpRequest => "http_request"
  | delay => "delay"
  | transformData => "transform_data"
  | conditional => "conditional_action"

/-- All stock actions. -/
def all : List StockAction :=
  [mqttPublish, mqttSubscribe, sendNotification, sendSms, slackNotify, sendEmail,
   connectorExecute, connectorConnect, connectorDisconnect, logEvent, storeData, httpRequest,
   delay, transformData, conditional]

/-- The stock action of a name. -/
def ofName? (name : String) : Option StockAction := all.find? fun a => a.name == name

theorem ofName?_name (a : StockAction) : ofName? a.name = some a := by
  cases a <;> decide

end StockAction

end EventHub
