import EventHub.Settings.Basic

/-!
# Settings from fields

Settings that a program gives field by field, under the names that they have as values. A field
that is missing has its standard value.

* `Settings.ofFields`: all settings of a map of sections.
-/

namespace EventHub

/-- The integer of a field, or a default. -/
def intField (fields : Fields) (name : String) (default : Int) : Int :=
  match Value.get fields name with
  | .int n => n
  | .bool b => if b then 1 else 0
  | _ => default

/-- The entries of a field that is a map. -/
def mapField (fields : Fields) (name : String) : Fields :=
  ((Value.get fields name).fields?).getD []

/-- Whether a field counts as true, or a default. -/
def truthField (fields : Fields) (name : String) (default : Bool) : Bool :=
  match Assoc.get? fields name with
  | some v => v.truthy
  | none => default

/-- The settings of the broker. -/
def BrokerSettings.ofFields (s : Fields) : BrokerSettings :=
  let d := BrokerSettings.standard
  { enabled := truthField s "enabled" d.enabled
    host := Value.getOr s "host" d.host
    port := Value.getOr s "port" d.port
    username := Value.getOr s "username" d.username
    password := Value.getOr s "password" d.password
    clientId := Value.getOr s "client_id" d.clientId
    publishTimeout := Value.getOr s "publish_timeout_sec" d.publishTimeout }

/-- The settings of the bus. -/
def BusSettings.ofFields (s : Fields) : BusSettings :=
  let d := BusSettings.standard
  { maxEvents := Value.getOr s "max_events" d.maxEvents
    queueSize := intField s "queue_size" d.queueSize
    enqueueTimeout := match Value.get s "enqueue_timeout_sec" with
      | .float x => x
      | .int n => Float.ofInt n
      | _ => d.enqueueTimeout }

/-- The settings of the stock actions. -/
def ActionSettings.ofFields (s : Fields) : ActionSettings :=
  let d := ActionSettings.standard
  { httpTimeout := Value.getOr s "http_timeout_sec" d.httpTimeout
    maxDelay := Value.getOr s "max_delay_ms" d.maxDelay
    smtpTimeout := Value.getOr s "smtp_timeout_sec" d.smtpTimeout }

/-- The settings of notifications. -/
def NotificationSettings.ofFields (s : Fields) : NotificationSettings :=
  let d := NotificationSettings.standard
  { webhookUrls := Value.getOr s "webhook_urls" d.webhookUrls
    smtpHost := Value.getOr s "smtp_host" d.smtpHost
    smtpPort := Value.getOr s "smtp_port" d.smtpPort
    smtpUser := Value.getOr s "smtp_user" d.smtpUser
    smtpPassword := Value.getOr s "smtp_password" d.smtpPassword
    smtpFrom := Value.getOr s "smtp_from" d.smtpFrom
    smtpTo := Value.getOr s "smtp_to" d.smtpTo
    smtpStartTls := truthField s "smtp_starttls" d.smtpStartTls
    telegramToken := Value.getOr s "telegram_bot_token" d.telegramToken
    telegramChat := Value.getOr s "telegram_chat_id" d.telegramChat
    smsUrl := Value.getOr s "sms_webhook_url" d.smsUrl
    smsTo := Value.getOr s "sms_to" d.smsTo
    slackUrl := Value.getOr s "slack_webhook_url" d.slackUrl
    slackChannel := Value.getOr s "slack_channel" d.slackChannel }

/-- All settings. -/
def Settings.ofFields (s : Fields) : Settings :=
  { broker := .ofFields (mapField s "mqtt")
    bus := .ofFields (mapField s "event_bus")
    actions := .ofFields (mapField s "actions")
    notifications := .ofFields (mapField s "notifications")
    logLevel := Value.getOr s "log_level" Settings.standard.logLevel
    logFile := Value.getOr s "log_file" Settings.standard.logFile
    rules := Value.getOr s "rules" Settings.standard.rules
    flows := Value.getOr s "flows" Settings.standard.flows }

end EventHub
