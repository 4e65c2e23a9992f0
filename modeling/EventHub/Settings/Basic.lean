import EventHub.Value.Basic

/-!
# Settings

How the parts of the hub are set up. What a configuration document may give in any form, and the
hub only passes on, is kept as a value.
-/

namespace EventHub

/-- The connection to the message broker. -/
structure BrokerSettings where
  enabled : Bool
  host : Value
  port : Value
  username : Value
  password : Value
  clientId : Value
  publishTimeout : Value

/-- The broker on this machine, without credentials. -/
def BrokerSettings.standard : BrokerSettings :=
  { enabled := true, host := .text "localhost", port := .int 1883, username := .null,
    password := .null, clientId := .null, publishTimeout := .float 5 }

/-- The sizes of the event history and of the queue of waiting events. -/
structure BusSettings where
  maxEvents : Value
  queueSize : Int
  enqueueTimeout : Float

/-- A thousand events in either, and five seconds of waiting for room. -/
def BusSettings.standard : BusSettings :=
  { maxEvents := .int 1000, queueSize := 1000, enqueueTimeout := 5 }

/-- The limits of the stock actions. -/
structure ActionSettings where
  httpTimeout : Value
  maxDelay : Value
  smtpTimeout : Value

/-- Ten seconds for requests, five for mail, and delays of at most half a minute. -/
def ActionSettings.standard : ActionSettings :=
  { httpTimeout := .float 10, maxDelay := .int 30000, smtpTimeout := .float 5 }

/-- Where notifications are delivered. -/
structure NotificationSettings where
  webhookUrls : Value
  smtpHost : Value
  smtpPort : Value
  smtpUser : Value
  smtpPassword : Value
  smtpFrom : Value
  smtpTo : Value
  smtpStartTls : Bool
  telegramToken : Value
  telegramChat : Value
  smsUrl : Value
  smsTo : Value
  slackUrl : Value
  slackChannel : Value

/-- No deliveries but to the log. -/
def NotificationSettings.standard : NotificationSettings :=
  { webhookUrls := .list [], smtpHost := .null, smtpPort := .int 587, smtpUser := .null,
    smtpPassword := .null, smtpFrom := .null, smtpTo := .list [], smtpStartTls := true,
    telegramToken := .null, telegramChat := .null, smsUrl := .null, smsTo := .list [],
    slackUrl := .null, slackChannel := .null }

/-- All settings, and the definitions of the rules and flows to start with. -/
structure Settings where
  broker : BrokerSettings
  bus : BusSettings
  actions : ActionSettings
  notifications : NotificationSettings
  logLevel : Value
  logFile : Value
  rules : Value
  flows : Value

/-- The settings of a hub without a configuration. -/
def Settings.standard : Settings :=
  { broker := .standard, bus := .standard, actions := .standard, notifications := .standard,
    logLevel := .text "INFO", logFile := .null, rules := .list [], flows := .list [] }

/-! ## As values -/

/-- The settings as a value. -/
def BrokerSettings.toValue (s : BrokerSettings) : Value :=
  .map [("enabled", .bool s.enabled), ("host", s.host), ("port", s.port),
    ("username", s.username), ("password", s.password), ("client_id", s.clientId),
    ("publish_timeout_sec", s.publishTimeout)]

/-- The settings as a value. -/
def BusSettings.toValue (s : BusSettings) : Value :=
  .map [("max_events", s.maxEvents), ("queue_size", .int s.queueSize),
    ("enqueue_timeout_sec", .float s.enqueueTimeout)]

/-- The settings as a value. -/
def ActionSettings.toValue (s : ActionSettings) : Value :=
  .map [("http_timeout_sec", s.httpTimeout), ("max_delay_ms", s.maxDelay),
    ("smtp_timeout_sec", s.smtpTimeout)]

/-- The settings as a value. -/
def NotificationSettings.toValue (s : NotificationSettings) : Value :=
  .map [("webhook_urls", s.webhookUrls), ("smtp_host", s.smtpHost),
    ("smtp_port", s.smtpPort), ("smtp_user", s.smtpUser), ("smtp_password", s.smtpPassword),
    ("smtp_from", s.smtpFrom), ("smtp_to", s.smtpTo), ("smtp_starttls", .bool s.smtpStartTls),
    ("telegram_bot_token", s.telegramToken), ("telegram_chat_id", s.telegramChat),
    ("sms_webhook_url", s.smsUrl), ("sms_to", s.smsTo), ("slack_webhook_url", s.slackUrl),
    ("slack_channel", s.slackChannel)]

/-- The settings as a value. -/
def Settings.toValue (s : Settings) : Value :=
  .map [("mqtt", s.broker.toValue), ("event_bus", s.bus.toValue), ("actions", s.actions.toValue),
    ("notifications", s.notifications.toValue), ("log_level", s.logLevel), ("log_file", s.logFile),
    ("rules", s.rules), ("flows", s.flows)]

end EventHub
