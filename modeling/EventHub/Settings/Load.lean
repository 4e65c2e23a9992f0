import EventHub.Settings.Basic
import EventHub.Text.LetterCase
import EventHub.Text.Quoted
import EventHub.Value.Coerce

/-!
# Loading settings

Settings come from a configuration document and from the environment, which wins wherever it has
a say. Numbers and truth values may be written as texts, and lists of addresses as texts with
commas.

* `Settings.load`: the settings of a document and an environment.
* `fromEnvironment`, `listSetting`: how the environment wins.
* `fromEnvironment_of_set`: a variable that is set hides the document.
* `normalPath`, `flawOf`, `PathFlaw.fault`: a path that leads to no file, and what is wrong with it.
-/

namespace EventHub

/-! ## Paths without a file -/

/-- A path in its plain form: without empty parts and without parts that stay where they are.
Two slashes at the start, and no more, stay two. -/
def normalPath (path : String) : String :=
  let parts := (path.splitOn "/").filter fun part => !part.isEmpty && part != "."
  let root :=
    if path.startsWith "//" && !path.startsWith "///" then "//"
    else if path.startsWith "/" then "/"
    else ""
  let plain := root ++ String.intercalate "/" parts
  if plain.isEmpty then "." else plain

/-- What is wrong with a path that leads to no file. -/
inductive PathFlaw where
  | missing
  | folder
  | tooLong
deriving DecidableEq, Repr

/-- The most bytes of a name in a path. -/
def maxNameBytes : Nat := 255

/-- The most bytes of a path. -/
def maxPathBytes : Nat := 4095

/-- Does a part of a path lead to a folder that is always there? -/
def isWayUp (part : String) : Bool := part.isEmpty || part == "." || part == ".."

/-- What is wrong with a path in its plain form. The ways up lead to folders, and the first name
is that of nothing. -/
def flawOf (path : String) : PathFlaw :=
  if maxPathBytes < path.utf8ByteSize then .tooLong
  else match (path.splitOn "/").find? fun part => !isWayUp part with
    | none => .folder
    | some name => if maxNameBytes < name.utf8ByteSize then .tooLong else .missing

/-- The fault of opening a path in its plain form. -/
def PathFlaw.fault (path : String) : PathFlaw → Fault
  | missing => .raised .fileNotFound ("[Errno 2] No such file or directory: " ++ Text.quoted path)
  | folder => .raised .isDirectory ("[Errno 21] Is a directory: " ++ Text.quoted path)
  | tooLong => .raised .system ("[Errno 36] File name too long: " ++ Text.quoted path)

/-! ## Settings -/

/-- The variables of the environment. -/
abbrev Environment := List (String × String)

/-- An option of a section of the document, which has to be a map. -/
def sectionOption (part : Value) (name : String) (default : Value) : Except Fault Value :=
  match part.fields? with
  | some fields => .ok (Value.getOr fields name default)
  | none => .error (.noMember part.typeName "get")

/-- A section of the document; what counts as false is an empty section. -/
def sectionOf (document : Value) (name : String) : Except Fault Value := do
  .ok ((← sectionOption document name (.map [])).orElse (.map []))

/-- The value of a variable, or a default. -/
def fromEnvironment (env : Environment) (name : String) (default : Value) : Value :=
  match Assoc.get? env name with
  | some s => .text s
  | none => default

/-- The value of a variable, or an option of a section. -/
def setting (env : Environment) (name : String) (part : Value) (key : String)
    (default : Value) : Except Fault Value := do
  .ok (fromEnvironment env name (← sectionOption part key default))

/-- The parts of a text between commas, without the blanks around them and without empty parts. -/
def commaParts (s : String) : List String :=
  ((s.toList.splitOn ',').map fun part => Text.strip (String.ofList part)).filter
    fun part => !part.isEmpty

/-- An option that is a list; what counts as false is an empty list. -/
def listOption (part : Value) (name : String) : Except Fault (List Value) := do
  ((← sectionOption part name (.list [])).orElse (.list [])).toList

/-- The parts that a variable lists, or an option when it lists none. -/
def listSetting (env : Environment) (name : String) (part : Value) (key : String) :
    Except Fault (List Value) :=
  match (Assoc.get? env name).map commaParts with
  | some (p :: ps) => .ok ((p :: ps).map .text)
  | _ => listOption part key

/-- The words that mean yes. -/
def yesWords : List String := ["1", "true", "yes", "on"]

/-- A truth value, null standing for the default. -/
def truthOf (v : Value) (default : Bool) : Bool :=
  match v with
  | .null => default
  | .bool b => b
  | v => yesWords.contains (Text.lower (Text.strip v.plain))

/-- The settings of the broker. -/
def loadBroker (env : Environment) (document : Value) : Except Fault BrokerSettings := do
  let part ← sectionOf document "mqtt"
  let enabled := truthOf (← setting env "MQTT_ENABLED" part "enabled" .null) true
  let host ← setting env "MQTT_BROKER_HOST" part "host" (.text "localhost")
  let port ← (← setting env "MQTT_BROKER_PORT" part "port" (.int 1883)).toInt
  let username ← setting env "MQTT_USERNAME" part "username" .null
  let password ← setting env "MQTT_PASSWORD" part "password" .null
  let clientId ← sectionOption part "client_id" .null
  let timeout ← (← setting env "MQTT_PUBLISH_TIMEOUT_SEC" part "publish_timeout_sec"
    (.float 5)).toFloat
  .ok { enabled, host, port := .int port, username, password, clientId,
        publishTimeout := .float timeout }

/-- The settings of the bus. -/
def loadBus (document : Value) : Except Fault BusSettings := do
  let part ← sectionOf document "event_bus"
  let maxEvents ← (← sectionOption part "max_events" (.int 1000)).toInt
  let queueSize ← (← sectionOption part "queue_size" (.int 1000)).toInt
  let enqueueTimeout ← (← sectionOption part "enqueue_timeout_sec" (.float 5)).toFloat
  .ok { maxEvents := .int maxEvents, queueSize, enqueueTimeout }

/-- The settings of the stock actions. -/
def loadActions (env : Environment) (document : Value) : Except Fault ActionSettings := do
  let part ← sectionOf document "actions"
  let httpTimeout ← (← setting env "LG_HTTP_TIMEOUT_SEC" part "http_timeout_sec"
    (.float 10)).toFloat
  let maxDelay ← (← sectionOption part "max_delay_ms" (.int 30000)).toInt
  let smtpTimeout ← (← sectionOption part "smtp_timeout_sec" (.float 5)).toFloat
  .ok { httpTimeout := .float httpTimeout, maxDelay := .int maxDelay,
        smtpTimeout := .float smtpTimeout }

/-- The settings of notifications. -/
def loadNotifications (env : Environment) (document : Value) :
    Except Fault NotificationSettings := do
  let part ← sectionOf document "notifications"
  let smtp ← sectionOf part "smtp"
  let telegram ← sectionOf part "telegram"
  let sms ← sectionOf part "sms"
  let slack ← sectionOf part "slack"
  let webhookUrls ← listSetting env "NOTIFY_WEBHOOK_URLS" part "webhook_urls"
  let smtpHost ← setting env "SMTP_HOST" smtp "host" .null
  let smtpPort ← (← setting env "SMTP_PORT" smtp "port" (.int 587)).toInt
  let smtpUser ← setting env "SMTP_USER" smtp "user" .null
  let smtpPassword ← setting env "SMTP_PASSWORD" smtp "password" .null
  let smtpFrom ← setting env "SMTP_FROM" smtp "from" .null
  let smtpTo ← listSetting env "SMTP_TO" smtp "to"
  let smtpStartTls := truthOf (← setting env "SMTP_STARTTLS" smtp "starttls" .null) true
  let telegramToken ← setting env "TELEGRAM_BOT_TOKEN" telegram "bot_token" .null
  let telegramChat ← setting env "TELEGRAM_CHAT_ID" telegram "chat_id" .null
  let smsUrl ← setting env "SMS_WEBHOOK_URL" sms "webhook_url" .null
  let smsTo ← listSetting env "SMS_TO" sms "to"
  let slackUrl ← setting env "SLACK_WEBHOOK_URL" slack "webhook_url" .null
  let slackChannel ← setting env "SLACK_CHANNEL" slack "channel" .null
  .ok { webhookUrls := .list webhookUrls, smtpHost, smtpPort := .int smtpPort, smtpUser,
        smtpPassword, smtpFrom, smtpTo := .list smtpTo, smtpStartTls, telegramToken,
        telegramChat, smsUrl, smsTo := .list smsTo, slackUrl, slackChannel }

/-- The settings of a configuration document and an environment. -/
def Settings.ofDocument (env : Environment) (document : Value) : Except Fault Settings := do
  let document := document.orElse (.map [])
  let broker ← loadBroker env document
  let bus ← loadBus document
  let actions ← loadActions env document
  let notifications ← loadNotifications env document
  let logging ← sectionOf document "logging"
  let logLevel ← setting env "LG_LOG_LEVEL" logging "level" (.text "INFO")
  let logFile ← setting env "LG_LOG_FILE" logging "file" .null
  let rules ← listOption document "rules"
  let flows ← listOption document "flows"
  .ok { broker, bus, actions, notifications, logLevel, logFile,
        rules := .list rules, flows := .list flows }

/-- The settings of the configuration document at a path, if there is one. -/
def Settings.load (env : Environment) (document? : String → Option Value) :
    Value → Except Fault Settings
  | .text path =>
    match document? path with
    | some document => Settings.ofDocument env document
    | none =>
      let path := normalPath path
      match flawOf path with
      | .missing => .error (.raised .fileNotFound s!"Configuration file {path} not found")
      | flaw => .error (flaw.fault path)
  | v =>
    .error (.raised .type s!"expected str, bytes or os.PathLike object, not {v.typeName}")

theorem fromEnvironment_of_set {env : Environment} {name s : String}
    (h : Assoc.get? env name = some s) (v w : Value) :
    fromEnvironment env name v = fromEnvironment env name w := by
  simp [fromEnvironment, h]

end EventHub
