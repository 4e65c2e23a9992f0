import EventHub.Actions.Web
import EventHub.Mail.Header

/-!
# Delivering notifications

A notification goes out on channels: to the log, to web hooks, by mail, by messenger, as a short
message, or to a chat room. A channel that fails does not keep the others from being tried.

* `deliverOn`: one channel.
* `dispatchThrough`: a row of channels, with a status for each.
* `postEach`: the same document to many addresses; it fails only when every post fails.
-/

namespace EventHub

variable {α : Type}

/-- The part of the hub that these lines of the log are from. -/
def notificationPart : String := "notifications"

/-- What is to be told. -/
structure Notification where
  message : Value
  priority : Value
  subject : Value
  source : Value
  recipients : Value
  room : Value
  attachments : Value

/-- A notification of ordinary priority with nothing but a message. -/
def Notification.plain (message : Value) : Notification :=
  { message, priority := .text "normal", subject := .null, source := .null,
    recipients := .list [], room := .null, attachments := .null }

/-- The channels of notifications. -/
inductive NotificationChannel
  | log | webhook | email | telegram | sms | slack
deriving DecidableEq, Repr

/-- The name of a channel. -/
def NotificationChannel.name : NotificationChannel → String
  | log => "log"
  | webhook => "webhook"
  | email => "email"
  | telegram => "telegram"
  | sms => "sms"
  | slack => "slack"

/-- All channels. -/
def NotificationChannel.all : List NotificationChannel :=
  [log, webhook, email, telegram, sms, slack]

/-- The channels that a service has. -/
def NotificationService.channels (s : NotificationService) : List NotificationChannel :=
  if s.logOnly then [.log] else NotificationChannel.all

/-- The channel of a name, if the service has it. -/
def NotificationService.channel? (s : NotificationService) (name : String) :
    Option NotificationChannel :=
  s.channels.find? fun c => c.name == name

/-- Texts with a comma between them; `index` is the place of the first. -/
def joinTexts (index : Nat) : List Value → Except Fault (List String)
  | [] => .ok []
  | .text s :: rest => do .ok (s :: (← joinTexts (index + 1) rest))
  | v :: _ => .error (.raised .type
      s!"sequence item {index}: expected str instance, {v.typeName} found")

/-- Fails with a text. -/
def refuse {β : Type} (text : String) : Task α β := throw (.raised .runtime text)

/-! ## Web hooks and short messages -/

/-- Posts a document for every target in order and gives the targets at which a request failed.
Any other fault ends the posting. -/
def postEach (title : String) (url document : Value → Value) (timeout : Value) :
    List Value → Task α (List Value)
  | [] => return []
  | target :: rest => do
    match ← Task.attempt (post (url target) (document target) timeout) with
    | .ok _ => postEach title url document timeout rest
    | .error fault =>
      if fault.isA requestFault then
        Task.log .warning notificationPart
          (title ++ " notify failed (" ++ target.plain ++ "): " ++ fault.message)
        return target :: (← postEach title url document timeout rest)
      else throw fault

/-- Fails when every target failed. -/
def failIfAll (title : String) (targets failures : List Value) : Task α Unit := do
  if failures.length == targets.length then
    let names ← Task.ofExcept (joinTexts 0 failures)
    refuse (title ++ " deliveries failed: " ++ commaList names)

/-- What a web hook is told. -/
def Notification.document (n : Notification) : Value :=
  .map [("message", n.message), ("priority", n.priority), ("subject", n.subject),
    ("source", n.source)]

/-- Tells every web hook. -/
def sendWebhook (s : NotificationService) (n : Notification) : Task α Unit := do
  let urls := s.webhookUrls
  if urls.isEmpty then refuse "No webhook URLs configured"
  let failures ← postEach "Webhook" id (fun _ => n.document) s.httpTimeout urls
  failIfAll "All webhook" urls failures

/-- The short message to a number, as the gateway is given it. -/
def Notification.shortMessage (n : Notification) (number : Value) : Value :=
  .map [("to", number), ("message", n.message), ("priority", n.priority)]

/-- The numbers that a short message goes to: those that are given and not empty, or else those
configured. -/
def NotificationService.numbersFor (s : NotificationService) (given : List Value) : List Value :=
  let named := given.filter Value.truthy
  if named.isEmpty then s.smsTo else named

/-- Sends a short message to every recipient: those of the notification, or those configured. -/
def sendShortMessages (s : NotificationService) (n : Notification) : Task α Unit := do
  if !s.settings.smsUrl.truthy then refuse "SMS gateway URL not configured"
  let numbers := s.numbersFor (← Task.ofExcept n.recipients.toList)
  if numbers.isEmpty then refuse "No SMS recipients"
  let failures ←
    postEach "SMS" (fun _ => s.settings.smsUrl) n.shortMessage s.httpTimeout numbers
  failIfAll "All SMS" numbers failures

/-! ## Mail -/

/-- The addresses without blanks around them; empty ones are left out. -/
def addressTexts : List Value → Except Fault (List String)
  | [] => .ok []
  | v :: rest =>
    if !v.truthy then addressTexts rest
    else match v with
      | .text s => do
        let more ← addressTexts rest
        let address := Text.strip s
        .ok (if address.isEmpty then more else address :: more)
      | v => .error (.noMember v.typeName "strip")

/-- A command of a mail session. -/
def mailCommand (c : MailCommand) : Task α Unit := do Task.contact ((← get).outside.mail c)

/-- The commands between the greeting and the farewell of a mail session. -/
def mailSession (settings : NotificationSettings) (subject sender recipients body : String) :
    Task α Unit := do
  mailCommand .hello
  if settings.smtpStartTls then
    mailCommand .startTls
    mailCommand .hello
  if settings.smtpUser.truthy && settings.smtpPassword.truthy then
    mailCommand (.login settings.smtpUser settings.smtpPassword)
  mailCommand (.send subject sender recipients body)

/-- The first value that counts as true, or the last. -/
def firstTruthy : List Value → Value
  | [] => .null
  | [v] => v
  | v :: rest => if v.truthy then v else firstTruthy rest

/-- The sender of mails without one. -/
def standardSender : Value := .text "lookingglass@localhost"

/-- Sends a mail. The session ends with a farewell even when a command fails. -/
def sendMail (s : NotificationService) (given subject body : Value) : Task α Unit := do
  let settings := s.settings
  if !settings.smtpHost.truthy then refuse "SMTP is not configured"
  let recipients ← Task.ofExcept (do addressTexts (← given.toList))
  if recipients.isEmpty then refuse "No email recipients"
  let subject ← Task.ofExcept (Mail.subjectHeader subject)
  let sender ← Task.ofExcept (Mail.addressHeader
    (firstTruthy [settings.smtpFrom, settings.smtpUser, standardSender]))
  let recipients ← Task.ofExcept (Mail.addressHeader (.text (commaList recipients)))
  let body ← Task.ofExcept (Mail.bodyText body)
  mailCommand (.connect settings.smtpHost settings.smtpPort s.smtpTimeout)
  let outcome ← Task.attempt (mailSession settings subject sender recipients body)
  mailCommand .quit
  Task.ofExcept outcome

/-! ## Channels -/

/-- Sends a notification on one channel. -/
def deliverOn (s : NotificationService) (n : Notification) : NotificationChannel → Task α Unit
  | .log => Task.log .info notificationPart
      ("Notification priority=" ++ n.priority.plain ++ " source=" ++ n.source.plain ++
        " message=" ++ n.message.plain)
  | .webhook => sendWebhook s n
  | .email =>
    let subject := if n.subject.truthy then n.subject
      else .text ("Looking Glass alert (" ++ n.priority.plain ++ ")")
    sendMail s s.settings.smtpTo subject n.message
  | .telegram => do
    let settings := s.settings
    if !settings.telegramToken.truthy || !settings.telegramChat.truthy then
      refuse "Telegram bot token or chat id missing"
    post (.text ("https://api.telegram.org/bot" ++ settings.telegramToken.plain ++ "/sendMessage"))
      (.map [("chat_id", settings.telegramChat), ("text", n.message),
        ("parse_mode", .text "HTML")]) s.httpTimeout
  | .sms => sendShortMessages s n
  | .slack => do
    if !s.settings.slackUrl.truthy then refuse "Slack webhook URL not configured"
    let room := if n.room.truthy then n.room else s.settings.slackChannel
    let document : Fields := [("text", n.message)] ++
      (if room.truthy then [("channel", room)] else []) ++
      (if n.attachments.truthy then [("attachments", n.attachments)] else [])
    post s.settings.slackUrl (.map document) s.httpTimeout

/-- Who delivers on a channel, by its name. -/
abbrev Providers (α : Type) := String → Option (Notification → Task α Unit)

/-- The providers of a service. -/
def NotificationService.providers (s : NotificationService) : Providers α := fun name =>
  (s.channel? name).map fun c n => deliverOn s n c

/-- The status of a delivery on a channel. -/
def tryChannel (channel : String) (delivery : Task α Unit) : Task α String := do
  match ← Task.attempt delivery with
  | .ok _ => return "sent"
  | .error fault =>
    Task.log .warning notificationPart (s!"Notify via {channel} failed: " ++ fault.message)
    return "failed: " ++ fault.message

/-- Tries the channels in order and gives the status of each, after those already known. -/
def dispatchFrom (providers : Providers α) (n : Notification) (known : List (Value × Value)) :
    List Value → Task α (List (Value × Value))
  | [] => return known
  | v :: rest => do
    if let some name := v.unhashable? then throw (.type (.unhashable name))
    let status ← match v with
      | .text channel => match providers channel with
        | some deliver => tryChannel channel (deliver n)
        | none => pure "unsupported"
      | _ => pure "unsupported"
    dispatchFrom providers n (Value.putEntry known v (.text status)) rest

/-- Sends a notification on every channel and gives the status of each. -/
def dispatchThrough (providers : Providers α) (n : Notification) (channels : List Value) :
    Task α (List (Value × Value)) :=
  dispatchFrom providers n [] channels

/-- Sends a notification through the providers of a service. -/
def dispatchNotification (s : NotificationService) (n : Notification) (channels : List Value) :
    Task α (List (Value × Value)) :=
  dispatchThrough s.providers n channels

/-- Is the status that of a delivery that succeeded? -/
def isSent : Value → Bool
  | .text "sent" => true
  | _ => false

end EventHub
