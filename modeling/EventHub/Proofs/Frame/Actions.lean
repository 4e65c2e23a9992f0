import EventHub.Actions.Desk
import EventHub.Proofs.Frame

/-!
# Frames of actions

Actions stay in every frame that is open to them, in which the functions of the application stay
(`Host.ActsWithin`) and in which notifications are told (`Host.ReportsWithin`): the stock actions where the
frame does not see the traces of handlers (`Frame.OpenToTraces`), and where it also lets the desk count runs
(`Frame.OpenToRuns`) the conditional action with its branches however deep (`within_runHandler`), and
invocations (`within_executeCall`).
-/

namespace EventHub

open EventHub.Task

variable {α β : Type}

/-- The actions of the application stay in the frame. -/
def Host.ActsWithin (host : Host α) (F : Frame α) : Prop :=
  ∀ name v ctx, Within F (host.app.act host.receive name v ctx)

/-- Whatever is announced under the topic, its reception stays in the frame. -/
def Host.TellsWithin (host : Host α) (F : Frame α) (topic : String) : Prop :=
  ∀ n, Within F (announce host topic n)

/-- The event that a notice is, if it is one. -/
def Notice.events : Notice → List Event
  | .event e => [e]
  | _ => []

theorem Notice.events_rule (r : Rule) : (Notice.rule r).events = [] := rfl

@[grind =]
theorem Notice.events_value (v : Value) : (Notice.value v).events = [] := rfl

/-- What is announced under the topic, its reception stays in the frame unless it is an event: the hub
announces none but those that it dispatches. -/
def Host.ReportsWithin (host : Host α) (F : Frame α) (topic : String) : Prop :=
  ∀ n : Notice, n.events = [] → Within F (announce host topic n)

variable {F : Frame α} {host : Host α}

theorem Host.TellsWithin.reports {topic : String} (ht : host.TellsWithin F topic) :
    host.ReportsWithin F topic := fun n _ => ht n

@[grind ←]
theorem Host.ActsWithin.act (ha : host.ActsWithin F) (name : String) (v : Value) (ctx : Context) :
    Within F (host.app.act host.receive name v ctx) := ha name v ctx

section Plain

variable (hF : F.OpenToTraces)

/-! ## Contacts with the outside -/

@[grind ←]
theorem within_require (action : StockAction) (params : Fields) (names : List String) :
    Within F (require (α := α) action params names) := by
  unfold require
  grind

@[grind ←]
theorem within_findConnector (ctx : Context) (id : Value) :
    Within F (findConnector (α := α) ctx id) := by
  unfold findConnector
  grind

@[grind ←]
theorem within_brokerConnector (ctx : Context) : Within F (brokerConnector (α := α) ctx) := by
  unfold brokerConnector
  grind

@[grind ←]
theorem within_refuse (text : String) : Within F (refuse text : Task α β) := Within.throw _

@[grind ←]
theorem within_failIfAll (title : String) (targets failures : List Value) :
    Within F (failIfAll (α := α) title targets failures) := by
  unfold failIfAll
  grind

include hF

@[grind ←]
theorem within_request (method : String) (url : Value) (options : Fields) :
    Within F (request (α := α) method url options) := by
  unfold request
  grind

@[grind ←]
theorem within_post (url document timeout : Value) :
    Within F (post (α := α) url document timeout) := by
  unfold post
  grind

@[grind ←]
theorem within_postEach (title : String) (url document : Value → Value) (timeout : Value)
    (targets : List Value) : Within F (postEach (α := α) title url document timeout targets) := by
  induction targets with
  | nil => exact Within.pure _
  | cons target rest ih =>
    unfold postEach
    grind

@[grind ←]
theorem within_mailCommand (c : MailCommand) : Within F (mailCommand (α := α) c) := by
  unfold mailCommand
  grind

@[grind ←]
theorem within_mailSession (settings : NotificationSettings)
    (subject sender recipients body : String) :
    Within F (mailSession (α := α) settings subject sender recipients body) := by
  unfold mailSession
  grind

@[grind ←]
theorem within_sendMail (s : NotificationService) (given subject body : Value) :
    Within F (sendMail (α := α) s given subject body) := by
  unfold sendMail
  extract_lets settings configured
  have hc (r : Unit) : Within F (configured r) := by
    refine Within.bind (Within.ofExcept _) fun recipients => ?_
    extract_lets addressed
    have ha (r : Unit) : Within F (addressed r) := by
      refine Within.bind (Within.ofExcept _) fun subject => ?_
      refine Within.bind (Within.ofExcept _) fun sender => ?_
      grind
    grind
  grind

/-! ## Notifications -/

@[grind ←]
theorem within_deliverOn (s : NotificationService) (n : Notification) (c : NotificationChannel) :
    Within F (deliverOn (α := α) s n c) := by
  cases c with
  | log => exact Within.log hF _ _ _
  | webhook =>
    unfold deliverOn sendWebhook
    grind
  | email =>
    unfold deliverOn
    grind
  | telegram =>
    unfold deliverOn
    grind
  | sms =>
    unfold deliverOn sendShortMessages
    grind
  | slack =>
    unfold deliverOn
    grind

@[grind ←]
theorem within_tryChannel (channel : String) {delivery : Task α Unit} (hd : Within F delivery) :
    Within F (tryChannel channel delivery) := by
  unfold tryChannel
  grind

/-- Whatever the providers do in the frame, sending through them stays in it. -/
theorem within_dispatchThrough {providers : Providers α} {n : Notification}
    (hp : ∀ channel deliver, providers channel = some deliver → Within F (deliver n))
    (channels : List Value) : Within F (dispatchThrough providers n channels) := by
  unfold dispatchThrough
  generalize [] = known
  induction channels generalizing known with
  | nil => exact Within.pure _
  | cons v rest ih =>
    unfold dispatchFrom
    grind

theorem within_provider (s : NotificationService) (n : Notification) (channel : String)
    (deliver : Notification → Task α Unit) (hp : s.providers channel = some deliver) :
    Within F (deliver n) := by
  obtain ⟨c, -, rfl⟩ := Option.map_eq_some_iff.1 hp
  exact within_deliverOn hF s n c

@[grind ←]
theorem within_dispatchNotification (s : NotificationService) (n : Notification)
    (channels : List Value) : Within F (dispatchNotification (α := α) s n channels) :=
  within_dispatchThrough hF (within_provider hF s n) channels

@[grind ←]
theorem within_deliverSurely (s : NotificationService) (n : Notification)
    (c : NotificationChannel) : Within F (deliverSurely (α := α) s n c) := by
  unfold deliverSurely
  grind

/-! ## Entries of the cache -/

@[grind ←]
theorem within_modifyCache (f : Cache Key Float Value → Cache Key Float Value) :
    Within F (modifyCache (α := α) f) := Within.change fun h => hF.cache h _

@[grind ←]
theorem within_storeValue (key value ttl : Value) :
    Within F (storeValue (α := α) key value ttl) := by
  unfold storeValue
  grind

end Plain

/-! ## Stock actions -/

section Stock

variable (hF : F.OpenToTraces) (ha : host.ActsWithin F) (hn : host.ReportsWithin F Topic.notification)

include hF in
/-- A notice of an outlet: it is recorded, or told. -/
@[grind ←]
theorem within_emit {topic : String} (ht : host.ReportsWithin F topic) (outlet : Option Outlet)
    {n : Notice} (hne : n.events = []) : Within F (emit host outlet topic n) := by
  unfold emit
  split
  · exact Within.pure _
  · exact Within.record hF _
  · exact ht n hne

include ha in
@[grind ←]
theorem within_applyTransform (source spec : Value) (ctx : Context) :
    Within F (applyTransform host source spec ctx) := by
  unfold applyTransform
  grind

include hF ha hn in
@[grind ←]
theorem within_runStock (action : StockAction) (params : Fields) (ctx : Context) :
    Within F (runStock host action params ctx) := by
  unfold runStock
  refine Within.bind Within.get fun h => ?_
  -- One case for each action: unfolded once, it is made of parts that are known to stay in the frame.
  cases action with
  | mqttPublish =>
    simp only [runMqttPublish]
    grind
  | mqttSubscribe =>
    simp only [runMqttSubscribe]
    grind
  | sendNotification =>
    -- `grind` does not find the providers by itself.
    have hdispatch (n : Notification) (channels : List Value) :=
      within_dispatchThrough hF (within_provider hF h.desk.service n) channels
    simp only [runSendNotification, sendThrough]
    grind
  | sendSms =>
    simp only [runSendSms]
    grind
  | slackNotify =>
    simp only [runSlackNotify]
    grind
  | sendEmail =>
    simp only [runSendEmail]
    grind
  | connectorExecute =>
    simp only [runConnectorExecute]
    grind
  | connectorConnect =>
    simp only [runConnectorConnect]
    grind
  | connectorDisconnect =>
    simp only [runConnectorDisconnect]
    grind
  | logEvent =>
    simp only [runLogEvent]
    grind
  | storeData =>
    simp only [runStoreData]
    grind
  | httpRequest =>
    simp only [runHttpRequest]
    grind
  | delay =>
    simp only [runDelay]
    grind
  | transformData =>
    simp only [runTransformData]
    grind
  | conditional => exact Within.pure _

end Stock

/-! ## The action desk -/

/-- The frame lets handlers leave their traces and the desk count their runs. -/
structure Frame.OpenToRuns (F : Frame α) : Prop extends F.OpenToTraces where
  succeed : ∀ (h : Hub α) actionType started,
    F.allows h { h with desk := h.desk.succeed actionType started }
  fail : ∀ (h : Hub α) actionType started error,
    F.allows h { h with desk := h.desk.fail actionType started error }

@[grind →]
theorem Frame.OpenToActions.openToRuns (hF : F.OpenToActions) : F.OpenToRuns where
  toOpenToTraces := hF.toOpenToTraces
  succeed h _ _ := hF.deskCounters h _ _ _ _
  fail h _ _ _ := hF.deskCounters h _ _ _ _

instance (F : Frame α) : Coe F.OpenToActions F.OpenToRuns := ⟨Frame.OpenToActions.openToRuns⟩

section Desk

variable (hF : F.OpenToRuns) (ha : host.ActsWithin F) (hn : host.ReportsWithin F Topic.notification)

@[grind ←]
theorem within_findHandler (actionType : String) : Within F (findHandler (α := α) actionType) := by
  unfold findHandler
  grind

@[grind ←]
theorem within_branchOutcome (params : Fields) (ctx : Context) :
    Within F (branchOutcome host params ctx) := by
  unfold branchOutcome
  grind

@[grind ←]
theorem within_ranBranch (outcome : Bool) (branch result : Value) :
    Within F (ranBranch (α := α) outcome branch result) := by
  unfold ranBranch
  grind

include hF

/-- Counting a run changes the counters of the desk only. -/
@[grind ←]
theorem within_counted (actionType : String) (ctx : Context) {t : Task α Value}
    (ht : Within F t) : Within F (counted actionType ctx t) := by
  have htraces := hF.toOpenToTraces
  have hs (started : String) : Within F (modifyDesk (α := α) fun d => d.succeed actionType started) :=
    Within.change fun h => hF.succeed h _ _
  have hf (started error : String) :
      Within F (modifyDesk (α := α) fun d => d.fail actionType started error) :=
    Within.change fun h => hF.fail h _ _ _
  refine Within.bind Within.now fun started => ?_
  refine Within.bind (Within.attempt ht) fun r => ?_
  cases r with
  | ok v => exact Within.bind (hs started) fun _ => Within.pure v
  | error fault =>
    refine Within.bind (hf started _) fun _ => ?_
    grind

include ha hn

/-- A handler at work, whatever is nested in its parameters: the induction is on their depth, as
the recursion of the conditional action is. -/
@[grind ←]
theorem within_runHandler (handler : ActionHandler) (params : Fields) (ctx : Context) :
    Within F (runHandler host handler params ctx) := by
  fun_induction runHandler host handler params ctx with
  | case1 params name => exact Within.bind (ha name _ ctx) fun _ => Within.pure _
  | case2 params ih =>
    refine Within.bind (within_branchOutcome _ _) fun taken => ?_
    split
    · exact Within.bind Within.now fun _ => Within.pure _
    · rename_i branch hb
      split
      · exact Within.throw _
      · rename_i call hc
        refine Within.bind (within_findHandler _) fun inner => ?_
        exact Within.bind (within_counted hF _ _ (ih taken branch hb call hc inner)) fun _ =>
          within_ranBranch _ _ _
  | case3 params action hne => exact within_runStock hF.toOpenToTraces ha hn _ _ _

@[grind ←]
theorem within_executeCall (call : ActionInvocation) (ctx : Context) (resolve : Bool) :
    Within F (executeCall host call ctx resolve) := by
  refine Within.bind (within_findHandler _) fun handler => ?_
  refine Within.bind (Within.ofExcept _) fun params => ?_
  exact within_counted hF _ _ (within_runHandler hF ha hn _ _ _)

@[grind ←]
theorem within_executeAction (v : Value) (ctx : Context) (resolve : Bool) :
    Within F (executeAction host v ctx resolve) :=
  Within.bind (Within.ofExcept _) fun _ => within_executeCall hF ha hn _ _ _

end Desk

end EventHub
