import EventHub.Proofs.Actions.Fanout
import EventHub.Proofs.Actions.Shared
import EventHub.Proofs.Rules.Reload
import EventHub.Rehearsal.World

/-!
# Deliveries

What becomes of a notification, whoever delivers it: every channel is tried, the attempts are told of in one
record, and then it is decided whether they were enough.

* **Statuses** (`channelStatus_eq_sent`): a channel took a notification exactly if its provider returned.
* **Records** (`sendThrough_record`): the attempts of a notification, its record, and its end.
* **Web hooks and short messages** (`sendWebhook_posts`, `sendShortMessages_posts`): the posts to the
  configured addresses, and to the numbers.
* `deliveries_isolated`: all of them, for every pattern of results and faults.
-/

namespace EventHub

open EventHub.Task

variable {α : Type}

/-! ## Statuses -/

theorem channelStatus_eq_sent {r : Option (Except Fault Unit)} : channelStatus r = "sent" ↔ r = some (.ok ()) := by
  cases r with
  | none => simp [channelStatus]
  | some r =>
    cases r with
    | ok _ => simp [channelStatus]
    | error fault =>
      refine iff_of_false (fun h => ?_) fun h => by cases h
      have hfirst := congrArg (·.toList.head?) h
      simp [channelStatus] at hfirst

/-- One of the statuses is that of a channel that took the notification. -/
def SomeSent (statuses : Fields) : Prop := ∃ c, (c, Value.text "sent") ∈ statuses

theorem any_isSent {statuses : Fields} :
    (asEntries statuses).any (fun s => isSent s.2) = true ↔ SomeSent statuses := by
  rw [List.any_eq_true]
  constructor
  · rintro ⟨entry, hmem, hsent⟩
    obtain ⟨⟨c, v⟩, hstatus, rfl⟩ := List.mem_map.1 hmem
    unfold isSent at hsent
    split at hsent
    · rename_i hv
      obtain rfl : v = .text "sent" := hv
      exact ⟨c, hstatus⟩
    · cases hsent
  · rintro ⟨c, hmem⟩
    exact ⟨_, List.mem_map.2 ⟨_, hmem, rfl⟩, rfl⟩

/-! ## Records -/

/-- The parameters name the channels: one as a text, any number in a list, or none, which means the log. -/
inductive NamesChannels (params : Fields) : List String → Prop
  | one {c : String} (named : Value.get params "channels" = .text c) (some : c ≠ "") :
    NamesChannels params [c]
  | many {channels : List String} (named : Value.get params "channels" = .list (channels.map .text))
    (some : channels ≠ []) : NamesChannels params channels
  | log (none : (Value.get params "channels").truthy = false) : NamesChannels params ["log"]

section Records

variable {params : Fields} {ctx : Context} {channels : List String}

theorem NamesChannels.channelsOf_eq (hn : NamesChannels params channels) :
    channelsOf params = .ok (channels.map .text) := by
  unfold channelsOf Value.orElse
  cases hn with
  | one named some =>
    rw [named, if_pos (by simpa [Value.truthy] using some)]
    rfl
  | many named some =>
    rw [named, if_pos (by simpa [Value.truthy] using some)]
    rfl
  | log none =>
    rw [none]
    rfl

theorem NamesChannels.ne_nil (hn : NamesChannels params channels) : channels ≠ [] := by
  cases hn with
  | many _ some => exact some
  | _ => exact List.cons_ne_nil _ _

/-- A notification goes through: its channels are tried, its record tells the status of each channel and goes
to the outlet once, and after that it is a fault that no channel took it. -/
def GoesThrough (host : Host α) (providers : Providers α) (params : Fields) (ctx : Context)
    (outlet : Outlet) (channels : List String) (h : Hub α) : Prop :=
  ∃ attempts h₁ record,
    TriedAll providers (Notification.ofParams params ctx) channels attempts h h₁ ∧
    Value.get record "message" = (Notification.ofParams params ctx).message ∧
    Value.get record "deliveries" = .map (statusesOf channels attempts) ∧
    (outcome (sendThrough host providers params ctx) h).2 =
      (outcome (emit host (some outlet) Topic.notification (.value (.map record)))
        { h₁ with serial := h₁.serial + 1 }).2 ∧
    ((outcome (sendThrough host providers params ctx) h).1 = .ok (.map record) ∧
        SomeSent (statusesOf channels attempts) ∨
      (∃ text, (outcome (sendThrough host providers params ctx) h).1 = .error (.raised .runtime text)) ∧
        ¬ SomeSent (statusesOf channels attempts))

/-- The record of a notification tells its message and the status of each channel. -/
theorem record_tells (n : Notification) (id time : String) (named : List Value) (statuses : Fields) :
    ∃ record, n.record id time named (asEntries statuses) = .map record ∧
      Value.get record "message" = n.message ∧ Value.get record "deliveries" = .map statuses := by
  refine ⟨_, rfl, rfl, ?_⟩
  rw [ofDistinct_asEntries]
  rfl

/-- A notification with a message goes through, whatever its providers come to. -/
theorem sendThrough_goesThrough (host : Host α) (providers : Providers α) {outlet : Outlet}
    (hmessage : isBlankValue (Value.get params "message") = false) (houtlet : ctx.outlet = some outlet)
    (hn : NamesChannels params channels) (hd : channels.Nodup) (h : Hub α) :
    GoesThrough host providers params ctx outlet channels h := by
  obtain ⟨attempts, h₁, htried, hout⟩ :=
    dispatchThrough_tries providers (Notification.ofParams params ctx) hd h
  obtain ⟨record, hrecord, hrecordMessage, hdeliveries⟩ :=
    record_tells (Notification.ofParams params ctx) s!"notification-{idDigits (h₁.serial + 1)}" h₁.now.text
      (channels.map .text) (statusesOf channels attempts)
  have hid : outcome (Task.freshId "notification") h₁ =
      (.ok s!"notification-{idDigits (h₁.serial + 1)}", { h₁ with serial := h₁.serial + 1 }) := rfl
  have hnow : outcome (Task.now : Task α String) { h₁ with serial := h₁.serial + 1 } =
      (.ok h₁.now.text, { h₁ with serial := h₁.serial + 1 }) := rfl
  have hemit : outcome (emit host (some outlet) Topic.notification (.value (.map record)))
      { h₁ with serial := h₁.serial + 1 } = (.ok (), _) := outcome_emit_ok _ _ _ _
  have hsome : (asEntries (statusesOf channels attempts)).isEmpty = false := by
    simp [asEntries, statusesOf, hn.ne_nil]
  -- up to the record there is no fault
  have hrun : outcome (sendThrough host providers params ctx) h =
      outcome (do
        if !(asEntries (statusesOf channels attempts)).any (fun s => isSent s.2) then
          refuse ("Notification not delivered on any channel: " ++
            (Value.ofDistinct (asEntries (statusesOf channels attempts))).shown)
        return .map record)
        (outcome (emit host (some outlet) Topic.notification (.value (.map record)))
          { h₁ with serial := h₁.serial + 1 }).2 := by
    unfold sendThrough
    rw [outcome_bind_ok (outcome_require (by simpa using hmessage) h), hn.channelsOf_eq,
      outcome_bind_ok (outcome_ofExcept _ h), outcome_bind_ok hout, outcome_bind_ok hid,
      outcome_bind_ok hnow, hrecord, houtlet, outcome_bind_ok hemit, hsome]
    rfl
  refine ⟨attempts, h₁, record, htried, hrecordMessage, hdeliveries, ?_⟩
  rw [hrun]
  by_cases hsent : SomeSent (statusesOf channels attempts)
  · rw [any_isSent.2 hsent]
    exact ⟨rfl, .inl ⟨rfl, hsent⟩⟩
  · rw [Bool.eq_false_iff.2 (mt any_isSent.1 hsent)]
    exact ⟨rfl, .inr ⟨⟨_, rfl⟩, hsent⟩⟩

end Records

/-! ## Web hooks and short messages -/

/-- A task makes an attempt at every target in turn, each fails only by a request, and the task fails exactly
if all of them do. -/
def TriesEach (t : Task α Unit) (attempt : Value → Task α Unit) (text : Value → Fault → String)
    (targets : List Value) (h : Hub α) : Prop :=
  ∃ attempts h₁, Assoc.keys attempts = targets ∧ InTurn attempt text attempts h h₁ ∧
    (∀ a ∈ attempts, ByRequest a.2) ∧ (outcome t h).2 = h₁ ∧
    ((outcome t h).1.isOk = false ↔ ∀ a ∈ attempts, a.2.isOk = false)

section Posts

variable {s : NotificationService} {n : Notification} {h : Hub α}

/-- A task that refuses when there is no target makes no attempt, and all of none failed. -/
theorem triesEach_nil {t : Task α Unit} {attempt : Value → Task α Unit} {text : Value → Fault → String}
    {fault : Fault} (ht : outcome t h = (.error fault, h)) : TriesEach t attempt text [] h :=
  ⟨[], h, rfl, .none h, nofun, congrArg Prod.snd ht, iff_of_true (by rw [ht]; rfl) nofun⟩

/-- Posts to all targets that fail when all of them do. -/
theorem triesEach_posts (ho : h.outside.FailsByRequest) (title prefixed : String)
    (url document : Value → Value) (timeout : Value) (targets : List Value) :
    TriesEach (do failIfAll prefixed targets (← postEach title url document timeout targets))
      (fun t => post (url t) (document t) timeout) (postWarning title) targets h := by
  obtain ⟨attempts, h₁, rfl, hturn, hby, hout⟩ := postEach_all title url document timeout targets ho
  refine ⟨attempts, h₁, rfl, hturn, hby, ?_⟩
  rw [outcome_bind_ok hout]
  exact ⟨hub_failIfAll prefixed _ _ h₁, failIfAll_isOk prefixed attempts h₁⟩

/-- The numbers that the gateway is asked for: none without a gateway. -/
def NotificationService.smsTargets (s : NotificationService) (given : List Value) : List Value :=
  if s.settings.smsUrl.truthy then s.numbersFor given else []

theorem sendWebhook_triesEach (ho : h.outside.FailsByRequest) :
    TriesEach (sendWebhook s n) (fun url => post url n.document s.httpTimeout) (postWarning "Webhook")
      s.webhookUrls h := by
  unfold sendWebhook
  cases hurls : s.webhookUrls with
  | nil => exact triesEach_nil rfl
  | cons url rest => exact triesEach_posts ho "Webhook" "All webhook" id (fun _ => n.document) s.httpTimeout _

theorem sendShortMessages_refuses (hurl : s.settings.smsUrl.truthy = false) : outcome (sendShortMessages s n) h =
    (.error (.raised .runtime "SMS gateway URL not configured"), h) := by
  unfold sendShortMessages
  rw [hurl]
  rfl

/-- With a gateway, the posts to the numbers. -/
theorem sendShortMessages_eq (hurl : s.settings.smsUrl.truthy = true) {given : List Value}
    (hgiven : n.recipients = .list given) : sendShortMessages s n = (do
      if (s.numbersFor given).isEmpty then refuse "No SMS recipients"
      failIfAll "All SMS" (s.numbersFor given) (← postEach "SMS" (fun _ => s.settings.smsUrl) n.shortMessage
        s.httpTimeout (s.numbersFor given)) : Task α Unit) := by
  unfold sendShortMessages
  rw [hurl, hgiven]
  rfl

theorem sendShortMessages_triesEach (ho : h.outside.FailsByRequest) {given : List Value}
    (hgiven : n.recipients = .list given) :
    TriesEach (sendShortMessages s n)
      (fun number => post s.settings.smsUrl (n.shortMessage number) s.httpTimeout) (postWarning "SMS")
      (s.smsTargets given) h := by
  unfold NotificationService.smsTargets
  cases hurl : s.settings.smsUrl.truthy with
  | false => exact triesEach_nil (sendShortMessages_refuses hurl)
  | true =>
    rw [sendShortMessages_eq hurl hgiven, if_pos rfl]
    cases s.numbersFor given with
    | nil => exact triesEach_nil rfl
    | cons number rest =>
      exact triesEach_posts ho "SMS" "All SMS" (fun _ => s.settings.smsUrl) n.shortMessage s.httpTimeout _

end Posts

/-- Failures stay where they happen. A dispatch tries every channel that has a provider once, in order, and
tells the status of every channel. A notification goes through: its record goes to the outlet once, and then it
fails exactly if no channel took it. The web hooks and the gateway are posted to once per address and number,
in order, and fail exactly if all of the posts do. -/
theorem deliveries_isolated (host : Host α) (providers : Providers α) (s : NotificationService)
    (n : Notification) (h : Hub α) :
    (∀ channels : List String, channels.Nodup →
      ∃ attempts h', TriedAll providers n channels attempts h h' ∧
        outcome (dispatchThrough providers n (channels.map .text)) h =
          (.ok (asEntries (statusesOf channels attempts)), h')) ∧
    (∀ params ctx outlet channels, isBlankValue (Value.get params "message") = false →
      ctx.outlet = some outlet → NamesChannels params channels → channels.Nodup →
      GoesThrough host providers params ctx outlet channels h) ∧
    (h.outside.FailsByRequest →
      TriesEach (sendWebhook s n) (fun url => post url n.document s.httpTimeout) (postWarning "Webhook")
        s.webhookUrls h ∧
      ∀ given, n.recipients = .list given →
        TriesEach (sendShortMessages s n)
          (fun number => post s.settings.smsUrl (n.shortMessage number) s.httpTimeout) (postWarning "SMS")
          (s.smsTargets given) h) :=
  ⟨fun _ hd => dispatchThrough_tries providers n hd h,
    fun _ _ _ _ hmessage houtlet hn hd => sendThrough_goesThrough host providers hmessage houtlet hn hd h,
    fun ho => ⟨sendWebhook_triesEach ho, fun _ hgiven => sendShortMessages_triesEach ho hgiven⟩⟩

/-- Providers of which one fails, one delivers and one is missing. -/
def Providers.mixed : Providers Unit
  | "pager" => some fun _ => refuse "no answer"
  | "log" => some fun _ => pure ()
  | _ => none

/-- A hub in a world with an address that cannot be reached. -/
def Hub.halfReached : Hub Unit :=
  { Hub.atMidnight () with
    outside := Rehearsal.WebScript.outside
      ⟨[("http://a.example", .unreachable "ConnectionError" "no route")], .works⟩ }

theorem Hub.halfReached_failsByRequest : Hub.halfReached.outside.FailsByRequest := by
  intro r journal fault hr
  change (Rehearsal.WebScript.answer _ r.url).result = .error fault at hr
  unfold Rehearsal.WebScript.answer at hr
  split at hr
  · rw [Assoc.get?] at hr
    split at hr
    · cases hr
      rfl
    · cases hr
  · cases hr

/-- A service with two web hooks and a gateway. -/
def NotificationService.twoHooks : NotificationService :=
  { bare { NotificationSettings.standard with smsUrl := .text "http://sms.example" } .null .null with
    webhookUrls := [.text "http://a.example", .text "http://b.example"] }

theorem deliveries_isolated_mixed :
    let channels := ["pager", "fax", "log"]
    let params : Fields := [("message", .text "hi"), ("channels", .list (channels.map .text))]
    let ctx : Context := { Context.bare "" with outlet := some .journal }
    let n : Notification := { Notification.plain (.text "hi") with recipients := .list [.text "+1", .text ""] }
    let s := NotificationService.twoHooks
    (∃ attempts h', TriedAll .mixed n channels attempts Hub.halfReached h' ∧
      outcome (dispatchThrough .mixed n (channels.map .text)) Hub.halfReached =
        (.ok (asEntries (statusesOf channels attempts)), h')) ∧
    GoesThrough .deaf .mixed params ctx .journal channels Hub.halfReached ∧
    TriesEach (sendWebhook s n) (fun url => post url n.document .null) (postWarning "Webhook")
      [.text "http://a.example", .text "http://b.example"] Hub.halfReached ∧
    TriesEach (sendShortMessages s n)
      (fun number => post (.text "http://sms.example") (n.shortMessage number) .null) (postWarning "SMS")
      [.text "+1"] Hub.halfReached := by
  intro channels params ctx n s
  have hd : channels.Nodup := by decide
  obtain ⟨hdispatch, hsend, hposts⟩ := deliveries_isolated .deaf .mixed s n Hub.halfReached
  obtain ⟨hhooks, hnumbers⟩ := hposts Hub.halfReached_failsByRequest
  exact ⟨hdispatch channels hd, hsend params ctx .journal channels rfl rfl (.many rfl nofun) hd, hhooks,
    hnumbers [.text "+1", .text ""] rfl⟩

end EventHub
