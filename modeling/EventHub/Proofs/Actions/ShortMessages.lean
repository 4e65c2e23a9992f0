import EventHub.Proofs.Actions.Deliveries

/-!
# Whom a short message reaches

The action that sends a short message reports the numbers that it was given. It posts to those of them that
are not empty, and where nothing is left, to the configured ones.

* **Posts in the journal** (`Outside.RecordsRequests`, `InTurn.effects`): in a world that records every
  request, posts that are made in turn are the journal's newest entries.
* **The gateway** (`sendShortMessages_effects`): the posts to numbers, up to the first that fails by
  something else than a request.
* **One channel** (`outcome_deliverSurely`): a delivery that has to be taken.
* `runSendSms_contacts`: the numbers that are posted to against those that are reported.
-/

namespace EventHub

open EventHub.Task

variable {α ι : Type}

/-! ## Posts in the journal -/

/-- The world records every request. -/
def Outside.RecordsRequests (o : Outside) : Prop :=
  ∀ r journal, (o.http r journal).2 = .http r.method r.url r.options :: journal

/-- A post, as it is recorded. -/
def postEffect (url document timeout : Value) : Effect :=
  .http "POST" url [("json", document), ("timeout", timeout)]

theorem hub_post {h : Hub α} (ho : h.outside.RecordsRequests) (url document timeout : Value) :
    (outcome (post url document timeout) h).2 =
      { h with effects := postEffect url document timeout :: h.effects } := by
  rw [outcome_post]
  dsimp only
  rw [ho]
  rfl

/-- Tasks that each record one effect, run in turn. -/
theorem InTurn.effects {task : ι → Task α Unit} {text : ι → Fault → String} {effect : ι → Effect}
    (ht : ∀ i (h : Hub α), h.outside.RecordsRequests →
      (outcome (task i) h).2 = { h with effects := effect i :: h.effects })
    {attempts : List (ι × Except Fault Unit)} {h h' : Hub α} (hturn : InTurn task text attempts h h')
    (ho : h.outside.RecordsRequests) : h'.outside = h.outside ∧
    h'.effects = ((Assoc.keys attempts).map effect).reverse ++ h.effects := by
  induction hturn with
  | none h => exact ⟨rfl, rfl⟩
  | @one i r attempts h h₁ h₂ ran rest ih =>
    have hran : h₁ = { h with effects := effect i :: h.effects } := by rw [← ht i h ho, ran]
    have hwarned : (h₁.warned (text i) r).outside = h.outside ∧
        (h₁.warned (text i) r).effects = effect i :: h.effects := by
      subst hran
      cases r <;> exact ⟨rfl, rfl⟩
    obtain ⟨houtside, heffects⟩ := ih (hwarned.1 ▸ ho)
    refine ⟨houtside.trans hwarned.1, ?_⟩
    rw [heffects, hwarned.2, Assoc.keys_cons, List.map_cons, List.reverse_cons, List.append_assoc]
    rfl

/-! ## The gateway -/

section Gateway

variable {s : NotificationService} {n : Notification} {given : List Value} {h : Hub α}

/-- The posts of a notification to numbers, newest first. -/
def NotificationService.postsTo (s : NotificationService) (n : Notification) (numbers : List Value) :
    List Effect :=
  (numbers.map fun number => postEffect s.settings.smsUrl (n.shortMessage number) s.httpTimeout).reverse

/-- A task posts to the first of some numbers, and to all of them if it does not fail. -/
structure PostsTo (s : NotificationService) (n : Notification) (numbers : List Value) {β : Type}
    (t : Task α β) (h : Hub α) (posted : List Value) : Prop where
  made : (outcome t h).2.effects = s.postsTo n posted ++ h.effects
  first : posted <+: numbers
  all : (outcome t h).1.isOk = true → posted = numbers ∧ posted ≠ []

/-- A task that fails before it posts. -/
theorem postsTo_none {β : Type} {t : Task α β} {numbers : List Value} {fault : Fault} {h' : Hub α}
    (heffects : h'.effects = h.effects) (ht : outcome t h = (.error fault, h')) :
    PostsTo s n numbers t h [] :=
  ⟨by rw [ht]; exact heffects, List.nil_prefix, by rw [ht]; nofun⟩

/-- What follows and does not post. -/
theorem PostsTo.bind {β γ : Type} {t : Task α β} {f : β → Task α γ} {numbers posted : List Value}
    (ht : PostsTo s n numbers t h posted) (hf : ∀ b h, (outcome (f b) h).2.effects = h.effects) :
    PostsTo s n numbers (t >>= f) h posted := by
  obtain ⟨hmade, hfirst, hall⟩ := ht
  have hrun := outcome_bind t f h
  generalize outcome t h = run at hmade hall hrun
  obtain ⟨r, h₁⟩ := run
  cases r with
  | ok b => exact ⟨by rw [hrun]; exact (hf b h₁).trans hmade, hfirst, fun _ => hall rfl⟩
  | error fault => exact ⟨by rw [hrun]; exact hmade, hfirst, by rw [hrun]; nofun⟩

/-- What is posted until a post fails by something else than a request. -/
theorem postEach_effects (ho : h.outside.RecordsRequests) (numbers : List Value) (hsome : numbers ≠ []) :
    ∃ posted, PostsTo s n numbers
      (postEach "SMS" (fun _ => s.settings.smsUrl) n.shortMessage s.httpTimeout numbers) h posted := by
  obtain ⟨attempts, h₁, hturn, -, ⟨rfl, hout⟩ | ⟨target, rest, fault, h₂, rfl, hran, -, hout⟩⟩ :=
    postEach_inTurn "SMS" (fun _ => s.settings.smsUrl) n.shortMessage s.httpTimeout numbers h
  · obtain ⟨-, heffects⟩ := hturn.effects (fun t _ ho => hub_post ho _ (n.shortMessage t) _) ho
    exact ⟨Assoc.keys attempts, by rw [hout]; exact heffects, List.prefix_refl _, fun _ => ⟨rfl, hsome⟩⟩
  · obtain ⟨houtside, heffects⟩ := hturn.effects (fun t _ ho => hub_post ho _ (n.shortMessage t) _) ho
    have hlast : h₂.effects = postEffect s.settings.smsUrl (n.shortMessage target) s.httpTimeout ::
        h₁.effects := by
      have hpost := hub_post (houtside ▸ ho) s.settings.smsUrl (n.shortMessage target) s.httpTimeout
      rw [hran] at hpost
      exact congrArg Hub.effects hpost
    refine ⟨Assoc.keys attempts ++ [target], ?_, ⟨rest, by simp⟩, by rw [hout]; nofun⟩
    rw [hout, hlast, heffects, NotificationService.postsTo, List.map_append, List.reverse_append]
    rfl

/-- The posts of the gateway to the numbers of a notification. -/
theorem sendShortMessages_effects (ho : h.outside.RecordsRequests) (hgiven : n.recipients = .list given) :
    ∃ posted, PostsTo s n (s.numbersFor given) (sendShortMessages s n) h posted := by
  cases hurl : s.settings.smsUrl.truthy with
  | false => exact ⟨[], postsTo_none rfl (sendShortMessages_refuses hurl)⟩
  | true =>
    rw [sendShortMessages_eq hurl hgiven]
    generalize hnumbers : s.numbersFor given = numbers
    cases numbers with
    | nil => exact ⟨[], postsTo_none rfl rfl⟩
    | cons number rest =>
      obtain ⟨posted, hposts⟩ := postEach_effects (s := s) (n := n) ho (number :: rest) nofun
      exact ⟨posted, hposts.bind fun failures h => congrArg Hub.effects (hub_failIfAll _ _ failures h)⟩

/-! ## One channel -/

/-- A delivery on a channel that the service has: it has to be taken. -/
theorem outcome_deliverSurely {c : NotificationChannel} (hc : s.channel? c.name = some c)
    {r : Except Fault Unit} {h₁ : Hub α} (hr : outcome (deliverOn s n c) h = (r, h₁)) :
    (outcome (deliverSurely s n c) h).2 = h₁.warned (channelWarning c.name) r ∧
    (outcome (deliverSurely s n c) h).1.isOk = r.isOk := by
  have hp : s.providers c.name = some fun n => deliverOn (α := α) s n c := by
    rw [NotificationService.providers, hc]
    rfl
  have hdispatch : outcome (dispatchNotification s n [.text c.name]) h =
      (.ok [(.text c.name, .text (channelStatus (some r)))], h₁.warned (channelWarning c.name) r) :=
    outcome_dispatchFrom_tried hp hr
  unfold deliverSurely
  rw [outcome_bind_ok hdispatch]
  cases r with
  | ok _ => exact ⟨rfl, rfl⟩
  | error fault =>
    have hfailed : channelStatus (some (.error fault)) ≠ "sent" := fun hs =>
      absurd (channelStatus_eq_sent.1 hs) nofun
    split
    · rename_i heq
      rw [List.cons.injEq, Prod.mk.injEq, Value.text.injEq] at heq
      exact absurd heq.1.2 hfailed
    · exact ⟨rfl, rfl⟩
    · exact ⟨rfl, rfl⟩

/-- A delivery on a channel that the service does not have. -/
theorem outcome_deliverSurely_missing {c : NotificationChannel} (hc : s.channel? c.name = none) (h : Hub α) :
    ∃ fault, outcome (deliverSurely s n c) h = (.error fault, h) := by
  have hp : s.providers (α := α) c.name = none := by
    rw [NotificationService.providers, hc]
    rfl
  have hdispatch : outcome (dispatchNotification s n [.text c.name]) h =
      (.ok [(.text c.name, .text (channelStatus none))], h) :=
    congrArg (outcome · h) (dispatchFrom_unsupported hp)
  unfold deliverSurely
  rw [outcome_bind_ok hdispatch]
  exact ⟨_, rfl⟩

/-- The posts of a short message that has to be taken. -/
theorem deliverSurely_sms (ho : h.outside.RecordsRequests) (hgiven : n.recipients = .list given) :
    ∃ posted, PostsTo s n (s.numbersFor given) (deliverSurely s n .sms) h posted := by
  cases hc : s.logOnly with
  | true =>
    have hmissing : s.channel? NotificationChannel.sms.name = none := by
      unfold NotificationService.channel? NotificationService.channels
      rw [hc]
      rfl
    obtain ⟨fault, hfails⟩ := outcome_deliverSurely_missing (n := n) hmissing h
    exact ⟨[], postsTo_none rfl hfails⟩
  | false =>
    have hthere : s.channel? NotificationChannel.sms.name = some .sms := by
      unfold NotificationService.channel? NotificationService.channels
      rw [hc]
      rfl
    obtain ⟨posted, hmade, hfirst, hall⟩ := sendShortMessages_effects (s := s) ho hgiven
    obtain ⟨hhub, hisOk⟩ := outcome_deliverSurely (h := h) (n := n) hthere rfl
    refine ⟨posted, ?_, hfirst, fun hok => hall (hisOk.symm.trans hok)⟩
    rw [hhub, ← hmade]
    unfold Hub.warned
    split <;> rfl

end Gateway

/-! ## Those given and those posted to -/

section Numbers

variable {s : NotificationService} {given : List Value}

/-- Numbers that are not empty are preferred to those configured. -/
theorem numbersFor_of_some (hsome : ∃ v ∈ given, v.truthy = true) :
    s.numbersFor given = given.filter Value.truthy := by
  obtain ⟨v, hv, ht⟩ := hsome
  have hne : given.filter Value.truthy ≠ [] := List.ne_nil_of_mem (List.mem_filter.2 ⟨hv, ht⟩)
  unfold NotificationService.numbersFor
  rw [if_neg (by simpa using hne)]

/-- Where all numbers are empty, those configured stand in. -/
theorem numbersFor_of_none (hnone : ¬ ∃ v ∈ given, v.truthy = true) : s.numbersFor given = s.smsTo := by
  have hempty : given.filter Value.truthy = [] :=
    List.filter_eq_nil_iff.2 fun v hv ht => hnone ⟨v, hv, ht⟩
  unfold NotificationService.numbersFor
  rw [hempty]
  rfl

/-- The numbers are exactly the given ones if there are some and none is empty. -/
theorem numbersFor_eq_given (hne : s.numbersFor given ≠ []) :
    s.numbersFor given = given ↔ given ≠ [] ∧ ∀ v ∈ given, v.truthy = true := by
  by_cases hsome : ∃ v ∈ given, v.truthy = true
  · rw [numbersFor_of_some hsome, List.filter_eq_self]
    obtain ⟨v, hv, -⟩ := hsome
    exact ⟨fun hall => ⟨List.ne_nil_of_mem hv, hall⟩, And.right⟩
  · rw [numbersFor_of_none hsome] at hne ⊢
    refine ⟨fun heq => ?_, fun ⟨hgiven, hall⟩ => ?_⟩
    · exact ⟨heq ▸ hne, heq ▸ s.smsTo_truthy⟩
    · obtain ⟨v, hv⟩ := List.exists_mem_of_ne_nil given hgiven
      exact absurd ⟨v, hv, hall v hv⟩ hsome

end Numbers

/-- The posts of the action, and what it reports. -/
theorem runSendSms_posts {s : NotificationService} {params : Fields} (ctx : Context) {given : List Value}
    (hgiven : oneOrMany (Value.get params "to") = .ok given) {h : Hub α} (ho : h.outside.RecordsRequests) :
    ∃ posted, PostsTo s (.plain (.text (Value.get params "message").plain)) (s.numbersFor given)
        (runSendSms s params ctx) h posted ∧
      ∀ result, (outcome (runSendSms s params ctx) h).1 = .ok result →
        ∃ reported, result = .map reported ∧ Value.get reported "to" = .list given := by
  let n : Notification := { Notification.plain (.text (Value.get params "message").plain) with
    recipients := .list given, source := sourceOf ctx }
  obtain hrequired | ⟨fault, hmissing⟩ := outcome_require_or .sendSms params ["to", "message"] h
  · let report : Task α Value := do
      return .map [("sent", .bool true), ("to", .list given), ("timestamp", .text (← Task.now))]
    have hrun : outcome (runSendSms s params ctx) h = outcome (deliverSurely s n .sms >>= fun _ => report) h := by
      unfold runSendSms
      rw [outcome_bind_ok hrequired, hgiven]
      rfl
    obtain ⟨posted, hposts⟩ := deliverSurely_sms (s := s) (n := n) ho rfl
    obtain ⟨hmade, hfirst, hall⟩ := hposts.bind fun _ _ => (rfl : (outcome report _).2.effects = _)
    rw [← hrun] at hmade hall
    refine ⟨posted, ⟨hmade, hfirst, hall⟩, fun result hresult => ?_⟩
    have hreport : outcome (deliverSurely s n .sms >>= fun _ => report) h =
        (.ok result, (outcome (runSendSms s params ctx) h).2) := Prod.ext (hrun ▸ hresult) (hrun ▸ rfl)
    obtain ⟨-, h₁, -, hreported⟩ := bind_outcome_eq_ok hreport
    cases hreported
    exact ⟨_, rfl, rfl⟩
  · have hrun : outcome (runSendSms s params ctx) h = (.error fault, h) := outcome_bind_error hmissing
    exact ⟨[], postsTo_none rfl hrun, fun result hresult => by rw [hrun] at hresult; cases hresult⟩

/-- Whom a short message reaches: the posts go to the numbers that are given and not empty, or where there is
none, to those configured, up to a post that fails by something else than a request. Whoever is told of
success is told the given numbers, and then all of the others have been posted to. They are the same exactly
if some number was given and none of them was empty. -/
theorem runSendSms_contacts {s : NotificationService} {params : Fields} (ctx : Context) {given : List Value}
    (hgiven : oneOrMany (Value.get params "to") = .ok given) {h : Hub α} (ho : h.outside.RecordsRequests) :
    ∃ posted,
    (outcome (runSendSms s params ctx) h).2.effects =
      s.postsTo (.plain (.text (Value.get params "message").plain)) posted ++ h.effects ∧
    posted <+: s.numbersFor given ∧
    ((∃ v ∈ given, v.truthy = true) → ∀ number ∈ posted, number ∈ given) ∧
    ∀ result, (outcome (runSendSms s params ctx) h).1 = .ok result →
      (∃ reported, result = .map reported ∧ Value.get reported "to" = .list given) ∧
      posted = s.numbersFor given ∧
      (posted = given ↔ given ≠ [] ∧ ∀ v ∈ given, v.truthy = true) := by
  obtain ⟨posted, ⟨hmade, hfirst, hall⟩, hreported⟩ := runSendSms_posts (s := s) ctx hgiven ho
  refine ⟨posted, hmade, hfirst, fun hsome number hmem => ?_, fun result hresult => ?_⟩
  · have hnamed := hfirst.subset hmem
    rw [numbersFor_of_some hsome] at hnamed
    exact List.mem_of_mem_filter hnamed
  · obtain ⟨rfl, hne⟩ := hall (by rw [hresult]; rfl)
    exact ⟨hreported result hresult, rfl, numbersFor_eq_given hne⟩

/-- A service with a gateway and a configured number. -/
def NotificationService.onCall : NotificationService :=
  { NotificationService.twoHooks with smsTo := [.text "+1000"], smsTo_truthy := by decide }

theorem runSendSms_contacts_pair : ∃ posted,
    (outcome (runSendSms .onCall [("to", .list [.text "+1", .text "+2"]), ("message", .text "m")] (.bare ""))
      Hub.halfReached).2.effects = NotificationService.onCall.postsTo (.plain (.text "m")) posted ∧
    posted = [.text "+1", .text "+2"] := by
  have hto : oneOrMany (Value.get [("to", .list [.text "+1", .text "+2"]), ("message", .text "m")] "to") =
      .ok [.text "+1", .text "+2"] := rfl
  obtain ⟨posted, hmade, -, -, hreported⟩ :=
    runSendSms_contacts (s := .onCall) (.bare "") hto (h := Hub.halfReached) fun _ _ => rfl
  obtain ⟨-, -, hsame⟩ := hreported _ rfl
  exact ⟨posted, hmade.trans (List.append_nil _), hsame.2 ⟨nofun, by decide⟩⟩

/-- Short messages go astray: one that is to go to nobody goes to the configured number, and reports nobody, and
one with an empty number among others reports that as well. -/
theorem runSendSms_strays :
    (∃ reported, (outcome (runSendSms .onCall [("to", .list []), ("message", .text "m")] (.bare ""))
        Hub.halfReached).1 = .ok (.map reported) ∧ Value.get reported "to" = .list []) ∧
    (outcome (runSendSms .onCall [("to", .list []), ("message", .text "m")] (.bare ""))
      Hub.halfReached).2.effects = NotificationService.onCall.postsTo (.plain (.text "m")) [.text "+1000"] ∧
    (∃ reported, (outcome (runSendSms .onCall [("to", .list [.text "", .text "+1"]), ("message", .text "m")]
        (.bare "")) Hub.halfReached).1 = .ok (.map reported) ∧
        Value.get reported "to" = .list [.text "", .text "+1"]) ∧
    (outcome (runSendSms .onCall [("to", .list [.text "", .text "+1"]), ("message", .text "m")]
        (.bare "")) Hub.halfReached).2.effects =
      NotificationService.onCall.postsTo (.plain (.text "m")) [.text "+1"] :=
  ⟨⟨_, rfl, rfl⟩, rfl, ⟨_, rfl, rfl⟩, rfl⟩

end EventHub
