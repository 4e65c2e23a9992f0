import EventHub.Proofs.Discovery.Run

/-!
# A recorder of discoveries

A client that keeps the notices of discoveries it receives tells what the bus announces, whoever else
subscribes and whatever the others do, as long as they leave the schema and the recorder alone.

* **Recorders** (`Recorder`, `Recorder.Fits`): the client, and the applications that leave it alone.
* **Telling** (`Recorder.tells_announce`): the recorder is told once of every discovery.
* **Events** (`Recorder.goes_dispatch`): the dispatch of an event tells the recorder what the event
  announces, whether it was waiting (`Recorder.goes_drain`) or is published (`Recorder.goes_publish`).
* **Runs** (`Recorder.Run.announces`): so from a bus that has seen nothing on, what the recorder keeps,
  the events and the schema belong together at every moment.
-/

namespace EventHub

open EventHub.Task

variable {α : Type}

/-! ## Recorders -/

/-- The channels that a subscriber is subscribed to. -/
def Subscriptions.channelsOf (s : Subscriptions) (subscriber : Subscriber) : List Channel :=
  (s.entries.filter (·.subscriber = subscriber)).map (·.channel)

theorem Subscriptions.count_ofTopic (s : Subscriptions) (topic : String) (subscriber : Subscriber) :
    (s.ofTopic topic).count subscriber = (s.channelsOf subscriber).countP (·.isTopic topic) := by
  rw [Subscriptions.ofTopic, Subscriptions.channelsOf, List.count, List.countP_map, List.countP_map,
    List.countP_filter, List.countP_filter]
  exact List.countP_congr fun e _ => by simp [and_comm]

/-- Of the items, one adds something and the others nothing. -/
theorem flatMap_ite_eq_replicate {β γ : Type} [DecidableEq β] (items : List β) (b : β) (c : γ) :
    (items.flatMap fun x => if x = b then [c] else []) = List.replicate (items.count b) c := by
  induction items with
  | nil => rfl
  | cons x rest ih =>
    rw [List.flatMap_cons, ih, List.count_cons]
    by_cases hx : x = b <;> simp [hx, List.replicate_succ]

/-- The topics of discoveries. -/
def discoveryTopics : List String := [Topic.typeDiscovered, Topic.fieldsDiscovered]

/-- A client that keeps the notices it receives. -/
structure Recorder (α : Type) where
  client : Nat
  note : Notice → α → α
  kept : α → List Notice
  kept_note : ∀ n a, kept (note n a) = kept a ++ [n]

namespace Recorder

variable {w : Recorder α} {app : Application α} {h h₁ h₂ h' : Hub α}

/-- The recorder is subscribed to every topic of discoveries once, and to nothing else. -/
structure Ready (w : Recorder α) (h : Hub α) : Prop where
  inOrder : h.outages = []
  apt : ∀ s ∈ h.bus.subscriptions.entries, s.Apt
  on : (h.bus.subscriptions.channelsOf (.client w.client)).Perm (discoveryTopics.map .topic)

/-- The recorder is told these notices, and the schema stays. -/
def Tells (w : Recorder α) (told : List Notice) (h h' : Hub α) : Prop :=
  w.Ready h → w.Ready h' ∧ h'.bus.schema = h.bus.schema ∧ w.kept h'.host = w.kept h.host ++ told

theorem Tells.trans {told more : List Notice} (h₁₂ : w.Tells told h h₁) (h₂₃ : w.Tells more h₁ h₂) :
    w.Tells (told ++ more) h h₂ := by
  intro hr
  obtain ⟨hr₁, hs₁, hk₁⟩ := h₁₂ hr
  obtain ⟨hr₂, hs₂, hk₂⟩ := h₂₃ hr₁
  exact ⟨hr₂, hs₂.trans hs₁, by rw [hk₂, hk₁, List.append_assoc]⟩

/-- What leaves the recorder and the schema alone. -/
theorem Tells.of_same (ho : h'.outages = h.outages) (hs : h'.bus.subscriptions = h.bus.subscriptions)
    (hschema : h'.bus.schema = h.bus.schema) (hh : h'.host = h.host) : w.Tells [] h h' := fun hr =>
  ⟨⟨ho.trans hr.inOrder, hs ▸ hr.apt, hs ▸ hr.on⟩, hschema, by rw [hh, List.append_nil]⟩

/-- The frame in which the recorder is told nothing, and the schema stays. -/
def apart (w : Recorder α) : Frame α where
  allows := w.Tells []
  refl _ := .of_same rfl rfl rfl rfl
  trans h₁ h₂ := h₁.trans h₂

theorem apart_free (w : Recorder α) : w.apart.Free where
  log _ _ := .of_same rfl rfl rfl rfl
  effects _ _ := .of_same rfl rfl rfl rfl
  serial _ _ := .of_same rfl rfl rfl rfl
  cache _ _ := .of_same rfl rfl rfl rfl
  deskCounters _ _ _ _ _ := .of_same rfl rfl rfl rfl
  engineCounters _ _ _ _ _ := .of_same rfl rfl rfl rfl

theorem apart_openToEdits (w : Recorder α) : w.apart.OpenToEdits .any where
  free := w.apart_free
  edit _ _ _ := .of_same rfl rfl rfl rfl

theorem apart_openToFlows (w : Recorder α) : w.apart.OpenToFlows :=
  .of_flows fun _ _ _ => .of_same rfl rfl rfl rfl

/-- What others subscribe to is apart. -/
theorem apart_add (w : Recorder α) (h : Hub α) (channel : Channel) {s : Subscriber} (hf : s.Foreign)
    (hs : s ≠ .client w.client) : w.apart.allows h
      { h with bus := { h.bus with subscriptions := (h.bus.subscriptions.add channel s).2 } } := by
  intro hr
  have hsame : (h.bus.subscriptions.add channel s).2.channelsOf (.client w.client) =
      h.bus.subscriptions.channelsOf (.client w.client) := by
    simp [Subscriptions.channelsOf, Subscriptions.add, hs]
  have hon := hr.on
  rw [← hsame] at hon
  exact ⟨⟨hr.inOrder, Subscriptions.apt_add hr.apt fun _ => .of_foreign hf, hon⟩, rfl,
    (List.append_nil _).symm⟩

/-- The application serves the recorder, and its other functions leave the recorder and the schema
alone when the reception that they use does. -/
structure Fits (w : Recorder α) (app : Application α) : Prop where
  serves : ∀ receive n, app.serve receive w.client n =
    modify fun h => { h with host := w.note n h.host }
  acts : ∀ receive : Receive α,
    (∀ s : Subscriber, s.Foreign → s ≠ .client w.client → ∀ n, Within w.apart (receive s n)) →
    ∀ name v ctx, Within w.apart (app.act receive name v ctx)
  others : ∀ receive : Receive α,
    (∀ s : Subscriber, s.Foreign → s ≠ .client w.client → ∀ n, Within w.apart (receive s n)) →
    ∀ k, k ≠ w.client → ∀ n, Within w.apart (app.serve receive k n)

/-! ## Telling -/

theorem Ready.count (hr : w.Ready h) (topic : String) :
    (h.bus.subscriptions.ofTopic topic).count (.client w.client) =
      if topic ∈ discoveryTopics then 1 else 0 := by
  rw [Subscriptions.count_ofTopic, hr.on.countP_eq]
  by_cases ht : topic = Topic.typeDiscovered
  · subst ht
    rfl
  · by_cases hf : topic = Topic.fieldsDiscovered
    · subst hf
      rfl
    · simp [discoveryTopics, Channel.isTopic, ht, hf, Ne.symm ht, Ne.symm hf]

/-- Nobody on the bus publishes the messages of the broker inline. -/
theorem Ready.ne_takeMessage (hr : w.Ready h) {topic : String} {s : Subscriber}
    (hs : s ∈ h.bus.subscriptions.ofTopic topic) : s ≠ .takeMessage := by
  obtain ⟨e, hmem, -, rfl⟩ := Subscriptions.mem_ofTopic.1 hs
  intro he
  have hapt := hr.apt e hmem
  rw [Subscription.Apt, he] at hapt
  exact hapt

/-- The recorder is not among those to whom events are offered. -/
theorem Ready.offered (hr : w.Ready h) {o : Nat × EventPattern × Subscriber}
    (ho : o ∈ h.bus.subscriptions.ofEvents) :
    o.2.2.Foreign ∧ o.2.2 ≠ .client w.client := by
  obtain ⟨⟨id, channel, s⟩, hmem, hp⟩ := List.mem_filterMap.1 ho
  have hapt := hr.apt _ hmem
  cases channel with
  | topic t => cases hp
  | events pattern =>
    cases hp
    refine ⟨?_, fun hs => ?_⟩
    · cases s <;> simp_all [Subscription.Apt, Subscriber.Foreign]
    · have hchannel : .events pattern ∈ h.bus.subscriptions.channelsOf (.client w.client) :=
        List.mem_map.2 ⟨_, List.mem_filter.2 ⟨hmem, by simpa using hs⟩, rfl⟩
      simpa [discoveryTopics] using hr.on.mem_iff.1 hchannel

/-- A topic of no discovery is told of apart from the recorder. -/
theorem tells_apart {host : Host α} {topic : String} (ht : topic ∉ discoveryTopics)
    (hs : ∀ s : Subscriber, s ≠ .client w.client → s ≠ .takeMessage →
      ∀ n, Within w.apart (host.receive s n)) : host.TellsWithin w.apart topic := fun n h hr => by
  refine allows_announce w.apart_free.openToActions (fun s hmem => hs s ?_ (hr.ne_takeMessage hmem) n) hr
  rintro rfl
  have hcount := hr.count topic
  rw [if_neg ht, List.count_eq_zero] at hcount
  exact hcount hmem

/-- At every depth all others leave the recorder and the schema alone. -/
theorem Fits.receive (happ : w.Fits app) (depth : Nat) {s : Subscriber} (hs : s ≠ .client w.client)
    (ht : s ≠ .takeMessage) (n : Notice) : Within w.apart (receive app depth s n) := by
  induction depth generalizing s n with
  | zero => exact Within.throw _
  | succ depth ih =>
    let host : Host α := { app, receive := EventHub.receive app depth }
    have hforeign : ∀ s : Subscriber, s.Foreign → s ≠ .client w.client →
        ∀ n, Within w.apart (host.receive s n) := fun s hf hs n =>
      ih hs (by rintro rfl; exact hf) n
    have tells {topic : String} (ht : topic ∉ discoveryTopics) : host.TellsWithin w.apart topic :=
      tells_apart ht fun s hs ht n => ih hs ht n
    have hregistry : ∀ topic ∈ registryTopics, host.ReportsWithin w.apart topic := fun topic hmem =>
      have hnone : ∀ topic ∈ registryTopics, topic ∉ discoveryTopics := by decide
      (tells (hnone topic hmem)).reports
    have hedits := w.apart_openToEdits
    cases s with
    | discoverType =>
      exact within_discoverType hedits (fun _ => trivial) hregistry (tells (by decide)).reports n
    | discoverFields => exact within_discoverFields hedits (fun _ => trivial) hregistry n
    | handleEvent =>
      have hacts : host.ActsWithin w.apart := happ.acts host.receive hforeign
      exact within_handleEvent w.apart_free w.apart_openToFlows hacts (tells (by decide)).reports
        (tells (by decide)).reports (tells (by decide)).reports (tells (by decide)).reports n
    | takeMessage => exact absurd rfl ht
    | function name => exact Within.bind (Within.ofExcept _) fun _ => Within.pure _
    | client k => exact happ.others host.receive hforeign k (fun hk => hs (by rw [hk])) n

section Telling

variable (happ : w.Fits app) (depth : Nat)
include happ

theorem tells_receive (s : Subscriber) (ht : s ≠ .takeMessage) (n : Notice) (h : Hub α) :
    w.Tells (if s = .client w.client then [n] else []) h
      (outcome (receive app (depth + 1) s n) h).2 := by
  by_cases hs : s = .client w.client
  · rw [if_pos hs, hs]
    intro hr
    have hserve : receive app (depth + 1) (.client w.client) n =
      modify fun h => { h with host := w.note n h.host } := happ.serves _ n
    rw [hserve]
    exact ⟨⟨hr.inOrder, hr.apt, hr.on⟩, rfl, w.kept_note n h.host⟩
  · rw [if_neg hs]
    exact happ.receive (depth + 1) hs ht n h

/-- Among the subscribers of a topic the recorder is told as often as it is one of them. -/
theorem tells_deliver (topic : String) (n : Notice) {subscribers : List Subscriber}
    (hs : ∀ s ∈ subscribers, s ≠ .takeMessage) (h : Hub α) :
    w.Tells (List.replicate (subscribers.count (.client w.client)) n) h
      (outcome (deliver ⟨app, receive app (depth + 1)⟩ topic n subscribers) h).2 := by
  rw [← flatMap_ite_eq_replicate]
  exact deliver_adds w.apart_free.log Tells.trans topic
    (fun s hm h => tells_receive happ depth s (hs s hm) n h) h

/-- The recorder is told once of what is announced under a topic of discoveries. -/
theorem tells_announce {topic : String} (ht : topic ∈ discoveryTopics) (n : Notice) (h : Hub α) :
    w.Tells [n] h (outcome (announce ⟨app, receive app (depth + 1)⟩ topic n) h).2 := by
  intro hr
  have hnone : ∀ s ∈ h.bus.subscriptions.ofTopic topic, s ≠ .takeMessage := fun s hs =>
    hr.ne_takeMessage hs
  have hd := tells_deliver happ depth topic n hnone h hr
  rwa [hr.count, if_pos ht, ← outcome_announce] at hd

/-- The recorder is told what a change of the schema has told. -/
theorem tells_announceChange (e : Event) {change : SchemaChange}
    (hc : change.newType = true → change.newFields = []) (h : Hub α) : ∃ h',
    outcome (announceChange ⟨app, receive app (depth + 1)⟩ e change) h = (.ok (), h') ∧
      w.Tells (change.told e) h h' := by
  let host : Host α := ⟨app, receive app (depth + 1)⟩
  obtain ⟨newType, new⟩ := change
  cases newType with
  | true =>
    obtain rfl : new = [] := hc rfl
    obtain ⟨lines, hrun⟩ := announceChange_newType host e h
    exact ⟨_, hrun, (w.apart_free.log h lines).trans (tells_announce happ depth (by decide) _ _)⟩
  | false =>
    by_cases hn : new = []
    · subst hn
      exact ⟨h, announceChange_nothing host e h, w.apart.refl h⟩
    · obtain ⟨lines, hrun⟩ := announceChange_newFields host e hn h
      have htold : SchemaChange.told ⟨false, new⟩ e = [.fieldsDiscovery ⟨e.type, new, e.timestamp⟩] := by
        simp [SchemaChange.told, hn]
      rw [htold]
      exact ⟨_, hrun, (w.apart_free.log h lines).trans (tells_announce happ depth (by decide) _ _)⟩

end Telling

/-! ## Events -/

/-- The recorder is ready, and what it keeps, the events and the schema belong together. -/
structure Keeps (w : Recorder α) (seen : List Event) (h : Hub α) : Prop where
  ready : w.Ready h
  discoveries : Discoveries seen (w.kept h.host) h.bus.schema

/-- The events are dispatched on the way, if their fields are distinct: the recorder keeps what they
announce, and the fields of every type only grow, at the end. -/
def Goes (w : Recorder α) (events : List Event) (h h' : Hub α) : Prop :=
  ∀ seen, w.Keeps seen h → (∀ e ∈ events, (Assoc.keys e.data).Nodup) →
    w.Keeps (seen ++ events) h' ∧ ∀ t, h.bus.schema.fieldsFor t <+: h'.bus.schema.fieldsFor t

theorem Goes.of_apart (ha : w.apart.allows h h') : w.Goes [] h h' := fun seen hk _ => by
  obtain ⟨hr, hs, hkept⟩ := ha hk.ready
  rw [List.append_nil] at hkept ⊢
  exact ⟨⟨hr, by rw [hs, hkept]; exact hk.discoveries⟩, fun t => hs ▸ List.prefix_rfl⟩

theorem Goes.trans {events more : List Event} (h₁₂ : w.Goes events h h₁) (h₂₃ : w.Goes more h₁ h₂) :
    w.Goes (events ++ more) h h₂ := by
  intro seen hk hd
  obtain ⟨hk₁, hp₁⟩ := h₁₂ seen hk fun e he => hd e (List.mem_append_left _ he)
  obtain ⟨hk₂, hp₂⟩ := h₂₃ _ hk₁ fun e he => hd e (List.mem_append_right _ he)
  rw [List.append_assoc] at hk₂
  exact ⟨hk₂, fun t => (hp₁ t).trans (hp₂ t)⟩

/-- What happens apart, before and after, is of no account. -/
theorem Goes.amid {events : List Event} {h₃ : Hub α} (hbefore : w.apart.allows h h₁)
    (hg : w.Goes events h₁ h₂) (hafter : w.apart.allows h₂ h₃) : w.Goes events h h₃ := by
  have hall := ((Goes.of_apart hbefore).trans hg).trans (.of_apart hafter)
  rwa [List.nil_append, List.append_nil] at hall

/-- Changes of the queue and of the dispatcher are apart. -/
theorem apart_queue (w : Recorder α) (h : Hub α) (pending : List Event) (busy running : Bool) :
    w.apart.allows h { h with bus := { h.bus with pending, busy, running } } :=
  .of_same rfl rfl rfl rfl

/-- The events that the dispatcher takes from the queue when it is let work on at most `n`. -/
def drained (host : Host α) : Nat → Hub α → List Event
  | 0, _ => []
  | n + 1, h =>
    if h.bus.running && !h.bus.busy then
      match h.bus.pending with
      | [] => []
      | e :: rest => e :: drained host n
          (outcome (dispatchQueued host e) { h with bus := { h.bus with pending := rest } }).2
    else []

/-- The events that are dispatched when an event is published: the event, or, while the dispatcher
runs, those that are dispatched to make room for it. -/
def published (host : Host α) (raw : Definition Event) (h : Hub α) : List Event :=
  match outcome (normalizeEvent raw) h with
  | (.error _, _) => []
  | (.ok e, h) =>
    if !h.bus.running then [e]
    else if 0 < h.bus.capacity && h.bus.patience < 0 then []
    else if h.bus.full then drained host drainLimit h
    else []

section Dispatch

variable (happ : w.Fits app) (depth : Nat)
include happ

/-- The dispatch of an event tells the recorder what the event announces. -/
theorem goes_dispatch (e : Event) (h : Hub α) :
    w.Goes [e] h (outcome (dispatchEvent ⟨app, receive app (depth + 1)⟩ e) h).2 := by
  intro seen hk hd
  let host : Host α := ⟨app, EventHub.receive app (depth + 1)⟩
  obtain ⟨htold, hdiscoveries⟩ := hk.discoveries.observe (hd e List.mem_cons_self)
  obtain ⟨h₂, hrun, htells⟩ :=
    tells_announceChange happ depth e Schema.newFields_of_newType (h.observed e)
  rw [htold] at htells
  obtain ⟨hr₂, hs₂, hk₂⟩ := htells ⟨hk.ready.inOrder, hk.ready.apt, hk.ready.on⟩
  -- What follows the discoveries is told under topics of events, which the recorder does not hear.
  have htopics : ∀ topic ∈ eventTopics e, host.TellsWithin w.apart topic := fun topic ht => by
    obtain ⟨htype, hfields⟩ := not_discovery_of_mem_eventTopics ht
    exact tells_apart (by simp [discoveryTopics, htype, hfields])
      fun s hs ht n => happ.receive (depth + 1) hs ht n
  have hoffers : Within w.apart (do
      deliverSelected (α := α) host e (← get).bus.subscriptions.ofEvents) := fun h hr => by
    refine within_deliverSelected w.apart_free.openToActions e (fun o ho n => ?_) h hr
    obtain ⟨hforeign, hs⟩ := hr.offered ho
    exact happ.receive (depth + 1) hs (fun ht => by rw [ht] at hforeign; exact hforeign) n
  have hrest : w.apart.allows h₂ (outcome (tellEvent host e) h₂).2 :=
    within_tellEvent htopics hoffers h₂
  obtain ⟨hr₃, hs₃, hk₃⟩ := hrest hr₂
  rw [List.append_nil] at hk₃
  rw [outcome_dispatchEvent hk.ready.inOrder hrun]
  refine ⟨⟨hr₃, ?_⟩, fun t => ?_⟩
  · rw [hk₃, hk₂, hs₃, hs₂]
    exact hdiscoveries
  · rw [hs₃, hs₂]
    exact hk.discoveries.agrees.prefix_observe e.type t e.data

theorem goes_dispatchQueued (e : Event) (h : Hub α) :
    w.Goes [e] h (outcome (dispatchQueued ⟨app, receive app (depth + 1)⟩ e) h).2 := by
  let host : Host α := ⟨app, receive app (depth + 1)⟩
  let h₁ : Hub α := { h with bus := { h.bus with busy := true } }
  have hbegin : outcome (modifyBus (α := α) fun b => { b with busy := true }) h = (.ok (), h₁) := rfl
  have hend : Within w.apart (modifyBus (α := α) fun b => { b with busy := false }) :=
    Within.change fun h => w.apart_queue h _ _ _
  have hbefore : w.apart.allows h h₁ := w.apart_queue h _ _ _
  have hgoes := goes_dispatch happ depth e h₁
  unfold dispatchQueued
  rw [outcome_bind_ok hbegin, outcome_bind_ok (outcome_attempt _ h₁)]
  cases (outcome (dispatchEvent host e) h₁).1 with
  | ok _ => exact Goes.amid hbefore hgoes (hend _)
  | error fault =>
    have hafter := Within.bind (Within.logFault w.apart_free busPart "Event dispatch failed"
      [("event_id", .text e.id), ("type", .text e.type)] fault) fun _ => hend
    exact Goes.amid hbefore hgoes (hafter _)

/-- The dispatcher at work, by induction on what it is let do. -/
theorem goes_drain (n : Nat) (h : Hub α) :
    w.Goes (drained ⟨app, receive app (depth + 1)⟩ n h) h
      (outcome (drain ⟨app, receive app (depth + 1)⟩ n) h).2 := by
  let host : Host α := ⟨app, receive app (depth + 1)⟩
  induction n generalizing h with
  | zero => exact Goes.of_apart (w.apart.refl h)
  | succ n ih =>
    unfold drain drained
    rw [outcome_bind_ok (outcome_get h)]
    dsimp only
    by_cases hwork : (h.bus.running && !h.bus.busy) = true
    case neg =>
      rw [if_neg hwork, if_neg hwork]
      exact Goes.of_apart (w.apart.refl h)
    rw [if_pos hwork, if_pos hwork]
    cases hp : h.bus.pending with
    | nil => exact Goes.of_apart (w.apart.refl h)
    | cons e rest =>
      let h₁ : Hub α := { h with bus := { h.bus with pending := rest } }
      have htake : outcome (modifyBus (α := α) fun b => { b with pending := rest }) h =
        (.ok (), h₁) := rfl
      have hfirst := Goes.amid (w.apart_queue h rest h.bus.busy h.bus.running)
        (goes_dispatchQueued happ depth e h₁) (w.apart.refl _)
      dsimp only
      rw [outcome_bind_ok htake, outcome_bind_ok (outcome_dispatchQueued_ok host e h₁)]
      exact hfirst.trans (ih _)

/-- An event is put into the queue, perhaps after others were dispatched to make room for it. -/
theorem goes_enqueue (e : Event) (h : Hub α) :
    w.Goes (if 0 < h.bus.capacity && h.bus.patience < 0 then []
        else if h.bus.full then drained ⟨app, receive app (depth + 1)⟩ drainLimit h else [])
      h (outcome (enqueueEvent ⟨app, receive app (depth + 1)⟩ e) h).2 := by
  have hlast : Within w.apart (do
      if (← get).bus.full then
        Task.log .error busPart s!"Event queue full; rejecting event {e.id} type={e.type}"
        throw (.busFull e.id)
      modifyBus (α := α) (·.enqueue e)) := by
    have hfree := w.apart_free
    have hput : Within w.apart (modifyBus (α := α) (·.enqueue e)) :=
      Within.change fun h => w.apart_queue h _ _ _
    refine Within.bind Within.get fun h => ?_
    grind
  unfold enqueueEvent
  rw [outcome_bind_ok (outcome_get h)]
  dsimp only
  by_cases hpatience : (decide (0 < h.bus.capacity) && decide (h.bus.patience < 0)) = true
  case pos =>
    rw [if_pos hpatience, if_pos hpatience]
    exact Goes.of_apart (w.apart.refl h)
  rw [if_neg hpatience, if_neg hpatience]
  -- Only a full queue is drained, and what is drained is dispatched before the event is taken.
  by_cases hfull : h.bus.full = true
  · rw [if_pos hfull, if_pos hfull, outcome_bind_ok (outcome_drain_ok _ _ h)]
    exact Goes.amid (w.apart.refl h) (goes_drain happ depth drainLimit h) (hlast _)
  · rw [if_neg hfull, if_neg hfull]
    exact Goes.of_apart (hlast h)

/-- Publishing an event. -/
theorem goes_publish (raw : Definition Event) (h : Hub α) :
    w.Goes (published ⟨app, receive app (depth + 1)⟩ raw h) h
      (outcome (publishEvent ⟨app, receive app (depth + 1)⟩ raw) h).2 := by
  have hnormal : w.apart.allows h (outcome (normalizeEvent raw) h).2 :=
    within_normalizeEvent w.apart_free raw h
  unfold publishEvent published
  rw [outcome_bind]
  generalize outcome (normalizeEvent raw) h = run at hnormal
  obtain ⟨r, h₁⟩ := run
  cases r with
  | error fault => exact Goes.of_apart hnormal
  | ok e =>
    dsimp only at hnormal ⊢
    rw [outcome_bind_ok (outcome_get _)]
    cases hr : h₁.bus.running with
    | true =>
      rw [if_pos rfl, hub_bind_pure]
      exact Goes.amid hnormal (goes_enqueue happ depth e h₁) (w.apart.refl _)
    | false =>
      rw [if_neg Bool.false_ne_true, hub_bind_pure]
      exact Goes.amid hnormal (goes_dispatch happ depth e h₁) (w.apart.refl _)

end Dispatch

/-! ## Runs -/

/-- The hubs that lie after a hub, with the events that are dispatched on the way: events are published,
the dispatcher works, and beside that anything happens that leaves the recorder and the schema
alone. -/
inductive Run (w : Recorder α) (app : Application α) (h₀ : Hub α) : List Event → Hub α → Prop
  | start : Run w app h₀ [] h₀
  | publish {seen : List Event} {h : Hub α} (raw : Definition Event) (run : Run w app h₀ seen h) :
    Run w app h₀ (seen ++ published app.host raw h) (outcome (publishEvent app.host raw) h).2
  | drain {seen : List Event} {h : Hub α} (n : Nat) (run : Run w app h₀ seen h) :
    Run w app h₀ (seen ++ drained app.host n h) (outcome (EventHub.drain app.host n) h).2
  | aside {seen : List Event} {h h' : Hub α} (run : Run w app h₀ seen h)
    (apart : w.apart.allows h h') : Run w app h₀ seen h'

/-- The bus has seen nothing, and the recorder has kept nothing yet. -/
structure Awaits (w : Recorder α) (h : Hub α) : Prop extends w.Ready h where
  unseen : h.bus.schema = .empty
  blank : w.kept h.host = []

theorem Run.goes (happ : w.Fits app) {events : List Event} (run : w.Run app h events h') :
    w.Goes events h h' := by
  induction run with
  | start => exact Goes.of_apart (w.apart.refl h)
  | publish raw _ ih => exact ih.trans (goes_publish happ (receptionDepth - 1) raw _)
  | drain n _ ih => exact ih.trans (goes_drain happ (receptionDepth - 1) n _)
  | aside _ apart ih => exact Goes.amid (w.apart.refl h) ih apart

/-- From a bus that has seen nothing on, at every moment of a run: the recorder has been told what the
events announce in turn, and nothing else. Every type was announced once, at its first event and with
the data of it; every field of a type that its first event does not have was announced once, at the
first event that has it and with its value; and no other field was. An announcement of fields has some,
each once. The fields that the schema lists for a type are distinct, those of its set, and first those of
the first event and then those that were announced, in order. Later moments only append to them. -/
theorem Run.announces (happ : w.Fits app) {h₀ : Hub α} (begun : w.Awaits h₀) {seen : List Event}
    (run : w.Run app h₀ seen h) (distinct : ∀ e ∈ seen, (Assoc.keys e.data).Nodup) :
    Discoveries seen (w.kept h.host) h.bus.schema ∧
    ∀ more h', w.Run app h more h' → (∀ e ∈ more, (Assoc.keys e.data).Nodup) →
      ∀ t, h.bus.schema.fieldsFor t <+: h'.bus.schema.fieldsFor t := by
  have hempty : w.Keeps [] h₀ := by
    refine ⟨begun.toReady, ?_⟩
    rw [begun.unseen, begun.blank]
    exact .empty
  obtain ⟨hkeeps, -⟩ := run.goes happ [] hempty distinct
  rw [List.nil_append] at hkeeps
  exact ⟨hkeeps.discoveries, fun more h' later hd => (later.goes happ seen hkeeps hd).2⟩

theorem published_of_idle {host : Host α} (hr : h.bus.running = false) (e : Event) :
    published host (.checked e) h = [e] := by
  have hp : published host (.checked e) h = if !h.bus.running then [e]
    else if 0 < h.bus.capacity && h.bus.patience < 0 then []
    else if h.bus.full then drained host drainLimit h else [] := rfl
  rw [hp, hr]
  rfl

/-- The client that keeps its notices in a list. -/
def listing : Recorder (List Notice) where
  client := 0
  note n a := a ++ [n]
  kept a := a
  kept_note _ _ := rfl

end Recorder

/-- An application whose client keeps what it receives. -/
def Application.listing : Application (List Notice) where
  ask _ _ := .ok .null
  act _ _ v _ := return ⟨.null, v, none⟩
  serve _ k n := if k = 0 then modify fun h => { h with host := h.host ++ [n] } else return ()

theorem Recorder.listing_fits : Recorder.listing.Fits Application.listing where
  serves _ _ := rfl
  acts _ _ _ _ _ := Within.pure _
  others _ _ k hk _ := by
    have hother : k ≠ 0 := hk
    unfold Application.listing
    dsimp only
    rw [if_neg hother]
    exact Within.pure _

/-- A hub whose bus has seen nothing, with the client subscribed to discoveries. -/
def Hub.listed : Hub (List Notice) :=
  (outcome (do
    let _ ← subscribe Topic.typeDiscovered (some (.client 0))
    let _ ← subscribe Topic.fieldsDiscovered (some (.client 0))) (Hub.atMidnight [])).2

theorem Recorder.listing_awaits : Recorder.listing.Awaits Hub.listed where
  inOrder := rfl
  apt s hs := by
    have hentries : Hub.listed.bus.subscriptions.entries =
      [⟨1, .topic Topic.typeDiscovered, .client 0⟩, ⟨2, .topic Topic.fieldsDiscovered, .client 0⟩] := rfl
    rw [hentries] at hs
    rcases List.mem_cons.1 hs with rfl | hs
    · trivial
    · rw [List.mem_singleton.1 hs]
      trivial
  on := .refl _
  unseen := rfl
  blank := rfl

/-- An event comes, another client subscribes, and a second event has a field that the first has not:
there are two announcements. -/
theorem Recorder.Run.announces_grown : ∃ h,
    Recorder.listing.Run Application.listing Hub.listed [plainEvent, grownEvent] h ∧
    h.host = [.typeDiscovery ⟨"a", "2024-01-01T00:00:00", [("x", .int 1)]⟩,
      .fieldsDiscovery ⟨"a", [⟨"y", .int 3, "number"⟩], "2024-01-01T00:01:00"⟩] ∧
    h.bus.schema.fieldsFor "a" = ["x", "y"] := by
  have distinct : ∀ e ∈ [plainEvent, grownEvent], (Assoc.keys e.data).Nodup := by decide
  have first := Recorder.Run.publish (.checked plainEvent)
    (.start : Recorder.listing.Run Application.listing Hub.listed [] Hub.listed)
  rw [Recorder.published_of_idle rfl] at first
  have hforeign : (Subscriber.client 1).Foreign := trivial
  have joined := first.aside
    (Recorder.listing.apart_add _ (.topic Topic.event) hforeign (by decide))
  have second := joined.publish (.checked grownEvent)
  rw [Recorder.published_of_idle (by decide +kernel)] at second
  obtain ⟨hd, -⟩ := Recorder.Run.announces Recorder.listing_fits Recorder.listing_awaits second distinct
  refine ⟨_, second, hd.inTurn, (hd.each "a").order.trans ?_⟩
  rw [hd.inTurn]
  rfl

end EventHub
