import EventHub.Proofs.Discovery.Recorder

/-!
# Routing of events

An event is told under three topics: that of all events, that of its type, and that of its source and
type. The names of types and sources are joined by colons as they are.

* **Names** (`ofType_mem_eventTopics`, `ofSource_mem_eventTopics`): when the topic of a type, or that of a
  source and a type, is among those of an event. It is for no other events as long as names have no colons.
* **Notifications** (`notification_mem_eventTopics`): one topic of notifications is that of a type as well.
* **Followers** (`Recorder.Follows`, `Recorder.Suits`): a client that is subscribed to one topic, and the
  applications that leave it to that.
* **Dispatch** (`Recorder.hears_dispatch`): the dispatch of an event tells it to the follower of a topic of
  the event once, and tells followers of other topics no event.
* `Recorder.routes`: both together.
-/

namespace EventHub

open EventHub.Task

variable {α : Type}

/-! ## Names -/

/-- The name has no colon. -/
def Colonless (name : String) : Prop := ':' ∉ name.toList

instance : DecidablePred Colonless := fun name => inferInstanceAs (Decidable (':' ∉ name.toList))

/-- Names without colons are told from the text that joins them. -/
theorem join_eq_iff {s t s' t' : String} (hs : Colonless s) (ht : Colonless t) :
    s' ++ ":" ++ t' = s ++ ":" ++ t ↔ s' = s ∧ t' = t := by
  have hsplit : s.toList ++ ':' :: t.toList = s'.toList ++ ':' :: t'.toList ↔
      s.toList = s'.toList ∧ ':' = ':' ∧ t.toList = t'.toList :=
    List.append_cons_inj_of_notMem hs ht
  simpa [← String.toList_inj, eq_comm] using hsplit

theorem Colonless.ne_join {name : String} (hn : Colonless name) (s t : String) : name ≠ s ++ ":" ++ t := by
  rintro rfl
  exact hn (by simp)

/-- The topic of a type is one of the event if the type is that of the event, or its source and its type
with a colon between. -/
theorem ofType_mem_eventTopics {e : Event} {t : String} :
    Topic.ofType t ∈ eventTopics e ↔ e.type = t ∨ e.source ++ ":" ++ e.type = t := by
  have hevent : Topic.ofType t ≠ Topic.event := by
    simp [Topic.ofType, Topic.event, ← String.toList_inj]
  have htype : Topic.ofType t = Topic.ofType e.type ↔ t = e.type := by
    simp [Topic.ofType, ← String.toList_inj]
  have hsource : Topic.ofType t = Topic.ofSource e.source e.type ↔ t = e.source ++ ":" ++ e.type := by
    simp [Topic.ofType, Topic.ofSource, ← String.toList_inj]
  rw [eventTopics, List.mem_cons, List.mem_cons, List.mem_singleton, htype, hsource, eq_comm (a := t),
    eq_comm (a := t)]
  exact or_iff_right hevent

/-- The topic of a source and a type is one of the event if, joined by a colon, they make the source and
the type of the event so joined, or its type. -/
theorem ofSource_mem_eventTopics {e : Event} {s t : String} :
    Topic.ofSource s t ∈ eventTopics e ↔
      e.source ++ ":" ++ e.type = s ++ ":" ++ t ∨ e.type = s ++ ":" ++ t := by
  have htopic : Topic.ofSource s t = Topic.ofType (s ++ ":" ++ t) := by
    simp [Topic.ofType, Topic.ofSource, ← String.toList_inj]
  rw [htopic, ofType_mem_eventTopics, or_comm]

/-! ## Notifications -/

/-- The topics under which the hub tells of itself. -/
def notificationTopics : List String :=
  [Topic.typeDiscovered, Topic.fieldsDiscovered, Topic.genericProcessed, Topic.ruleRegistered,
    Topic.ruleUpdated, Topic.ruleRemoved, Topic.ruleExecuted, Topic.ruleAutoGenerated, Topic.flowCreated,
    Topic.flowUpdated, Topic.flowDeleted, Topic.flowExecuted, Topic.notification]

/-- What begins otherwise than the topics of types do, and is not that of all events, is no topic of an
event. -/
theorem not_mem_eventTopics {topic : String} (he : topic ≠ Topic.event)
    (hp : ¬ ("event:".toList <+: topic.toList)) (e : Event) : topic ∉ eventTopics e := by
  intro hm
  simp only [eventTopics, List.mem_cons, List.not_mem_nil, or_false] at hm
  rcases hm with rfl | rfl | rfl
  · exact he rfl
  · exact hp ⟨e.type.toList, by simp [Topic.ofType, Topic.event]⟩
  · exact hp ⟨e.source.toList ++ ':' :: e.type.toList, by simp [Topic.ofSource, Topic.event]⟩

theorem notification_mem_eventTopics {e : Event} {topic : String} (hn : topic ∈ notificationTopics) :
    topic ∈ eventTopics e ↔ topic = Topic.genericProcessed ∧
      (e.type = "generic:processed" ∨ e.source = "generic" ∧ e.type = "processed") := by
  by_cases hg : topic = Topic.genericProcessed
  · subst hg
    have htopic : Topic.genericProcessed = Topic.ofType "generic:processed" := by decide
    have hjoin : "generic:processed" = "generic" ++ ":" ++ "processed" := by decide
    have hnames : e.source ++ ":" ++ e.type = "generic" ++ ":" ++ "processed" ↔
      e.source = "generic" ∧ e.type = "processed" := join_eq_iff (by decide) (by decide)
    rw [htopic, ofType_mem_eventTopics, ← hnames, ← hjoin, ← htopic]
    simp
  · have hothers : ∀ topic ∈ notificationTopics, topic ≠ Topic.genericProcessed →
      topic ≠ Topic.event ∧ ¬ ("event:".toList <+: topic.toList) := by decide
    obtain ⟨he, hp⟩ := hothers topic hn hg
    exact iff_of_false (not_mem_eventTopics he hp e) fun h => hg h.1

/-! ## Followers -/

namespace Recorder

variable {w : Recorder α} {topic : String} {app : Application α} {h h₁ h₂ h' : Hub α}

/-- The events among the notices that a recorder keeps. -/
def events (w : Recorder α) (a : α) : List Event := (w.kept a).flatMap (·.events)

theorem events_note (w : Recorder α) (n : Notice) (a : α) :
    w.events (w.note n a) = w.events a ++ n.events := by
  simp [events, w.kept_note]

/-- The recorder is subscribed to the topic once, and to nothing else. -/
structure Follows (w : Recorder α) (topic : String) (h : Hub α) : Prop where
  inOrder : h.outages = []
  noMessages : ∀ s ∈ h.bus.subscriptions.entries, s.subscriber ≠ .takeMessage
  on : h.bus.subscriptions.channelsOf (.client w.client) = [.topic topic]

/-- The follower is told these events. -/
def Hears (w : Recorder α) (topic : String) (told : List Event) (h h' : Hub α) : Prop :=
  w.Follows topic h → w.Follows topic h' ∧ w.events h'.host = w.events h.host ++ told

theorem Hears.trans {told more : List Event} (h₁₂ : w.Hears topic told h h₁)
    (h₂₃ : w.Hears topic more h₁ h₂) : w.Hears topic (told ++ more) h h₂ := by
  intro hf
  obtain ⟨hf₁, he₁⟩ := h₁₂ hf
  obtain ⟨hf₂, he₂⟩ := h₂₃ hf₁
  exact ⟨hf₂, by rw [he₂, he₁, List.append_assoc]⟩

/-- What leaves the follower alone. -/
theorem Hears.of_same (ho : h'.outages = h.outages) (hs : h'.bus.subscriptions = h.bus.subscriptions)
    (hh : h'.host = h.host) : w.Hears topic [] h h' := fun hf =>
  ⟨⟨ho.trans hf.inOrder, hs ▸ hf.noMessages, hs ▸ hf.on⟩, by rw [hh, List.append_nil]⟩

/-- The frame in which the follower is told no event. -/
def aside (w : Recorder α) (topic : String) : Frame α where
  allows := w.Hears topic []
  refl _ := .of_same rfl rfl rfl
  trans h₁ h₂ := h₁.trans h₂

theorem aside_free (w : Recorder α) (topic : String) : (w.aside topic).Free where
  log _ _ := .of_same rfl rfl rfl
  effects _ _ := .of_same rfl rfl rfl
  serial _ _ := .of_same rfl rfl rfl
  cache _ _ := .of_same rfl rfl rfl
  deskCounters _ _ _ _ _ := .of_same rfl rfl rfl
  engineCounters _ _ _ _ _ := .of_same rfl rfl rfl

theorem aside_openToEdits (w : Recorder α) (topic : String) : (w.aside topic).OpenToEdits .any where
  free := w.aside_free topic
  edit _ _ _ := .of_same rfl rfl rfl

theorem aside_openToFlows (w : Recorder α) (topic : String) : (w.aside topic).OpenToFlows :=
  .of_flows fun _ _ _ => .of_same rfl rfl rfl

/-- The follower is told no event when the subscriber receives the notice: the subscriber is another, or
the notice is no event. Messages of the broker are not received on the bus. -/
def Elsewhere (w : Recorder α) (s : Subscriber) (n : Notice) : Prop :=
  s ≠ .takeMessage ∧ (s = .client w.client → n.events = [])

/-- The application serves the recorder, and its other functions tell it no events when the reception
that they use does not. -/
structure Suits (w : Recorder α) (topic : String) (app : Application α) : Prop where
  serves : ∀ receive n, app.serve receive w.client n =
    modify fun h => { h with host := w.note n h.host }
  acts : ∀ receive : Receive α,
    (∀ s n, s.Foreign → w.Elsewhere s n → Within (w.aside topic) (receive s n)) →
    ∀ name v ctx, Within (w.aside topic) (app.act receive name v ctx)
  others : ∀ receive : Receive α,
    (∀ s n, s.Foreign → w.Elsewhere s n → Within (w.aside topic) (receive s n)) →
    ∀ k, k ≠ w.client → ∀ n, Within (w.aside topic) (app.serve receive k n)

theorem Follows.elsewhere (hf : w.Follows topic h) {t : String} {s : Subscriber} {n : Notice}
    (hs : s ∈ h.bus.subscriptions.ofTopic t) (hn : s = .client w.client → n.events = []) :
    w.Elsewhere s n := by
  obtain ⟨e, hmem, -, rfl⟩ := Subscriptions.mem_ofTopic.1 hs
  exact ⟨hf.noMessages e hmem, hn⟩

/-- The follower is not among those to whom events are offered by their patterns. -/
theorem Follows.elsewhere_of_offered (hf : w.Follows topic h) {o : Nat × EventPattern × Subscriber}
    (ho : o ∈ h.bus.subscriptions.ofEvents) (n : Notice) : w.Elsewhere o.2.2 n := by
  obtain ⟨⟨id, channel, s⟩, hmem, hp⟩ := List.mem_filterMap.1 ho
  cases channel with
  | topic t => cases hp
  | events pattern =>
    cases hp
    refine ⟨hf.noMessages _ hmem, ?_⟩
    rintro rfl
    have hchannel : .events pattern ∈ h.bus.subscriptions.channelsOf (.client w.client) :=
      List.mem_map.2 ⟨_, List.mem_filter.2 ⟨hmem, by simp⟩, rfl⟩
    rw [hf.on] at hchannel
    simp at hchannel

/-- Where the others tell the follower no events, the reports of the hub tell it none. -/
theorem reports_aside {host : Host α} (topic t : String)
    (hs : ∀ s n, w.Elsewhere s n → Within (w.aside topic) (host.receive s n)) :
    host.ReportsWithin (w.aside topic) t := fun n hn _ hf =>
  allows_announce (w.aside_free topic).openToActions (fun s hmem => hs s n (hf.elsewhere hmem fun _ => hn)) hf

/-- At every depth the others tell the follower no events. -/
theorem Suits.receive (happ : w.Suits topic app) (depth : Nat) {s : Subscriber} {n : Notice}
    (ho : w.Elsewhere s n) : Within (w.aside topic) (receive app depth s n) := by
  induction depth generalizing s n with
  | zero => exact Within.throw _
  | succ depth ih =>
    let host : Host α := { app, receive := EventHub.receive app depth }
    have reports (t : String) : host.ReportsWithin (w.aside topic) t :=
      reports_aside topic t fun _ _ => ih
    have hforeign : ∀ s n, s.Foreign → w.Elsewhere s n → Within (w.aside topic) (host.receive s n) :=
      fun _ _ _ => ih
    have hfree := w.aside_free topic
    have hedits := w.aside_openToEdits topic
    cases s with
    | discoverType =>
      exact within_discoverType hedits (fun _ => trivial) (fun t _ => reports t) (reports _) n
    | discoverFields => exact within_discoverFields hedits (fun _ => trivial) (fun t _ => reports t) n
    | handleEvent =>
      have hacts : host.ActsWithin (w.aside topic) := happ.acts host.receive hforeign
      exact within_handleEvent hfree (w.aside_openToFlows topic) hacts (reports _) (reports _) (reports _)
        (reports _) n
    | takeMessage => exact absurd rfl ho.1
    | function name => exact Within.bind (Within.ofExcept _) fun _ => Within.pure _
    | client k =>
      -- The client hears nothing that is meant for the topic here, since the notice is of another one.
      by_cases hk : k = w.client
      · subst hk
        have hserve : EventHub.receive app (depth + 1) (.client w.client) n =
          modify fun h => { h with host := w.note n h.host } := happ.serves _ n
        rw [hserve]
        intro h hf
        have hnone := w.events_note n h.host
        rw [ho.2 rfl] at hnone
        exact ⟨⟨hf.inOrder, hf.noMessages, hf.on⟩, hnone⟩
      · exact happ.others host.receive hforeign k hk n

/-! ## Dispatch -/

section Dispatch

variable (happ : w.Suits topic app) (depth : Nat)
include happ

/-- The follower is told of an event once under its own topic, and not under others. -/
theorem hears_announce (t : String) (e : Event) (h : Hub α) :
    w.Hears topic (if t = topic then [e] else []) h
      (outcome (announce ⟨app, receive app (depth + 1)⟩ t (.event e)) h).2 := by
  intro hf
  let host : Host α := ⟨app, EventHub.receive app (depth + 1)⟩
  have hone : ∀ s ∈ h.bus.subscriptions.ofTopic t, ∀ h, w.Hears topic
      (if s = .client w.client then [e] else []) h (outcome (host.receive s (.event e)) h).2 := by
    intro s hmem h₁
    by_cases hs : s = .client w.client
    · rw [if_pos hs, hs]
      have hserve : host.receive (.client w.client) (.event e) =
        modify fun h => { h with host := w.note (.event e) h.host } := happ.serves _ _
      rw [hserve]
      exact fun hf₁ => ⟨⟨hf₁.inOrder, hf₁.noMessages, hf₁.on⟩, w.events_note _ _⟩
    · rw [if_neg hs]
      exact happ.receive (depth + 1) (hf.elsewhere hmem fun he => absurd he hs) h₁
  have hheard := deliver_adds (w.aside_free topic).log Hears.trans t hone h hf
  -- The client stands once for each of its subscriptions to the topic, and it has one.
  rw [flatMap_ite_eq_replicate, Subscriptions.count_ofTopic, hf.on] at hheard
  rw [outcome_announce]
  by_cases ht : t = topic
  · subst ht
    rw [if_pos rfl]
    have hcount : [Channel.topic t].countP (·.isTopic t) = 1 := by simp [Channel.isTopic]
    rwa [hcount] at hheard
  · rw [if_neg ht]
    have hcount : [Channel.topic topic].countP (·.isTopic t) = 0 := by
      simp [Channel.isTopic, Ne.symm ht]
    rwa [hcount] at hheard

/-- Under the topics of an event in turn. -/
theorem hears_tellEvent {e : Event}
    (hoffers : Within (w.aside topic) (do
      deliverSelected (α := α) ⟨app, receive app (depth + 1)⟩ e (← get).bus.subscriptions.ofEvents))
    (h : Hub α) : w.Hears topic (if topic ∈ eventTopics e then [e] else []) h
      (outcome (tellEvent ⟨app, receive app (depth + 1)⟩ e) h).2 := by
  have hone := hears_announce happ depth
  have htold : (if topic ∈ eventTopics e then [e] else []) =
      ((eventTopics e).flatMap fun t => if t = topic then [e] else []) ++ [] := by
    rw [flatMap_ite_eq_replicate, (nodup_eventTopics e).count, List.append_nil]
    split <;> rfl
  unfold tellEvent
  rw [outcome_bind_ok (outcome_announce_ok _ _ _), outcome_bind_ok (outcome_announce_ok _ _ _),
    outcome_bind_ok (outcome_announce_ok _ _ _), htold]
  refine Hears.trans ?_ (hoffers _)
  have hthree := (hone Topic.event e h).trans ((hone (Topic.ofType e.type) e _).trans
    ((hone (Topic.ofSource e.source e.type) e _).trans (.of_same rfl rfl rfl)))
  exact hthree

/-- The dispatch of an event tells it to the follower of a topic of the event, once, and tells other
followers no event. -/
theorem hears_dispatch (e : Event) (h : Hub α) :
    w.Hears topic (if topic ∈ eventTopics e then [e] else []) h
      (outcome (dispatchEvent ⟨app, receive app (depth + 1)⟩ e) h).2 := by
  intro hf
  let host : Host α := ⟨app, EventHub.receive app (depth + 1)⟩
  have reports (t : String) : host.ReportsWithin (w.aside topic) t :=
    reports_aside topic t fun _ _ ho => happ.receive (depth + 1) ho
  have hnew : Within (w.aside topic) (announceChange host e (h.bus.schema.observe e.type e.data).1) :=
    within_announceChange (w.aside_free topic).openToActions (reports _) (reports _) e _
  have hoffers : Within (w.aside topic) (do
      deliverSelected (α := α) host e (← get).bus.subscriptions.ofEvents) := fun h hf =>
    within_deliverSelected (w.aside_free topic).openToActions e
      (fun _ ho n => happ.receive (depth + 1) (hf.elsewhere_of_offered ho n)) h hf
  rw [outcome_dispatchEvent hf.inOrder (outcome_announceChange_ok host e _ _)]
  have hfirst : w.Hears topic [] h (h.observed e) := .of_same rfl rfl rfl
  have hall := (hfirst.trans (hnew (h.observed e))).trans (hears_tellEvent happ depth hoffers _)
  exact hall hf

end Dispatch

/-- Routing. The dispatch of an event tells it once to the follower of one of the three topics of the
event, and tells the follower of another topic no event. The topic of a type is one of the event if the
type is that of the event, or else its source and its type joined by a colon; so for a type without a
colon, only if it is that of the event. The topic of a source and a type is one of the event if both make
the same text when they are joined, or the type of the event; so for an event whose names have no colons,
only if source and type are those of the event. No topic of notifications is one of an event but that of
the generic flow, which is for events of type `generic:processed`, and of type `processed` from `generic`. -/
theorem routes (happ : w.Suits topic app) (depth : Nat) (hf : w.Follows topic h) (e : Event) :
    let h' := (outcome (dispatchEvent ⟨app, receive app (depth + 1)⟩ e) h).2
    w.Follows topic h' ∧
    w.events h'.host = w.events h.host ++ (if topic ∈ eventTopics e then [e] else []) ∧
    (∀ t, topic = Topic.ofType t →
      (topic ∈ eventTopics e ↔ e.type = t ∨ e.source ++ ":" ++ e.type = t) ∧
      (Colonless t → (topic ∈ eventTopics e ↔ e.type = t))) ∧
    (∀ s t, topic = Topic.ofSource s t →
      (topic ∈ eventTopics e ↔
        e.source ++ ":" ++ e.type = s ++ ":" ++ t ∨ e.type = s ++ ":" ++ t) ∧
      (Colonless e.source → Colonless e.type →
        (topic ∈ eventTopics e ↔ e.source = s ∧ e.type = t))) ∧
    (topic ∈ notificationTopics →
      (topic ∈ eventTopics e ↔ topic = Topic.genericProcessed ∧
        (e.type = "generic:processed" ∨ e.source = "generic" ∧ e.type = "processed"))) := by
  obtain ⟨hf', hevents⟩ := hears_dispatch happ depth e h hf
  refine ⟨hf', hevents, ?_, ?_, notification_mem_eventTopics⟩
  · rintro t rfl
    refine ⟨ofType_mem_eventTopics, fun ht => ?_⟩
    rw [ofType_mem_eventTopics]
    exact or_iff_left fun hj => ht.ne_join _ _ hj.symm
  · rintro s t rfl
    refine ⟨ofSource_mem_eventTopics, fun hs ht => ?_⟩
    rw [ofSource_mem_eventTopics, or_iff_left (ht.ne_join s t), eq_comm, join_eq_iff hs ht, eq_comm,
      eq_comm (a := t)]

end Recorder

/-- A hub on whose bus a client follows the topic. -/
def Hub.tuned (topic : String) : Hub (List Notice) :=
  (outcome (subscribe topic (some (.client 0))) (Hub.atMidnight [])).2

theorem Recorder.listing_follows (topic : String) :
    Recorder.listing.Follows topic (Hub.tuned topic) where
  inOrder := rfl
  noMessages s hs := by
    have hentries : (Hub.tuned topic).bus.subscriptions.entries = [⟨1, .topic topic, .client 0⟩] := rfl
    rw [hentries, List.mem_singleton] at hs
    rw [hs]
    nofun
  on := rfl

theorem Recorder.listing_suits (topic : String) : Recorder.listing.Suits topic Application.listing where
  serves _ _ := rfl
  acts _ _ _ _ _ := Within.pure _
  others _ _ k hk _ := by
    have hother : k ≠ 0 := hk
    unfold Application.listing
    dsimp only
    rw [if_neg hother]
    exact Within.pure _

/-- The events that a client that follows the topic was told when the event was dispatched. -/
def toldOf (topic : String) (e : Event) : List Event :=
  Recorder.listing.events (outcome (dispatchEvent Application.listing.host e) (Hub.tuned topic)).2.host

/-- An event of the given source and type. -/
def eventOf (source type : String) : Event := ⟨"e1", type, source, "2024-01-01T00:00:00", [], []⟩

/-- The follower of motion at a camera is told of motion there, and of nothing else there. -/
theorem Recorder.routes_camera :
    toldOf (Topic.ofSource "cam" "motion") (eventOf "cam" "motion") = [eventOf "cam" "motion"] ∧
    toldOf (Topic.ofSource "cam" "motion") (eventOf "cam" "door") = [] := by
  have routed (e : Event) := Recorder.routes (Recorder.listing_suits (Topic.ofSource "cam" "motion")) 199
    (Recorder.listing_follows _) e
  have matched {e : Event} (hs : Colonless e.source) (ht : Colonless e.type) :
      Topic.ofSource "cam" "motion" ∈ eventTopics e ↔ e.source = "cam" ∧ e.type = "motion" :=
    ((routed e).2.2.2.1 "cam" "motion" rfl).2 hs ht
  have hmotion : Topic.ofSource "cam" "motion" ∈ eventTopics (eventOf "cam" "motion") :=
    (matched (by decide) (by decide)).2 ⟨rfl, rfl⟩
  have hdoor : Topic.ofSource "cam" "motion" ∉ eventTopics (eventOf "cam" "door") := fun hm =>
    absurd ((matched (by decide) (by decide)).1 hm).2 (by decide)
  constructor
  · have htold := (routed (eventOf "cam" "motion")).2.1
    rw [if_pos hmotion] at htold
    exact htold
  · have htold := (routed (eventOf "cam" "door")).2.1
    rw [if_neg hdoor] at htold
    exact htold

/-- Names with colons go astray: who follows the type `cam:motion` is told of motion from `cam`, and who
follows the notifications of the generic flow is told an event. -/
theorem routes_astray :
    toldOf (Topic.ofType "cam:motion") (eventOf "cam" "motion") = [eventOf "cam" "motion"] ∧
    (eventOf "cam" "motion").type ≠ "cam:motion" ∧
    toldOf Topic.genericProcessed (eventOf "generic" "processed") = [eventOf "generic" "processed"] ∧
    Topic.genericProcessed ∈ notificationTopics := by
  have told {topic : String} {e : Event} (hm : topic ∈ eventTopics e) : toldOf topic e = [e] := by
    obtain ⟨-, htold⟩ := Recorder.hears_dispatch (Recorder.listing_suits topic) 199 e _
      (Recorder.listing_follows topic)
    rw [if_pos hm] at htold
    exact htold
  exact ⟨told (ofType_mem_eventTopics.2 (.inr (by decide))), by decide,
    told ((notification_mem_eventTopics (by decide)).2 ⟨rfl, .inr ⟨rfl, rfl⟩⟩), by decide⟩

end EventHub
