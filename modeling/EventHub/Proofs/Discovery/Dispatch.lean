import EventHub.Proofs.Discovery.Track
import EventHub.Proofs.Hub.Run

/-!
# Dispatch and the schema

* **Events** (`Hub.Tracks.dispatch`): the dispatch of an event never fails, and keeps the book in step
  with the schema, which has seen the event.
* **The queue** (`Hub.Tracks.drain`, `Hub.Tracks.enqueue`, `Hub.Tracks.publish`): so does the
  dispatcher at work, and whatever is published.
-/

namespace EventHub

open EventHub.Task

variable {α : Type} {app : Application α} {h : Hub α} {seen : List Event}

/-! ## Subscribers of events -/

/-- Where no discovery is told of, the hub itself hears of events only. -/
theorem Hub.Steady.foreign_or_handleEvent (hh : h.Steady) {topic : String}
    (ht : topic ≠ Topic.typeDiscovered) (hf : topic ≠ Topic.fieldsDiscovered) {s : Subscriber}
    (hs : s ∈ h.bus.subscriptions.ofTopic topic) : s.Foreign ∨ s = .handleEvent := by
  refine (hh.heard hs).imp_right fun hl => ?_
  simp only [hubListeners, List.mem_cons, Prod.mk.injEq, List.not_mem_nil, or_false] at hl
  rcases hl with ⟨htopic, -⟩ | ⟨htopic, -⟩ | ⟨-, hs⟩
  · exact absurd htopic ht
  · exact absurd htopic hf
  · exact hs

/-- Patterns select events for others only. -/
theorem Hub.Steady.foreign_of_mem_ofEvents (hh : h.Steady) {o : Nat × EventPattern × Subscriber}
    (ho : o ∈ h.bus.subscriptions.ofEvents) : o.2.2.Foreign := by
  have hapt := hh.apt _ (Subscriptions.mem_ofEvents.1 ho)
  cases hs : o.2.2 <;> simp_all [Subscription.Apt, Subscriber.Foreign]

theorem outcome_deliverSelected_ok {host : Host α} (e : Event)
    (offers : List (Nat × EventPattern × Subscriber)) (h : Hub α) :
    outcome (deliverSelected host e offers) h =
      (.ok (), (outcome (deliverSelected host e offers) h).2) := by
  refine outcome_of_isOk ?_
  induction offers generalizing h with
  | nil => rfl
  | cons first rest ih =>
    obtain ⟨id, pattern, s⟩ := first
    unfold deliverSelected
    rw [outcome_bind_ok (outcome_attempt _ h)]
    cases (outcome (offer host e pattern s) h).1 with
    | ok _ => exact ih _
    | error fault => exact ih _

/-! ## Events -/

/-- The events that wait, and what the dispatcher is at. -/
def Bus.queue (b : Bus) : List Event × Bool × Bool := (b.pending, b.busy, b.running)

theorem Bus.queue_eq_iff {b : Bus} {pending : List Event} {busy running : Bool} :
    b.queue = (pending, busy, running) ↔
      b.pending = pending ∧ b.busy = busy ∧ b.running = running := by
  rw [Bus.queue, Prod.mk.injEq, Prod.mk.injEq]

theorem Bus.queue_of_observing {h' : Hub α} (ho : h'.observing = h.observing) :
    h'.bus.queue = h.bus.queue := by
  simp only [Hub.observing, Prod.mk.injEq] at ho
  obtain ⟨-, hpending, hbusy, hrunning, -, -⟩ := ho
  rw [queue, queue, hpending, hbusy, hrunning]

/-- The topics under which an event is told. -/
def eventTopics (e : Event) : List String :=
  [Topic.event, Topic.ofType e.type, Topic.ofSource e.source e.type]

theorem not_discovery_of_mem_eventTopics {e : Event} {topic : String} (ht : topic ∈ eventTopics e) :
    topic ≠ Topic.typeDiscovered ∧ topic ≠ Topic.fieldsDiscovered := by
  simp only [eventTopics, List.mem_cons, List.not_mem_nil, or_false] at ht
  rcases ht with rfl | rfl | rfl <;>
    simp [Topic.event, Topic.ofType, Topic.ofSource, Topic.typeDiscovered, Topic.fieldsDiscovered,
      ← String.toList_inj, String.toList_append]

theorem nodup_eventTopics (e : Event) : (eventTopics e).Nodup := by
  have hjoin : Topic.ofType e.type ≠ Topic.ofSource e.source e.type := fun h => by
    have hlength := congrArg (fun s : String => s.toList.length) h
    simp [Topic.ofType, Topic.ofSource] at hlength
    omega
  have hevent : Topic.event ≠ Topic.ofType e.type ∧ Topic.event ≠ Topic.ofSource e.source e.type := by
    simp [Topic.event, Topic.ofType, Topic.ofSource, ← String.toList_inj]
  simp [eventTopics, hjoin, hevent]

/-- What follows the announcement of what was new in an event. -/
def tellEvent (host : Host α) (e : Event) : Task α Unit := do
  announce host Topic.event (.event e)
  announce host (Topic.ofType e.type) (.event e)
  announce host (Topic.ofSource e.source e.type) (.event e)
  deliverSelected host e (← get).bus.subscriptions.ofEvents

theorem outcome_tellEvent_ok (host : Host α) (e : Event) (h : Hub α) :
    outcome (tellEvent host e) h = (.ok (), (outcome (tellEvent host e) h).2) := by
  refine outcome_of_isOk ?_
  unfold tellEvent
  rw [outcome_bind_ok (outcome_announce_ok _ _ _), outcome_bind_ok (outcome_announce_ok _ _ _),
    outcome_bind_ok (outcome_announce_ok _ _ _), outcome_bind_ok (outcome_get _),
    outcome_deliverSelected_ok]
  rfl

theorem within_tellEvent {F : Frame α} {host : Host α} {e : Event}
    (ht : ∀ topic ∈ eventTopics e, host.TellsWithin F topic)
    (ho : Within F (do deliverSelected host e (← get).bus.subscriptions.ofEvents)) :
    Within F (tellEvent host e) := by
  refine Within.bind (ht _ (by simp [eventTopics]) _) fun _ => ?_
  refine Within.bind (ht _ (by simp [eventTopics]) _) fun _ => ?_
  exact Within.bind (ht _ (by simp [eventTopics]) _) fun _ => ho

/-- A new type is announced first, then its fields as if the type were known. -/
theorem announceChange_true (host : Host α) (e : Event) (new : List DiscoveredField) :
    announceChange host e ⟨true, new⟩ = (do
      Task.log .warning busPart s!"New event type discovered: {e.type}"
      announce host Topic.typeDiscovered (.typeDiscovery ⟨e.type, e.timestamp, e.data⟩)
      announceChange host e ⟨false, new⟩) := by
  simp [announceChange]

theorem announceChange_false (host : Host α) (e : Event) (new : List DiscoveredField) :
    announceChange host e ⟨false, new⟩ = if new.isEmpty then return () else (do
      let discovery : FieldsDiscovery := ⟨e.type, new, e.timestamp⟩
      Task.log .warning busPart
        (s!"New fields discovered for {e.type}: " ++ commaList discovery.fieldNames)
      announce host Topic.fieldsDiscovered (.fieldsDiscovery discovery)) := by
  cases new <;> simp [announceChange]

theorem outcome_announceChange_ok (host : Host α) (e : Event) (change : SchemaChange) (h : Hub α) :
    outcome (announceChange host e change) h = (.ok (), (outcome (announceChange host e change) h).2) := by
  have hlog (text : String) (h : Hub α) := outcome_log (show Level.warning.kept = true from rfl) busPart text h
  have hfields (new : List DiscoveredField) (h : Hub α) :
      (outcome (announceChange host e ⟨false, new⟩) h).1.isOk = true := by
    rw [announceChange_false]
    split
    · rfl
    · dsimp only
      rw [outcome_bind_ok (hlog _ _), outcome_announce_ok]
      rfl
  refine outcome_of_isOk ?_
  obtain ⟨newType, new⟩ := change
  cases newType with
  | false => exact hfields new h
  | true =>
    rw [announceChange_true, outcome_bind_ok (hlog _ _), outcome_bind_ok (outcome_announce_ok _ _ _)]
    exact hfields new _

/-- The hub that has recorded an event and observed its payload. -/
def Hub.observed (h : Hub α) (e : Event) : Hub α :=
  { h with bus := { h.bus with
    history := h.bus.history.record e, schema := (h.bus.schema.observe e.type e.data).2 } }

/-- The dispatch of an event: it is observed, what was new is announced, and the event is told of. -/
theorem outcome_dispatchEvent {host : Host α} {e : Event} {h' : Hub α} (ho : h.outages = [])
    (hc : outcome (announceChange host e (h.bus.schema.observe e.type e.data).1) (h.observed e) =
      (.ok (), h')) : outcome (dispatchEvent host e) h = outcome (tellEvent host e) h' := by
  let h₀ : Hub α := { h with bus := { h.bus with history := h.bus.history.record e } }
  have hrecord : outcome (modifyBus (α := α) fun b => { b with history := b.history.record e }) h =
    (.ok (), h₀) := rfl
  have hobserve : outcome (observeEvent e) h₀ =
      (.ok (h.bus.schema.observe e.type e.data).1, h.observed e) :=
    outcome_bind_ok (outcome_inService_ok (h := h₀) ho)
  unfold dispatchEvent
  rw [outcome_bind_ok hrecord, outcome_bind_ok hobserve, outcome_bind_ok hc]
  rfl

theorem outcome_dispatchQueued_ok (host : Host α) (e : Event) (h : Hub α) :
    outcome (dispatchQueued host e) h = (.ok (), (outcome (dispatchQueued host e) h).2) := by
  let h₁ : Hub α := { h with bus := { h.bus with busy := true } }
  have hbegin : outcome (modifyBus (α := α) fun b => { b with busy := true }) h = (.ok (), h₁) := rfl
  refine outcome_of_isOk ?_
  unfold dispatchQueued
  rw [outcome_bind_ok hbegin, outcome_bind_ok (outcome_attempt _ h₁)]
  cases (outcome (dispatchEvent host e) h₁).1 <;> rfl

theorem outcome_drain_ok (host : Host α) (n : Nat) (h : Hub α) :
    outcome (drain host n) h = (.ok (), (outcome (drain host n) h).2) := by
  refine outcome_of_isOk ?_
  induction n generalizing h with
  | zero => rfl
  | succ n ih =>
    unfold drain
    rw [outcome_bind_ok (outcome_get h)]
    dsimp only
    split
    · cases h.bus.pending with
      | nil => rfl
      | cons e rest =>
        have htake : outcome (modifyBus (α := α) fun b => { b with pending := rest }) h =
          (.ok (), { h with bus := { h.bus with pending := rest } }) := rfl
        dsimp only
        rw [outcome_bind_ok htake, outcome_bind_ok (outcome_dispatchQueued_ok host e _)]
        exact ih _
    · rfl

section Dispatch

variable (happ : app.StaysForeign .sparing) (depth : Nat)
include happ

/-- Telling of an event spares the rules of event types. -/
theorem tells_event {e : Event} {topic : String} (ht : topic ∈ eventTopics e) :
    Host.TellsWithin ⟨app, receive app (depth + 1)⟩ .sparing topic := fun n h hh => by
  obtain ⟨htype, hfields⟩ := not_discovery_of_mem_eventTopics ht
  refine allows_announce Frame.sparing_free.openToActions.openToTraces (fun s hs => ?_) hh
  obtain hforeign | rfl := hh.foreign_or_handleEvent htype hfields hs
  · exact happ.receive (depth + 1) hforeign n
  · exact within_handleEvent_sparing happ depth n

/-- Offering an event to those whose patterns select it spares the rules of event types. -/
theorem within_offers (e : Event) : Within .sparing (do
    deliverSelected (α := α) ⟨app, receive app (depth + 1)⟩ e (← get).bus.subscriptions.ofEvents) :=
  fun h hh => within_deliverSelected Frame.sparing_free.openToActions e
    (fun _ ho n => happ.receive (depth + 1) (hh.foreign_of_mem_ofEvents ho) n) h hh

/-- The dispatch of an event keeps the book in step with the schema. -/
theorem Hub.Tracks.dispatch (hh : h.Tracks seen) {e : Event} (he : (Assoc.keys e.data).Nodup) :
    ∃ h', outcome (dispatchEvent ⟨app, receive app (depth + 1)⟩ e) h = (.ok (), h') ∧
      h'.Tracks (seen ++ [e]) ∧ h'.bus.queue = h.bus.queue := by
  let host : Host α := ⟨app, receive app (depth + 1)⟩
  have hattends : (h.observed e).Attends :=
    ⟨⟨hh.steady.inOrder, hh.steady.outlet, hh.steady.apt⟩, hh.keyed, hh.listening⟩
  have hobserved : h.bus.schema.observe e.type e.data =
    ((h.bus.schema.observe e.type e.data).1, (h.observed e).bus.schema) := rfl
  obtain ⟨h₂, hchange, hattends₂, hobserving, htypes, hagrees⟩ :=
    hattends.announceChange hh.types happ depth hh.agrees hobserved he
  obtain ⟨hschema, hpending, -⟩ := by simpa only [Hub.observing, Prod.mk.injEq] using hobserving
  have htracks : h₂.Tracks (seen ++ [e]) :=
    ⟨hattends₂, by rwa [hschema], by rwa [hschema], by rw [hpending]; exact hh.waiting⟩
  have hspares : Frame.sparing.allows h₂ (outcome (tellEvent host e) h₂).2 :=
    within_tellEvent (fun _ ht => tells_event happ depth ht) (within_offers happ depth e) h₂
  refine ⟨(outcome (tellEvent host e) h₂).2, ?_, htracks.of_sparing hspares, ?_⟩
  · rw [outcome_dispatchEvent hh.steady.inOrder hchange]
    exact outcome_tellEvent_ok host e h₂
  · rw [Bus.queue_of_observing (hspares htracks.steady).2.1, Bus.queue_of_observing hobserving]
    rfl

/-! ## The queue -/

omit happ in
/-- The queue is of no account, as long as what waits has distinct fields. -/
theorem Hub.Tracks.withQueue (hh : h.Tracks seen) {pending : List Event}
    (hp : ∀ e ∈ pending, (Assoc.keys e.data).Nodup) (busy running : Bool) :
    Tracks seen { h with bus := { h.bus with pending, busy, running } } :=
  ⟨⟨⟨hh.steady.inOrder, hh.steady.outlet, hh.steady.apt⟩, hh.keyed, hh.listening⟩, hh.types, hh.agrees,
    hp⟩

theorem Hub.Tracks.dispatchQueued (hh : h.Tracks seen) {e : Event} (he : (Assoc.keys e.data).Nodup) :
    ∃ h', outcome (dispatchQueued ⟨app, receive app (depth + 1)⟩ e) h = (.ok (), h') ∧
      h'.Tracks (seen ++ [e]) ∧ h'.bus.queue = (h.bus.pending, false, h.bus.running) := by
  let h₁ : Hub α := { h with bus := { h.bus with busy := true } }
  obtain ⟨h₂, hrun, hh₂, hqueue⟩ := (hh.withQueue hh.waiting true h.bus.running).dispatch happ depth he
  obtain ⟨hpending, -, hrunning⟩ := Bus.queue_eq_iff.1 hqueue
  let h₃ : Hub α := { h₂ with bus := { h₂.bus with busy := false } }
  have hbegin : outcome (modifyBus (α := α) fun b => { b with busy := true }) h = (.ok (), h₁) := rfl
  have hend : outcome (modifyBus (α := α) fun b => { b with busy := false }) h₂ = (.ok (), h₃) := rfl
  refine ⟨h₃, ?_, hh₂.withQueue hh₂.waiting false h₂.bus.running, ?_⟩
  · unfold EventHub.dispatchQueued
    rw [outcome_bind_ok hbegin, outcome_bind_ok (outcome_attempt _ h₁), hrun]
    exact hend
  · rw [← hpending, ← hrunning]
    rfl

/-- The dispatcher at work keeps the book in step with the schema, one event after the other. -/
theorem Hub.Tracks.drain (n : Nat) (hh : h.Tracks seen) :
    ∃ h', outcome (drain ⟨app, receive app (depth + 1)⟩ n) h = (.ok (), h') ∧
      h'.Tracks (seen ++ h.bus.dispatched n) := by
  induction n generalizing h seen with
  | zero =>
    refine ⟨h, rfl, ?_⟩
    rwa [Bus.dispatched, List.take_zero, ite_self, List.append_nil]
  | succ n ih =>
    unfold EventHub.drain
    rw [outcome_bind_ok (outcome_get h)]
    dsimp only
    by_cases hwork : (h.bus.running && !h.bus.busy) = true
    case neg =>
      rw [if_neg hwork, Bus.dispatched, if_neg hwork, List.append_nil]
      exact ⟨h, rfl, hh⟩
    rw [if_pos hwork, Bus.dispatched, if_pos hwork]
    cases hp : h.bus.pending with
    | nil =>
      rw [List.take_nil, List.append_nil]
      exact ⟨h, rfl, hh⟩
    | cons e rest =>
      have hwaiting : ∀ e' ∈ rest, (Assoc.keys e'.data).Nodup := fun e' he' =>
        hh.waiting e' (hp ▸ List.mem_cons_of_mem e he')
      let h₁ : Hub α := { h with bus := { h.bus with pending := rest } }
      have htake : outcome (modifyBus (α := α) fun b => { b with pending := rest }) h =
        (.ok (), h₁) := rfl
      obtain ⟨h₂, hrun, hh₂, hqueue⟩ :=
        (hh.withQueue hwaiting h.bus.busy h.bus.running).dispatchQueued happ depth
          (hh.waiting e (hp ▸ List.mem_cons_self))
      -- The event left the rest waiting and the dispatcher free, so the induction goes on from there.
      obtain ⟨h', hrest, hh'⟩ := ih hh₂
      refine ⟨h', ?_, ?_⟩
      · rw [outcome_bind_ok htake, outcome_bind_ok hrun]
        exact hrest
      · obtain ⟨hpending, hbusy, hrunning⟩ := Bus.queue_eq_iff.1 hqueue
        rw [Bus.dispatched, hpending, hbusy, hrunning] at hh'
        rw [Bool.and_eq_true] at hwork
        rw [hwork.1, List.append_assoc] at hh'
        exact hh'

/-- An event is put into the queue, perhaps after others were dispatched to make room for it. -/
theorem Hub.Tracks.enqueue (hh : h.Tracks seen) {e : Event} (he : (Assoc.keys e.data).Nodup)
    (hr : h.bus.running = true) :
    (outcome (enqueueEvent ⟨app, receive app (depth + 1)⟩ e) h).2.Tracks
      (seen ++ h.bus.observedBy e) := by
  have hlast {seen : List Event} {h : Hub α} (hh : h.Tracks seen) : (outcome (do
      if (← get).bus.full then
        Task.log .error busPart s!"Event queue full; rejecting event {e.id} type={e.type}"
        throw (.busFull e.id)
      modifyBus (·.enqueue e)) h).2.Tracks seen := by
    rw [outcome_bind_ok (outcome_get h)]
    by_cases hfull : h.bus.full = true
    · rw [if_pos hfull]
      exact hh.of_sparing (Frame.sparing_free.log h _)
    · rw [if_neg hfull]
      refine hh.withQueue (fun e' he' => ?_) h.bus.busy h.bus.running
      obtain hmem | rfl := by simpa using he'
      · exact hh.waiting e' hmem
      · exact he
  have hnone : (!h.bus.running) = false := by rw [hr]; rfl
  unfold enqueueEvent
  rw [outcome_bind_ok (outcome_get h), Bus.observedBy, hnone, if_neg Bool.false_ne_true]
  dsimp only
  by_cases hpatience : (decide (0 < h.bus.capacity) && decide (h.bus.patience < 0)) = true
  case pos =>
    rw [if_pos hpatience, if_pos hpatience, List.append_nil]
    exact hh
  rw [if_neg hpatience, if_neg hpatience]
  -- A full queue is drained first, and what is drained is observed; the event itself only waits.
  by_cases hfull : h.bus.full = true
  · rw [if_pos hfull, if_pos hfull]
    obtain ⟨h', hrun, hh'⟩ := hh.drain happ depth drainLimit
    rw [outcome_bind_ok hrun]
    exact hlast hh'
  · rw [if_neg hfull, if_neg hfull, List.append_nil]
    exact hlast hh

/-- Publishing an event keeps the book in step with the schema. -/
theorem Hub.Tracks.publish (hh : h.Tracks seen) {raw : Definition Event}
    (he : ∀ e, (outcome (normalizeEvent raw) h).1 = .ok e → (Assoc.keys e.data).Nodup) :
    (outcome (publishEvent ⟨app, receive app (depth + 1)⟩ raw) h).2.Tracks
      (seen ++ (HubCall.publish raw).observed h) := by
  obtain ⟨n, hdrawn⟩ := normalizeEvent_hub raw h
  unfold publishEvent
  rw [HubCall.observed, outcome_bind]
  generalize outcome (normalizeEvent raw) h = run at he hdrawn
  obtain ⟨r, h₁⟩ := run
  obtain rfl : h₁ = { h with serial := n } := hdrawn
  have hh₁ := hh.of_sparing (Frame.sparing_free.serial h n)
  cases r with
  | error fault =>
    dsimp only
    rwa [List.append_nil]
  | ok e =>
    dsimp only
    rw [outcome_bind_ok (outcome_get _)]
    cases hr : h.bus.running with
    | true =>
      rw [if_pos rfl, hub_bind_pure]
      exact hh₁.enqueue happ depth (he e rfl) hr
    | false =>
      obtain ⟨h', hrun, hh', -⟩ := hh₁.dispatch happ depth (he e rfl)
      rw [if_neg Bool.false_ne_true, hub_bind_pure, hrun, Bus.observedBy, hr]
      exact hh'

end Dispatch

end EventHub
