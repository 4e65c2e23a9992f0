import EventHub.Proofs.Frame.Receive

/-!
# Steady hubs

A hub is steady while its operations are in order, its engine tells the bus, and its own listeners
are subscribed only to what they listen to. Clients and functions of the application may be
subscribed to anything.

* **Frames** (`Frame.whileSteady`): a frame of steady hubs. It says nothing of hubs that are not.
* **Telling** (`tells_foreign`): a notice under any other topic is received by clients and
  functions only, so it is told within every such frame in which the clients stay.
* **Functions** (`Application.StaysForeign`): it is enough that the functions of the application stay in
  a frame in which the reception of clients and functions does, at every depth.
-/

namespace EventHub

open EventHub.Task

variable {α : Type} {F R : Frame α} {app : Application α} {host : Host α}

/-- A client or a function of the application. -/
def Subscriber.Foreign : Subscriber → Prop
  | .function _ | .client _ => True
  | _ => False

instance : DecidablePred Subscriber.Foreign
  | .function _ | .client _ => isTrue trivial
  | .discoverType | .discoverFields | .handleEvent | .takeMessage => isFalse id

/-- The subscription is none of the hub's own listeners, or one to what it listens to. -/
def Subscription.Apt (s : Subscription) : Prop :=
  match s.subscriber with
  | .discoverType => s.channel = .topic Topic.typeDiscovered
  | .discoverFields => s.channel = .topic Topic.fieldsDiscovered
  | .handleEvent => s.channel = .topic Topic.event
  | .takeMessage => False
  | .function _ | .client _ => True

theorem Subscription.Apt.of_foreign {s : Subscription} (h : s.subscriber.Foreign) : s.Apt := by
  obtain ⟨id, channel, subscriber⟩ := s
  cases subscriber <;> trivial

/-- The topics that the hub listens to, each with its listener. -/
def hubListeners : List (String × Subscriber) :=
  [(Topic.typeDiscovered, .discoverType), (Topic.fieldsDiscovered, .discoverFields),
    (Topic.event, .handleEvent)]

/-- The topics that the hub's own listeners listen to. -/
def listenedTopics : List String := hubListeners.map (·.1)

/-- A steady hub (module doc). -/
structure Hub.Steady (h : Hub α) : Prop where
  inOrder : h.outages = []
  outlet : h.engine.outlet = some .bus
  apt : ∀ s ∈ h.bus.subscriptions.entries, s.Apt

/-- A subscription that is apt may be added. -/
theorem Subscriptions.apt_add {s : Subscriptions} (hs : ∀ e ∈ s.entries, e.Apt) {channel : Channel}
    {subscriber : Subscriber} (hnew : ∀ id, Subscription.Apt ⟨id, channel, subscriber⟩) :
    ∀ e ∈ (s.add channel subscriber).2.entries, e.Apt := by
  intro e he
  rcases List.mem_append.1 he with he | he
  · exact hs e he
  · rw [List.mem_singleton.1 he]
    exact hnew _

theorem Subscriptions.apt_remove {s : Subscriptions} (hs : ∀ e ∈ s.entries, e.Apt) (id : Nat) :
    ∀ e ∈ (s.remove id).2.entries, e.Apt := fun e he => hs e (List.mem_filter.1 he).1

theorem Subscriptions.mem_ofTopic {s : Subscriptions} {topic : String} {subscriber : Subscriber} :
    subscriber ∈ s.ofTopic topic ↔
      ∃ e ∈ s.entries, e.channel = .topic topic ∧ e.subscriber = subscriber := by
  have hc (c : Channel) : c.isTopic topic = true ↔ c = .topic topic := by
    cases c <;> simp [Channel.isTopic]
  simp [Subscriptions.ofTopic, hc, and_assoc]

theorem Subscriptions.mem_ofEvents {s : Subscriptions} {o : Nat × EventPattern × Subscriber} :
    o ∈ s.ofEvents ↔ ⟨o.1, .events o.2.1, o.2.2⟩ ∈ s.entries := by
  have hp (e : Subscription) : pattern? e = some o ↔ e = ⟨o.1, .events o.2.1, o.2.2⟩ := by
    obtain ⟨id, channel, subscriber⟩ := e
    cases channel <;> simp [pattern?, Prod.ext_iff]
  simp [ofEvents, hp]

/-- A notice is received by others, or by the hub's own listener to its topic. -/
theorem Hub.Steady.heard {h : Hub α} (hh : h.Steady) {topic : String} {s : Subscriber}
    (hs : s ∈ h.bus.subscriptions.ofTopic topic) : s.Foreign ∨ (topic, s) ∈ hubListeners := by
  obtain ⟨e, hmem, hc, rfl⟩ := Subscriptions.mem_ofTopic.1 hs
  have hapt := hh.apt e hmem
  unfold Subscription.Apt at hapt
  cases he : e.subscriber <;> rw [he] at hapt <;>
    simp_all [Subscriber.Foreign, hubListeners]

/-- What the hub does not listen to is received by others only. -/
theorem Hub.Steady.foreign {h : Hub α} (hh : h.Steady) {topic : String}
    (ht : topic ∉ listenedTopics) {s : Subscriber}
    (hs : s ∈ h.bus.subscriptions.ofTopic topic) : s.Foreign :=
  (hh.heard hs).resolve_right fun hl => ht (List.mem_map.2 ⟨_, hl, rfl⟩)

/-! ## Frames -/

/-- Steady hubs stay steady and in the frame. -/
def Frame.whileSteady (R : Frame α) : Frame α where
  allows h h' := h.Steady → h'.Steady ∧ R.allows h h'
  refl h hh := ⟨hh, R.refl h⟩
  trans h₁ h₂ hh :=
    have s₁ := h₁ hh
    have s₂ := h₂ s₁.1
    ⟨s₂.1, R.trans s₁.2 s₂.2⟩

theorem Frame.whileSteady_free (hR : R.Free) : R.whileSteady.Free where
  log h lines hh := ⟨⟨hh.inOrder, hh.outlet, hh.apt⟩, hR.log h lines⟩
  effects h e hh := ⟨⟨hh.inOrder, hh.outlet, hh.apt⟩, hR.effects h e⟩
  serial h n hh := ⟨⟨hh.inOrder, hh.outlet, hh.apt⟩, hR.serial h n⟩
  cache h c hh := ⟨⟨hh.inOrder, hh.outlet, hh.apt⟩, hR.cache h c⟩
  deskCounters h a b c d hh := ⟨⟨hh.inOrder, hh.outlet, hh.apt⟩, hR.deskCounters h a b c d⟩
  engineCounters h a b c d hh := ⟨⟨hh.inOrder, hh.outlet, hh.apt⟩, hR.engineCounters h a b c d⟩

/-- A notice of a topic that the hub does not listen to is told within a frame of steady hubs in
which clients and functions stay. -/
theorem tells_foreign (hR : R.Free) {topic : String} (ht : topic ∉ listenedTopics)
    (hs : ∀ s : Subscriber, s.Foreign → ∀ n, Within R.whileSteady (host.receive s n)) :
    host.TellsWithin R.whileSteady topic := fun n _ hh =>
  allows_announce (Frame.whileSteady_free hR) (fun s hmem => hs s (hh.foreign ht hmem) n) hh

/-! ## Functions of the application -/

/-- The functions of the application stay in a frame in which the reception of clients and functions
does. -/
structure Application.StaysForeign (app : Application α) (F : Frame α) : Prop where
  act : ∀ receive : Receive α, (∀ s, s.Foreign → ∀ n, Within F (receive s n)) →
    ∀ name v ctx, Within F (app.act receive name v ctx)
  serve : ∀ receive : Receive α, (∀ s, s.Foreign → ∀ n, Within F (receive s n)) →
    ∀ k n, Within F (app.serve receive k n)

/-- Clients and functions stay in the frame at every depth, by induction on the depth. -/
theorem Application.StaysForeign.receive (happ : app.StaysForeign F) (depth : Nat) {s : Subscriber}
    (hs : s.Foreign) (n : Notice) : Within F (EventHub.receive app depth s n) := by
  induction depth generalizing s n with
  | zero => exact Within.throw _
  | succ depth ih =>
    cases s with
    | function name => exact Within.bind (Within.ofExcept _) fun _ => Within.pure _
    | client k => exact happ.serve _ (fun _ hs n => ih hs n) k n
    | discoverType | discoverFields | handleEvent | takeMessage => exact hs.elim

theorem Application.StaysForeign.acts (happ : app.StaysForeign F) (depth : Nat) :
    Host.ActsWithin ⟨app, EventHub.receive app depth⟩ F :=
  happ.act _ fun _ hs n => happ.receive depth hs n

theorem Application.StaysForeign.deep (happ : app.StaysForeign F) : app.StaysDeep F where
  act := happ.acts
  serve depth := happ.serve _ fun _ hs n => happ.receive depth hs n

end EventHub
