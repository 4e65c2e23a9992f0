import EventHub.Hub.Assembly
import EventHub.Proofs.Hub.Steady

/-!
# Runs of a hub

A hub is started on a fresh bus and then called in any order: events are published, rules and flows
are registered, changed, removed and run, others subscribe, and the dispatcher starts, works and
stops. Calls may fail.

* **Calls** (`HubCall`): what a `RunPolicy` permits of them (`HubCall.Permitted`), and the events
  that they make the hub observe (`HubCall.observed`).
* **Runs** (`HubRun`): the hubs that calls lead to, with the events observed so far.
* `fresh_of_assemble`: a hub that was assembled from settings is fresh.
* `HubRun.stays`: a run stays in every frame that lets the hub do what it does.
-/

namespace EventHub

open EventHub.Task

variable {α : Type}

/-! ## Fresh hubs -/

/-- A hub that has not been started: nobody listens, nothing was observed, and there are neither
rules nor flows. -/
structure Hub.Fresh (h : Hub α) : Prop where
  inOrder : h.outages = []
  subscriptions : h.bus.subscriptions = .none
  schema : h.bus.schema = .empty
  pending : h.bus.pending = []
  busy : h.bus.busy = false
  rules : h.engine.book = .empty
  outlet : h.engine.outlet = some .bus
  flows : h.flows = .empty

theorem fresh_of_assemble {settings : Settings} {broker : Option Broker} {h h' : Hub α}
    (ho : h.outages = []) (ha : outcome (assemble settings broker) h = (.ok (), h')) :
    h'.Fresh := by
  unfold assemble at ha
  rw [outcome_bind, outcome_ofExcept] at ha
  cases hb : Bus.ofSettings settings.bus with
  | error fault => rw [hb] at ha; cases ha
  | ok bus =>
    rw [hb] at ha
    dsimp only at ha
    rw [outcome_bind, outcome_ofExcept] at ha
    cases hs : settings.service with
    | error fault => rw [hs] at ha; cases ha
    | ok service =>
      rw [hs] at ha
      obtain ⟨capacity, -, hbus⟩ := bind_eq_ok.1 hb
      cases hbus
      cases ha
      exact ⟨ho, rfl, rfl, rfl, rfl, rfl, rfl, rfl⟩

/-! ## Calls -/

/-- A call of the hub. -/
inductive HubCall
  | registry (c : RegistryCall)
  | executeRule (r : Rule) (e : Event) (ctx : Option Context)
  | processEvent (raw : Definition Event) (ctx : Option Context)
  | createFlow (d : Definition Flow)
  | updateFlow (id : String) (updates : Value)
  | deleteFlow (id : String)
  | executeFlow (id : String) (input : Value)
  | publish (raw : Definition Event)
  | subscribe (topic : String) (s : Subscriber)
  | subscribeEvents (pattern : EventPattern) (s : Subscriber)
  | unsubscribe (id : Nat)
  | startBus
  | stopBus
  | drain (n : Nat)

/-- Makes the call, whatever it gives. -/
def HubCall.run (host : Host α) : HubCall → Task α Unit
  | registry c => c.run host
  | executeRule r e ctx => discard (EventHub.executeRule host r e ctx)
  | processEvent raw ctx => discard (EventHub.processEvent host raw ctx)
  | createFlow d => discard (EventHub.createFlow host d)
  | updateFlow id updates => discard (EventHub.updateFlow host id updates)
  | deleteFlow id => EventHub.deleteFlow host id
  | executeFlow id input => discard (EventHub.executeFlow host id input)
  | publish raw => discard (publishEvent host raw)
  | subscribe topic s => discard (EventHub.subscribe topic (some s))
  | subscribeEvents pattern s => discard (EventHub.subscribeEvents (some pattern) (some s))
  | unsubscribe id => discard (EventHub.unsubscribe id)
  | startBus => EventHub.startBus
  | stopBus => EventHub.stopBus
  | drain n => EventHub.drain host n

/-- What a run may be made of: the ids of rules that it may name, and the events that it may
publish. -/
structure RunPolicy where
  names : String → Prop
  events : Event → Prop

/-- Any ids and any events. -/
def RunPolicy.any : RunPolicy := ⟨fun _ => True, fun _ => True⟩

/-- The definition describes no rule of an id that may not be named. -/
def Definition.Names (names : String → Prop) (d : Definition Rule) : Prop :=
  ∀ now r, d.toRule now = .ok r → ∀ id, r.id = some id → names id

/-- The call names no id that may not be named. -/
def RegistryCall.Names (names : String → Prop) : RegistryCall → Prop
  | register d => d.Names names
  | update id _ => names id
  | setEnabled id _ => names id
  | delete id => names id
  | load definitions => ∀ d ∈ definitions, d.Names names

/-- The call is permitted at the hub. Only clients and functions subscribe, and the subscriptions of
the hub's own listeners are not theirs to end. -/
def HubCall.Permitted (p : RunPolicy) (h : Hub α) : HubCall → Prop
  | registry c => c.Names p.names
  | publish raw => ∀ e, (outcome (normalizeEvent raw) h).1 = .ok e → p.events e
  | subscribe _ s => s.Foreign
  | subscribeEvents _ s => s.Foreign
  | unsubscribe id => id ∉ h.flows.listeners
  | _ => True

/-- The events that the dispatcher observes when it is let work on at most `n`. -/
def Bus.dispatched (b : Bus) (n : Nat) : List Event :=
  if b.running && !b.busy then b.pending.take n else []

/-- The events that publishing an event makes the hub observe: the event, or, while the dispatcher
runs, those that are dispatched to make room for it. -/
def Bus.observedBy (b : Bus) (e : Event) : List Event :=
  if !b.running then [e]
  else if 0 < b.capacity && b.patience < 0 then []
  else if b.full then b.dispatched drainLimit
  else []

/-- The events that the call makes the hub observe. -/
def HubCall.observed (h : Hub α) : HubCall → List Event
  | publish raw => match (outcome (normalizeEvent raw) h).1 with
    | .ok e => h.bus.observedBy e
    | .error _ => []
  | drain n => h.bus.dispatched n
  | _ => []

/-- The call is one of the bus. -/
def HubCall.OfBus : HubCall → Prop
  | publish _ | subscribe _ _ | subscribeEvents _ _ | unsubscribe _ | startBus | stopBus | drain _ =>
    True
  | _ => False

/-! ## Runs -/

/-- What happens beside the calls: it leaves the bus, the rules and the flows. -/
structure Hub.Passes (h h' : Hub α) : Prop where
  outages : h'.outages = h.outages
  bus : h'.bus = h.bus
  book : h'.engine.book = h.engine.book
  outlet : h'.engine.outlet = h.engine.outlet
  flows : h'.flows = h.flows

theorem Hub.Fresh.steady {h : Hub α} (hh : h.Fresh) : h.Steady where
  inOrder := hh.inOrder
  outlet := hh.outlet
  apt s hs := by simp [hh.subscriptions, Subscriptions.none] at hs

theorem Hub.Steady.passes {h h' : Hub α} (hh : h.Steady) (hp : h.Passes h') : h'.Steady where
  inOrder := hp.outages.trans hh.inOrder
  outlet := hp.outlet.trans hh.outlet
  apt := by rw [hp.bus]; exact hh.apt

/-- The hubs that calls lead to after a start, with the events observed so far. -/
inductive HubRun (app : Application α) (p : RunPolicy) : List Event → Hub α → Prop
  | start {h h' : Hub α} (fresh : h.Fresh)
    (configured : ∀ rules, h.settings.rules.toList = .ok rules →
      ∀ v ∈ rules, (Definition.ofRuleValue v).Names p.names)
    (started : outcome (start app.host) h = (.ok (), h')) : HubRun app p [] h'
  | call {seen : List Event} {h : Hub α} (c : HubCall) (run : HubRun app p seen h)
    (permitted : c.Permitted p h) :
    HubRun app p (seen ++ c.observed h) (outcome (c.run app.host) h).2
  | pass {seen : List Event} {h h' : Hub α} (run : HubRun app p seen h) (passes : h.Passes h') :
    HubRun app p seen h'

/-! ## Frames of runs -/

/-- The frame lets subscriptions begin and end, and the dispatcher start and stop. -/
structure Frame.OpenToSubscribers (F : Frame α) : Prop where
  listen : ∀ (h : Hub α) channel s, (∀ id, Subscription.Apt ⟨id, channel, s⟩) →
    F.allows h { h with bus := { h.bus with subscriptions := (h.bus.subscriptions.add channel s).2 } }
  stop : ∀ (h : Hub α) id,
    F.allows h { h with bus := { h.bus with subscriptions := (h.bus.subscriptions.remove id).2 } }
  dispatcher : ∀ (h : Hub α) running, F.allows h { h with bus := { h.bus with running } }

/-- The frame lets the hub start and stop, too. -/
structure Frame.OpenToListening (F : Frame α) : Prop extends F.OpenToSubscribers where
  listeners : ∀ (h : Hub α) listeners initialized,
    F.allows h { h with flows := { h.flows with listeners, initialized } }
  actions : ∀ (h : Hub α) actions, F.allows h { h with engine := { h.engine with actions } }

section Frames

variable {F : Frame α} {host : Host α}

section Subscribers

variable (hl : F.OpenToSubscribers)
include hl

theorem within_subscribe {topic : String} {s : Subscriber}
    (hs : ∀ id, Subscription.Apt ⟨id, .topic topic, s⟩) :
    Within F (subscribe (α := α) topic (some s)) :=
  fun h => hl.listen h (.topic topic) s hs

theorem within_subscribeEvents (pattern : EventPattern) {s : Subscriber} (hs : s.Foreign) :
    Within F (subscribeEvents (α := α) (some pattern) (some s)) :=
  fun h => hl.listen h (.events pattern) s fun _ => .of_foreign hs

theorem within_unsubscribe (id : Nat) : Within F (unsubscribe (α := α) id) :=
  fun h => hl.stop h id

theorem within_unsubscribeAll (ids : List Nat) : Within F (unsubscribeAll (α := α) ids) := by
  induction ids with
  | nil => exact Within.pure _
  | cons id rest ih => exact Within.bind (within_unsubscribe hl id) fun _ => ih

end Subscribers

section Listening

variable (hl : F.OpenToListening)
include hl

theorem within_startListening : Within F (startListening (α := α)) := by
  have hs := hl.toOpenToSubscribers
  refine Within.bind (within_subscribe hs fun _ => rfl) fun types => ?_
  refine Within.bind (within_subscribe hs fun _ => rfl) fun fields => ?_
  refine Within.bind (within_subscribe hs fun _ => rfl) fun events => ?_
  exact Within.change fun h => hl.listeners h _ _

theorem within_stopListening : Within F (stopListening (α := α)) :=
  Within.bind Within.get fun _ =>
    Within.bind (within_unsubscribeAll hl.toOpenToSubscribers _) fun _ =>
    Within.change fun _ => hl.listeners _ _ _

theorem within_shareActions (names : List String) : Within F (shareActions (α := α) names) := by
  induction names with
  | nil => exact Within.pure _
  | cons name rest ih =>
    have hs : Within F (setEngineAction (α := α) name (some (.shared name))) :=
      Within.bind (within_engineOperation _) fun _ => Within.change fun h => hl.actions h _
    exact Within.bind hs fun _ => ih

end Listening

section Dispatcher

variable (hF : F.Free)
  (hd : ∀ (h : Hub α) running, F.allows h { h with bus := { h.bus with running } })
include hF hd

theorem within_startBus : Within F (startBus (α := α)) := by
  have hr : Within F (modifyBus (α := α) fun b => { b with running := true }) :=
    Within.change fun h => hd h true
  refine Within.bind Within.get fun h => ?_
  dsimp only
  split
  · exact Within.bind hr fun _ => Within.log hF _ _ _
  · exact Within.pure _

theorem within_stopBus : Within F (stopBus (α := α)) := by
  have hr : Within F (modifyBus (α := α) fun b => { b with running := false }) :=
    Within.change fun h => hd h false
  have hlog := Within.log hF.openToActions.openToTraces
  refine Within.bind Within.get fun h => ?_
  grind

end Dispatcher

variable {p : IdPolicy}

theorem within_loadRules (hF : F.OpenToEdits p)
    (ht : ∀ topic ∈ registryTopics, host.ReportsWithin F topic) {definitions : List (Definition Rule)}
    (hd : ∀ h, p.HeededByAll host definitions h) : Within F (loadRules host definitions) := by
  have hall : Within F (registerAll host definitions) := fun h => allows_registerAll hF ht (hd h)
  refine Within.bind (within_engineOperation _) fun _ => Within.bind hall fun ids => ?_
  exact Within.bind (Within.log hF.free _ _ _) fun _ => Within.pure _

theorem within_createFlows (hF : F.Free) (ho : F.OpenToFlows)
    (ht : host.ReportsWithin F Topic.flowCreated) (definitions : List Value) :
    Within F (createFlows host definitions) := by
  induction definitions with
  | nil => exact Within.pure _
  | cons v rest ih => exact Within.bind (within_createFlow hF ho ht (.ofFlowValue v)) fun _ => ih

variable (hF : F.OpenToHub p) (hs : ∀ s n, Within F (host.receive s n))
include hF hs

theorem within_start (hl : F.OpenToListening)
    (hd : ∀ definitions h, p.HeededByAll host definitions h) : Within F (start host) := by
  have hw : Within F (wire host) := by
    refine Within.bind Within.get fun h => ?_
    refine Within.bind (within_startListening hl) fun _ => ?_
    refine Within.bind (Within.bind Within.get fun _ => within_shareActions hl _) fun _ => ?_
    refine Within.bind (Within.ofExcept _) fun rules => ?_
    refine Within.bind (within_loadRules hF.toOpenToEdits (fun topic _ => (tells hF.openToEvents hs topic).reports)
      (hd _)) fun _ => ?_
    exact Within.bind (Within.ofExcept _) fun flows =>
      within_createFlows hF.free hF.toOpenToFlows (tells hF.openToEvents hs _).reports flows
  have hm (initialized : Bool) :
      Within F (modifyFlows (α := α) fun d => { d with initialized }) :=
    Within.change fun h => hl.listeners h _ _
  have hg : Within F (getRules (α := α)) :=
    Within.bind (within_engineOperation _) fun _ => Within.bind Within.get fun _ => Within.pure _
  refine Within.bind Within.get fun h => ?_
  split
  · exact Within.pure _
  · refine Within.bind (Within.attempt hw) fun r => ?_
    -- A start that fails ends its subscriptions and leaves what it has taken in.
    cases r with
    | error fault =>
      refine Within.bind (within_stopListening hl) fun _ => ?_
      exact Within.bind (Within.logFault hF.free _ _ _ _) fun _ => Within.throw _
    | ok _ =>
      refine Within.bind (hm true) fun _ => Within.bind hg fun rules => ?_
      exact Within.bind Within.get fun h => Within.log hF.free _ _ _

/-- A permitted call stays in the frame. -/
theorem within_hubCall (hl : F.OpenToSubscribers) (ha : host.ActsWithin F) {q : RunPolicy}
    {c : HubCall} {h : Hub α} (hc : c.Permitted q h)
    (heeds : ∀ (c : RegistryCall) h, c.Heeds p host h) : F.allows h (outcome (c.run host) h).2 := by
  have ht (topic : String) := (tells hF.openToEvents hs topic).reports
  cases c with
  | registry c => exact allows_call hF.toOpenToEdits (fun topic _ => ht topic) (heeds c h)
  | executeRule r e ctx =>
    exact Within.discard (within_executeRule hF.free ha (ht _) (ht _) r e ctx) h
  | processEvent raw ctx =>
    exact Within.discard (within_processEvent hF.free ha (ht _) (ht _) raw ctx) h
  | createFlow d =>
    exact Within.discard (within_createFlow hF.free hF.toOpenToFlows (ht _) d) h
  | updateFlow id updates =>
    exact Within.discard (within_updateFlow hF.free hF.toOpenToFlows (ht _) id updates) h
  | deleteFlow id => exact within_deleteFlow hF.free hF.toOpenToFlows (ht _) id h
  | executeFlow id input =>
    exact Within.discard
      (within_executeFlow hF.free hF.toOpenToFlows ha (ht _) (ht _) (ht _) id input) h
  | publish raw => exact Within.discard (within_publishEvent hF.openToEvents hs raw) h
  | subscribe topic s =>
    exact Within.discard (within_subscribe hl fun _ => .of_foreign hc) h
  | subscribeEvents pattern s => exact Within.discard (within_subscribeEvents hl pattern hc) h
  | unsubscribe id => exact Within.discard (within_unsubscribe hl id) h
  | drain n => exact within_drain hF.openToEvents hs n h
  | startBus => exact within_startBus hF.free hl.dispatcher h
  | stopBus => exact within_stopBus hF.free hl.dispatcher h

end Frames

/-- A run stays in every frame that lets the hub do what it does and pass the time. -/
theorem HubRun.stays {F : Frame α} {app : Application α} (hF : F.OpenToHub .any)
    (hl : F.OpenToListening) (hpass : ∀ h h', Hub.Passes h h' → F.allows h h')
    (happ : app.StaysDeep F) {q : RunPolicy} {seen : List Event} {h : Hub α}
    (run : HubRun app q seen h) : ∃ h₀, h₀.Fresh ∧ F.allows h₀ h := by
  have hs : ∀ s n, Within F (app.host.receive s n) := happ.receive hF receptionDepth
  have ha : app.host.ActsWithin F := happ.act receptionDepth
  induction run with
  | start fresh _ started =>
    exact ⟨_, fresh, (within_start hF hs hl IdPolicy.any_heededByAll).of_outcome started⟩
  | call c _ permitted ih =>
    obtain ⟨h₀, fresh, before⟩ := ih
    exact ⟨h₀, fresh, F.trans before
      (within_hubCall hF hs hl.toOpenToSubscribers ha permitted RegistryCall.heeds_any)⟩
  | pass _ passes ih =>
    obtain ⟨h₀, fresh, before⟩ := ih
    exact ⟨h₀, fresh, F.trans before (hpass _ _ passes)⟩

end EventHub
