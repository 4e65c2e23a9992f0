import EventHub.Hub.Assembly
import EventHub.Hub.Receive
import EventHub.Proofs.Rules.Edits

/-!
# Frames of reception

Reception stays in every frame that lets the hub do what it does (`Frame.OpenToHub`) and in which
the functions of the application stay, at every depth (`within_receive`): the listeners of the hub publish
events, synthesize and extend rules and run flows, all of which may lead to further reception one level
deeper. Of the functions it is enough that they stay in the frame with whatever reception does
(`Application.StaysWithin`), and even that they do with the reception that the hub gives them
(`Application.StaysDeep`).
-/

namespace EventHub

open EventHub.Task

variable {α : Type} {F : Frame α} {host : Host α} {p : IdPolicy}

/-- The functions of the application stay in a frame in which the reception that they use does. -/
structure Application.StaysWithin (app : Application α) (F : Frame α) : Prop where
  act : ∀ receive : Receive α, (∀ s n, Within F (receive s n)) →
    ∀ name v ctx, Within F (app.act receive name v ctx)
  serve : ∀ receive : Receive α, (∀ s n, Within F (receive s n)) →
    ∀ k n, Within F (app.serve receive k n)

/-- The functions of the application stay in the frame with the reception that the hub gives them, however
many levels are left. What they lead to counts as theirs. -/
structure Application.StaysDeep (app : Application α) (F : Frame α) : Prop where
  act : ∀ depth name v ctx, Within F (app.act (receive app depth) name v ctx)
  serve : ∀ depth k n, Within F (app.serve (receive app depth) k n)

/-- The frame lets actions and the bus do what they do: it does not see what the bus keeps of events. -/
structure Frame.OpenToEvents (F : Frame α) : Prop extends F.OpenToActions where
  events : ∀ (h : Hub α) history schema pending busy,
    F.allows h { h with bus := { h.bus with history, schema, pending, busy } }

/-- The frame lets the hub change its flows, its rules, and what the bus keeps of events. -/
structure Frame.OpenToHub (F : Frame α) (p : IdPolicy) : Prop extends
    F.OpenToEdits p, F.OpenToFlows where
  events : ∀ (h : Hub α) history schema pending busy,
    F.allows h { h with bus := { h.bus with history, schema, pending, busy } }
  names : ∀ id, p.names id

@[grind →]
theorem Frame.OpenToHub.openToEvents (hF : F.OpenToHub p) : F.OpenToEvents :=
  ⟨hF.free.openToActions, hF.events⟩

/-- Offering an event stays in the frame when it does for every subscriber that it is offered to. -/
theorem within_deliverSelected (hF : F.OpenToActions) (e : Event)
    {offers : List (Nat × EventPattern × Subscriber)}
    (hs : ∀ o ∈ offers, ∀ n, Within F (host.receive o.2.2 n)) :
    Within F (deliverSelected host e offers) := by
  induction offers with
  | nil => exact Within.pure _
  | cons first rest ih =>
    obtain ⟨id, pattern, s⟩ := first
    have ih := ih fun o ho => hs o (List.mem_cons_of_mem _ ho)
    have hone := hs _ List.mem_cons_self
    have ho : Within F (offer host e pattern s) := by
      refine Within.bind (Within.ofExcept _) fun selected => ?_
      split
      · exact hone _
      · exact Within.pure _
    unfold deliverSelected
    grind

theorem within_announceChange (hF : F.OpenToActions) (ht : host.ReportsWithin F Topic.typeDiscovered)
    (hf : host.ReportsWithin F Topic.fieldsDiscovered) (e : Event) (change : SchemaChange) :
    Within F (announceChange host e change) := by
  have htype := ht (.typeDiscovery ⟨e.type, e.timestamp, e.data⟩) rfl
  have hfields := hf (.fieldsDiscovery ⟨e.type, change.newFields, e.timestamp⟩) rfl
  unfold announceChange
  grind

/-! ## The bus -/

section Bus

variable (hF : F.OpenToEvents) (hs : ∀ s n, Within F (host.receive s n))
include hF

/-- Changes of the bus that leave its subscriptions and its dispatcher. -/
theorem within_modifyBus {f : Bus → Bus}
    (hf : ∀ b : Bus, ∃ history schema pending busy, f b = { b with history, schema, pending, busy }) :
    Within F (modifyBus (α := α) f) :=
  Within.change fun h => by
    obtain ⟨a, b, c, d, hb⟩ := hf h.bus
    rw [hb]
    exact hF.events h a b c d

include hs

theorem tells (topic : String) : host.TellsWithin F topic :=
  Host.TellsWithin.of_receive hF.toOpenToActions hs topic

theorem within_dispatchEvent (e : Event) : Within F (dispatchEvent host e) := by
  have hopen := hF.toOpenToActions
  have ht := tells hF hs
  have ho : Within F (observeEvent (α := α) e) := by
    refine Within.bind (Within.inService _) fun _ => Within.bind Within.get fun h => ?_
    exact Within.bind (within_modifyBus hF fun b => ⟨_, _, _, _, rfl⟩) fun _ => Within.pure _
  refine Within.bind (within_modifyBus hF fun b => ⟨_, _, _, _, rfl⟩) fun _ => ?_
  refine Within.bind ho fun change => ?_
  refine Within.bind (within_announceChange hopen (ht _).reports (ht _).reports e change) fun _ => ?_
  refine Within.bind (ht _ _) fun _ => ?_
  refine Within.bind (ht _ _) fun _ => ?_
  refine Within.bind (ht _ _) fun _ => ?_
  exact Within.bind Within.get fun h => within_deliverSelected hopen e fun o _ => hs o.2.2

theorem within_dispatchQueued (e : Event) : Within F (dispatchQueued host e) := by
  have hopen := hF.toOpenToActions
  have hb (busy : Bool) : Within F (modifyBus (α := α) fun b => { b with busy }) :=
    within_modifyBus hF fun b => ⟨_, _, _, _, rfl⟩
  refine Within.bind (hb true) fun _ => ?_
  refine Within.bind (Within.attempt (within_dispatchEvent hF hs e)) fun r => ?_
  cases r with
  | ok _ => exact hb false
  | error fault => exact Within.bind (Within.logFault hopen _ _ _ _) fun _ => hb false

theorem within_drain (n : Nat) : Within F (drain host n) := by
  induction n with
  | zero => exact Within.pure _
  | succ n ih =>
    refine Within.bind Within.get fun h => ?_
    dsimp only
    split
    · split
      · exact Within.pure _
      · refine Within.bind (within_modifyBus hF fun b => ⟨_, _, _, _, rfl⟩) fun _ => ?_
        exact Within.bind (within_dispatchQueued hF hs _) fun _ => ih
    · exact Within.pure _

theorem within_publishEvent (raw : Definition Event) : Within F (publishEvent host raw) := by
  have hopen := hF.toOpenToActions
  have hq (e : Event) : Within F (enqueueEvent host e) := by
    have hd := within_drain hF hs drainLimit
    have hb : Within F (modifyBus (α := α) (·.enqueue e)) :=
      within_modifyBus hF fun b => ⟨_, _, _, _, rfl⟩
    refine Within.bind Within.get fun h => ?_
    grind
  have hd := within_dispatchEvent hF hs
  refine Within.bind (within_normalizeEvent hopen raw) fun e => ?_
  refine Within.bind Within.get fun h => ?_
  grind

end Bus

section Hub

variable (hF : F.OpenToHub p) (ha : host.ActsWithin F) (hs : ∀ s n, Within F (host.receive s n))
include hF hs

theorem within_takeMessage (n : Notice) : Within F (takeMessage host n) := by
  have hp := within_publishEvent hF.openToEvents hs
  unfold takeMessage
  cases n <;> grind

end Hub

/-! ## Listeners -/

section Fields

variable (hF : F.OpenToEdits p) (ht : host.ReportsWithin F Topic.ruleUpdated)
include hF ht

/-- Adding fields to a rule updates it, if anything, and tells so. -/
theorem within_extendLogged {r : Rule} (hr : p.names (r.id.getD "")) (eventType : String)
    (names : List String) : Within F (extendLogged host eventType names r) := by
  have hfree := hF.free
  have hu (updates : Value) : Within F (updateRule host (r.id.getD "") updates) := fun h =>
    allows_updateRule hF.free ht fun _ book done => hF.edit h book (.update hr done)
  have hx : Within F (extendRule host r names) := by
    unfold extendRule
    grind
  unfold extendLogged synthesisFailed
  grind

/-- Of several rules, those that are not generated are passed. -/
theorem within_extendGenerated {rules : List Rule}
    (hr : ∀ r ∈ rules, r.metadata.autoGenerated = true → p.names (r.id.getD "")) (eventType : String)
    (names : List String) : Within F (extendAll host eventType names rules) := by
  induction rules with
  | nil => exact Within.pure _
  | cons r rest ih =>
    have hrest := ih fun r' hr' => hr r' (List.mem_cons_of_mem r hr')
    unfold extendAll
    dsimp only
    split
    · rename_i hgenerated
      have hone := within_extendLogged hF ht (hr r List.mem_cons_self hgenerated) eventType names
      exact Within.bind hone fun _ => hrest
    · exact hrest

end Fields

section Listeners

variable (hF : F.OpenToEdits p) (hn : ∀ id, p.names id)
  (ht : ∀ topic ∈ registryTopics, host.ReportsWithin F topic)
include hF hn ht

theorem within_discoverEventType (hg : host.ReportsWithin F Topic.ruleAutoGenerated) (eventType : Value)
    (sample : Except Fault Value) : Within F (discoverEventType host eventType sample) := by
  have hfree := hF.free
  have hr (v : Value) : Within F (registerRule host (.document (autoRule eventType v))) := by
    refine fun h => allows_register hF ht fun r hr => ?_
    have hid : r.id = some (autoRuleId eventType) := Definition.id_of_toRule rfl hr
    exact ⟨fun id _ => hn id, fun hnone => by simp [hid] at hnone⟩
  have hsynth : Within F (synthesizeRule host eventType sample) := by
    refine Within.bind (Within.ofExcept _) fun v => ?_
    exact Within.bind (hr v) fun _ => Within.pure _
  unfold Host.ReportsWithin at hg
  refine Within.bind (within_getRule _) fun known => ?_
  split
  · exact Within.pure _
  · refine Within.bind (Within.attempt hsynth) fun r => ?_
    unfold synthesisFailed
    grind

theorem within_discoverType (hg : host.ReportsWithin F Topic.ruleAutoGenerated) (n : Notice) :
    Within F (discoverType host n) := by
  have hd := within_discoverEventType hF hn ht hg
  unfold discoverType
  cases n <;> grind

theorem within_extendAll (eventType : String) (names : List String) (rules : List Rule) :
    Within F (extendAll host eventType names rules) :=
  within_extendGenerated hF (ht _ (by decide)) (fun _ _ _ => hn _) eventType names

theorem within_discoverFields (n : Notice) : Within F (discoverFields host n) := by
  have hx := within_extendAll hF hn ht
  have hg (eventType : String) : Within F (getRulesByEventType (α := α) eventType) :=
    Within.bind (within_engineOperation _) fun _ => Within.bind Within.get fun _ => Within.pure _
  unfold discoverFields
  cases n <;> grind

end Listeners

/-! ## Reception -/

/-- Reception stays in the frame one level up: each listener of the hub does, with the reception below. -/
theorem within_receive_succ {app : Application α} (hF : F.OpenToHub p) {depth : Nat}
    (ha : Host.ActsWithin ⟨app, receive app depth⟩ F)
    (hc : ∀ k n, Within F (app.serve (receive app depth) k n))
    (hs : ∀ s n, Within F (receive app depth s n)) (s : Subscriber) (n : Notice) :
    Within F (receive app (depth + 1) s n) := by
  let host : Host α := { app, receive := receive app depth }
  have ht (topic : String) : host.TellsWithin F topic := tells hF.openToEvents hs topic
  cases s with
  | discoverType =>
    exact within_discoverType hF.toOpenToEdits hF.names (fun topic _ => (ht topic).reports)
      (ht _).reports n
  | discoverFields =>
    exact within_discoverFields hF.toOpenToEdits hF.names (fun topic _ => (ht topic).reports) n
  | handleEvent =>
    exact within_handleEvent hF.free hF.toOpenToFlows ha (ht _).reports (ht _).reports
      (ht _).reports (ht _).reports n
  | takeMessage => exact within_takeMessage hF hs n
  | function name => exact Within.bind (Within.ofExcept _) fun _ => Within.pure _
  | client k => exact hc k n

/-- Reception stays in the frame at every depth, by induction on the depth. -/
theorem within_receive {app : Application α} (hF : F.OpenToHub p) (happ : app.StaysWithin F)
    (depth : Nat) (s : Subscriber) (n : Notice) : Within F (receive app depth s n) := by
  induction depth generalizing s n with
  | zero => exact Within.throw _
  | succ depth ih => exact within_receive_succ hF (happ.act _ ih) (happ.serve _ ih) ih s n

theorem Application.StaysDeep.receive {app : Application α} (hF : F.OpenToHub p) (happ : app.StaysDeep F)
    (depth : Nat) (s : Subscriber) (n : Notice) : Within F (EventHub.receive app depth s n) := by
  induction depth generalizing s n with
  | zero => exact Within.throw _
  | succ depth ih => exact within_receive_succ hF (happ.act depth) (happ.serve depth) ih s n

/-- An application whose functions answer nothing and leave the hub as it is. -/
def Application.silent : Application α where
  ask _ _ := .ok .null
  act _ _ v _ := return ⟨.null, v, none⟩
  serve _ _ _ := return ()

theorem Application.silent_staysWithin (F : Frame α) : Application.silent.StaysWithin F where
  act _ _ _ _ _ := Within.pure _
  serve _ _ _ _ := Within.pure _

/-- A hub at midnight, before anything happened. -/
def Hub.atMidnight (host : α) : Hub α :=
  .blank ⟨2024, 1, 1, ⟨0, 0, 0, 0⟩, none⟩ 0 .closed host

end EventHub
