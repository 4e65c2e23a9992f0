import EventHub.Proofs.Bus.Account

/-!
# What does not see the queue

Two hubs are beside each other when they differ in nothing but the queue of events, the lines of the log, the
number of ids that were drawn and what does not count of the state of the application (`Hub.Beside`). A task
is blind when it leaves such hubs beside each other and the queue as it is, and uniform when it gives the same
result on both besides.

* **Stages** (`Stage`): the dispatch of an event, cut into pieces (`runStages_stages`).
* **Rules** (`Uniform.bind`, `Uniform.look`, …): one for each construct of which uniform tasks are made.
* **Dispatch** (`uniform_runStages`): where those who receive are blind, every stage is uniform.
* **Audiences** (`Errand`, `Audience`): programs that do not publish. What they note of the queue decides
  nothing but what they note and whether they raise, hence they are blind (`Audience.blind_receive`).
-/

namespace EventHub

open EventHub.Task

variable {α β γ κ σ ν : Type} {view : α → κ}

/-! ## Stages -/

/-- A stage of the dispatch of an event: the event is recorded, then observed and what was new announced,
then told under a topic, and told to those whose patterns select it. -/
inductive Stage
  | record
  | observe
  | tell (topic : String)
  | select

/-- Does what the stage is. -/
def Stage.run (host : Host α) (e : Event) : Stage → Task α Unit
  | record => modifyBus fun b => { b with history := b.history.record e }
  | observe => do announceChange host e (← observeEvent e)
  | tell topic => announce host topic (.event e)
  | select => do deliverSelected host e (← get).bus.subscriptions.ofEvents

/-- The stages of the dispatch of an event. -/
def Event.stages (e : Event) : List Stage := .record :: .observe :: ((eventTopics e).map .tell ++ [.select])

/-- Goes through the stages; the first that fails is the last. -/
def runStages (host : Host α) (e : Event) : List Stage → Task α Unit
  | [] => return ()
  | stage :: rest => do
    stage.run host e
    runStages host e rest

theorem runStages_stages (host : Host α) (e : Event) :
    runStages host e e.stages = dispatchEvent host e := by
  simp [runStages, Event.stages, eventTopics, Stage.run, dispatchEvent]

/-! ## Hubs beside each other -/

/-- The bus without its queue. -/
def Bus.unqueued (b : Bus) : Bus := { b with pending := [], busy := false, running := false }

/-- The hub without its queue, its log and the number of ids drawn, and with what counts of the state of the
application. -/
def Hub.unqueued (view : α → κ) (h : Hub α) : Hub κ :=
  { h with log := [], serial := 0, bus := h.bus.unqueued, host := view h.host }

/-- The hubs differ in the queue, the log, the number of ids drawn and what does not count only, and none of
the hub's own listeners is subscribed. -/
structure Hub.Beside (view : α → κ) (h g : Hub α) : Prop where
  same : h.unqueued view = g.unqueued view
  foreign : ∀ e ∈ h.bus.subscriptions.entries, e.subscriber.Foreign

namespace Hub.Beside

variable {h g k : Hub α}

theorem bus (hb : h.Beside view g) : h.bus.unqueued = g.bus.unqueued := (congrArg Hub.bus hb.same :)

theorem subscriptions (hb : h.Beside view g) : h.bus.subscriptions = g.bus.subscriptions :=
  (congrArg Bus.subscriptions hb.bus :)

theorem history (hb : h.Beside view g) : h.bus.history = g.bus.history := (congrArg Bus.history hb.bus :)

theorem schema (hb : h.Beside view g) : h.bus.schema = g.bus.schema := (congrArg Bus.schema hb.bus :)

theorem now (hb : h.Beside view g) : h.now = g.now := (congrArg Hub.now hb.same :)

theorem outages (hb : h.Beside view g) : h.outages = g.outages := (congrArg Hub.outages hb.same :)

theorem host (hb : h.Beside view g) : view h.host = view g.host := (congrArg Hub.host hb.same :)

theorem symm (hb : h.Beside view g) : g.Beside view h :=
  ⟨hb.same.symm, by rw [← hb.subscriptions]; exact hb.foreign⟩

theorem trans (hb : h.Beside view g) (hk : g.Beside view k) : h.Beside view k :=
  ⟨hb.same.trans hk.same, hb.foreign⟩

/-- Buses change alike. -/
theorem changeBus (hb : h.Beside view g) {f : Bus → Bus}
    (hf : ∀ b, (f b).unqueued = (f b.unqueued).unqueued)
    (hs : ∀ e ∈ (f h.bus).subscriptions.entries, e.subscriber.Foreign) :
    Hub.Beside view { h with bus := f h.bus } { g with bus := f g.bus } := by
  refine ⟨?_, hs⟩
  have hbus : (f h.bus).unqueued = (f g.bus).unqueued := by rw [hf, hb.bus, ← hf]
  calc Hub.unqueued view { h with bus := f h.bus }
    _ = { h.unqueued view with bus := (f h.bus).unqueued } := rfl
    _ = { g.unqueued view with bus := (f g.bus).unqueued } := by rw [hb.same, hbus]

/-- What the applications keep may change apart. -/
theorem changeHost (hb : h.Beside view g) {a a' : α} (ha : view a = view a') :
    Hub.Beside view { h with host := a } { g with host := a' } := by
  refine ⟨?_, hb.foreign⟩
  calc Hub.unqueued view { h with host := a }
    _ = { h.unqueued view with host := view a } := rfl
    _ = { g.unqueued view with host := view a' } := by rw [hb.same, ha]

theorem changeLog (hb : h.Beside view g) (lines : List LogLine) :
    Hub.Beside view { h with log := lines } g := ⟨hb.same, hb.foreign⟩

theorem changeSerial (hb : h.Beside view g) (serial : Nat) :
    Hub.Beside view { h with serial } g := ⟨hb.same, hb.foreign⟩

end Hub.Beside

/-- The task leaves hubs that are beside each other so, and the queue as it is. -/
def Task.Blind (view : α → κ) (t : Task α β) : Prop := ∀ h g : Hub α, h.Beside view g →
  (outcome t h).2.Beside view (outcome t g).2 ∧ (outcome t h).2.bus.queue = h.bus.queue

/-- The task is blind and gives the same result on hubs that are beside each other. -/
def Task.Uniform (view : α → κ) (t : Task α β) : Prop :=
  Blind view t ∧ ∀ h g : Hub α, h.Beside view g → (outcome t h).1 = (outcome t g).1

namespace Task

/-! ## Rules -/

theorem Uniform.of_hub {t : Task α β} {r : Except Fault β} {f : Hub α → Hub α}
    (ht : ∀ h, outcome t h = (r, f h)) (hf : ∀ h g : Hub α, h.Beside view g → (f h).Beside view (f g))
    (hq : ∀ h, (f h).bus.queue = h.bus.queue) : Uniform view t := by
  refine ⟨fun h g hb => ?_, fun h g _ => ?_⟩
  · rw [ht, ht]
    exact ⟨hf h g hb, hq h⟩
  · rw [ht, ht]

theorem Uniform.pure (b : β) : Uniform view (Pure.pure b : Task α β) :=
  of_hub (f := id) (fun _ => rfl) (fun _ _ hb => hb) fun _ => rfl

theorem Uniform.throw (fault : Fault) : Uniform view (MonadExcept.throw fault : Task α β) :=
  of_hub (f := id) (fun _ => rfl) (fun _ _ hb => hb) fun _ => rfl

theorem Uniform.ofExcept (r : Except Fault β) : Uniform view (Task.ofExcept r : Task α β) :=
  of_hub (f := id) (outcome_ofExcept r) (fun _ _ hb => hb) fun _ => rfl

theorem Uniform.log (level : Level) (part text : String) :
    Uniform view (Task.log level part text : Task α Unit) := by
  unfold Task.log
  refine of_hub (fun _ => rfl) (fun h g hb => ?_) fun h => ?_
  · split
    · exact ((hb.changeLog _).symm.changeLog _).symm
    · exact hb
  · split <;> rfl

/-- A change of the bus that does not see the queue. -/
theorem Uniform.changeBus {f : Bus → Bus} (hf : ∀ b, (f b).unqueued = (f b.unqueued).unqueued)
    (hs : ∀ b : Bus, (∀ e ∈ b.subscriptions.entries, e.subscriber.Foreign) →
      ∀ e ∈ (f b).subscriptions.entries, e.subscriber.Foreign)
    (hq : ∀ b, (f b).queue = b.queue) : Uniform view (modifyBus f : Task α Unit) :=
  of_hub (fun _ => rfl) (fun h _ hb => hb.changeBus hf (hs h.bus hb.foreign)) fun h => hq h.bus

theorem Uniform.attempt {t : Task α β} (ht : Uniform view t) : Uniform view (Task.attempt t) :=
  ⟨ht.1, fun h g hb => by rw [outcome_attempt, outcome_attempt, ht.2 h g hb]⟩

/-- What goes on from a uniform task. -/
theorem Uniform.bind_blind {t : Task α β} {f : β → Task α γ} (ht : Uniform view t)
    (hf : ∀ b, Blind view (f b)) : Blind view (t >>= f) := by
  intro h g hb
  obtain ⟨hb₁, hq⟩ := ht.1 h g hb
  have hr := ht.2 h g hb
  rw [outcome_bind, outcome_bind]
  generalize outcome t h = run at hb₁ hq hr ⊢
  generalize outcome t g = run' at hb₁ hr ⊢
  obtain ⟨r, h₁⟩ := run
  obtain ⟨r', g₁⟩ := run'
  obtain rfl : r = r' := hr
  cases r with
  | error fault => exact ⟨hb₁, hq⟩
  | ok b =>
    obtain ⟨hb₂, hq'⟩ := hf b h₁ g₁ hb₁
    exact ⟨hb₂, hq'.trans hq⟩

theorem Uniform.bind {t : Task α β} {f : β → Task α γ} (ht : Uniform view t)
    (hf : ∀ b, Uniform view (f b)) : Uniform view (t >>= f) := by
  refine ⟨ht.bind_blind fun b => (hf b).1, fun h g hb => ?_⟩
  have hb₁ := (ht.1 h g hb).1
  have hr := ht.2 h g hb
  rw [outcome_bind, outcome_bind]
  generalize outcome t h = run at hb₁ hr ⊢
  generalize outcome t g = run' at hb₁ hr ⊢
  obtain ⟨r, h₁⟩ := run
  obtain ⟨r', g₁⟩ := run'
  obtain rfl : r = r' := hr
  cases r with
  | error fault => rfl
  | ok b => exact (hf b).2 h₁ g₁ hb₁

/-- A task that starts from what hubs beside each other have in common. -/
theorem Uniform.look {p : Hub α → β} (hp : ∀ h g : Hub α, h.Beside view g → p h = p g) {t : Task α γ}
    {f : β → Task α γ} (ht : ∀ h, outcome t h = outcome (f (p h)) h)
    (hf : ∀ h : Hub α, (∀ e ∈ h.bus.subscriptions.entries, e.subscriber.Foreign) →
      Uniform view (f (p h))) : Uniform view t := by
  refine ⟨fun h g hb => ?_, fun h g hb => ?_⟩
  all_goals rw [ht h, ht g, ← hp h g hb]
  · exact (hf h hb.foreign).1 h g hb
  · exact (hf h hb.foreign).2 h g hb

/-- A task that does not fail and has no result to give. -/
theorem Blind.uniform {t : Task α Unit} (ht : Blind view t)
    (hok : ∀ h, outcome t h = (.ok (), (outcome t h).2)) : Uniform view t :=
  ⟨ht, fun h g _ => by rw [hok h, hok g]⟩

/-- Whether a blind task fails or not: what follows is the same but for lines of the log. -/
theorem Blind.attempt_bind {δ : Type} {t : Task α β} {f : Except Fault β → Task α γ} {u : Task α δ}
    (ht : Blind view t) (hu : Blind view u)
    (hf : ∀ r h, ∃ lines, (outcome (f r) h).2 = (outcome u { h with log := lines }).2) :
    Blind view (Task.attempt t >>= f) := by
  intro h g hb
  obtain ⟨hb₁, hq⟩ := ht h g hb
  rw [outcome_bind_ok (outcome_attempt t h), outcome_bind_ok (outcome_attempt t g)]
  obtain ⟨lines, hh⟩ := hf (outcome t h).1 (outcome t h).2
  obtain ⟨lines', hg⟩ := hf (outcome t g).1 (outcome t g).2
  obtain ⟨hb₂, hq'⟩ := hu _ _ ((hb₁.changeLog lines).symm.changeLog lines').symm
  rw [hh, hg]
  exact ⟨hb₂, hq'.trans hq⟩

end Task

/-! ## Dispatch -/

section Dispatch

variable {host : Host α} (hr : ∀ s n, s.Foreign → Blind view (host.receive s n))
include hr

theorem blind_deliver (topic : String) (n : Notice) {subscribers : List Subscriber}
    (hs : ∀ s ∈ subscribers, s.Foreign) : Blind view (deliver host topic n subscribers) := by
  induction subscribers with
  | nil => exact (Uniform.pure 0).1
  | cons s rest ih =>
    have hrest := ih fun s' hs' => hs s' (List.mem_cons_of_mem s hs')
    refine (hr s n (hs s List.mem_cons_self)).attempt_bind hrest fun r h => ?_
    cases r with
    | ok _ =>
      refine ⟨h.log, ?_⟩
      dsimp only
      rw [outcome_bind]
      generalize outcome (deliver host topic n rest) h = run
      obtain ⟨count, h'⟩ := run
      cases count <;> rfl
    | error fault => exact ⟨_, rfl⟩

theorem uniform_announce (topic : String) (n : Notice) : Uniform view (announce host topic n) := by
  refine Blind.uniform ?_ (outcome_announce_ok topic n)
  have hpublish : Blind view (publish host topic n) := by
    intro h g hb
    rw [publish, outcome_bind_ok (outcome_get h), outcome_bind_ok (outcome_get g), ← hb.subscriptions]
    refine blind_deliver hr topic n (fun s hs => ?_) h g hb
    obtain ⟨e, he, -, rfl⟩ := Subscriptions.mem_ofTopic.1 hs
    exact hb.foreign e he
  intro h g hb
  rw [announce, hub_discard, hub_discard]
  exact hpublish h g hb

theorem uniform_deliverSelected (e : Event) {offers : List (Nat × EventPattern × Subscriber)}
    (hs : ∀ o ∈ offers, o.2.2.Foreign) : Uniform view (deliverSelected host e offers) := by
  refine Blind.uniform ?_ (outcome_deliverSelected_ok e offers)
  induction offers with
  | nil => exact (Uniform.pure ()).1
  | cons first rest ih =>
    obtain ⟨id, pattern, s⟩ := first
    have hoffer : Blind view (offer host e pattern s) := by
      refine (Uniform.ofExcept _).bind_blind fun selected => ?_
      cases selected with
      | true => exact hr s _ (hs _ List.mem_cons_self)
      | false => exact (Uniform.pure ()).1
    refine hoffer.attempt_bind (ih fun o ho => hs o (List.mem_cons_of_mem _ ho)) fun r h => ?_
    cases r with
    | ok _ => exact ⟨h.log, rfl⟩
    | error fault => exact ⟨_, rfl⟩

theorem uniform_announceChange (e : Event) (change : SchemaChange) :
    Uniform view (announceChange host e change) := by
  have hfields (new : List DiscoveredField) : Uniform view (announceChange host e ⟨false, new⟩) := by
    rw [announceChange_false]
    split
    · exact .pure ()
    · exact (Uniform.log _ _ _).bind fun _ => uniform_announce hr _ _
  obtain ⟨newType, new⟩ := change
  cases newType with
  | false => exact hfields new
  | true =>
    rw [announceChange_true]
    exact (Uniform.log _ _ _).bind fun _ => (uniform_announce hr _ _).bind fun _ => hfields new

omit hr in
theorem uniform_observeEvent (e : Event) : Uniform view (observeEvent (α := α) e) := by
  have hservice : Uniform view (inService .observe : Task α Unit) := by
    refine ⟨fun h g hb => ?_, fun h g hb => ?_⟩
    · rw [outcome_inService, outcome_inService]
      exact ⟨hb, rfl⟩
    · rw [outcome_inService, outcome_inService, hb.outages]
  refine hservice.bind fun _ => ?_
  refine Uniform.look (p := fun h => h.bus.schema) (f := fun schema => do
    modifyBus fun b => { b with schema := (schema.observe e.type e.data).2 }
    return (schema.observe e.type e.data).1) (fun _ _ hb => hb.schema) (fun _ => rfl) fun h _ => ?_
  have hchange : Uniform view (modifyBus (α := α) fun b =>
      { b with schema := (h.bus.schema.observe e.type e.data).2 }) :=
    .changeBus (fun _ => rfl) (fun _ hs => hs) fun _ => rfl
  exact hchange.bind fun _ => .pure _

/-- A stage of the dispatch of an event. -/
theorem Stage.uniform_run (e : Event) (stage : Stage) : Uniform view (stage.run host e) := by
  cases stage with
  | record => exact .changeBus (fun _ => rfl) (fun _ hs => hs) fun _ => rfl
  | observe => exact (uniform_observeEvent e).bind fun change => uniform_announceChange hr e change
  | tell topic => exact uniform_announce hr topic (.event e)
  | select =>
    refine Uniform.look (p := fun h => h.bus.subscriptions) (f := fun s => deliverSelected host e s.ofEvents)
      (fun _ _ hb => hb.subscriptions) (fun _ => rfl) fun h hf => ?_
    exact uniform_deliverSelected hr e fun o ho => hf _ (Subscriptions.mem_ofEvents.1 ho)

/-- What is left of the dispatch of an event is uniform, also where it fails. -/
theorem uniform_runStages (e : Event) (stages : List Stage) :
    Uniform view (runStages host e stages) := by
  induction stages with
  | nil => exact .pure ()
  | cons stage rest ih => exact (stage.uniform_run hr e).bind fun _ => ih

end Dispatch

/-! ## Audiences -/

/-- What a member of an audience does when it is called: return or raise, write notes, change its state, make
or end subscriptions, and clear the history. It sees the whole bus when it writes notes and when it ends, else
the bus without its queue. It does not publish. -/
inductive Errand (σ ν : Type)
  | done (ending : Bus → σ → ν → Except Fault Unit)
  | note (write : Bus → σ → ν → ν) (next : Errand σ ν)
  | turn (change : Bus → σ → σ) (next : Bus → σ → Errand σ ν)
  | subscribe (channel : Channel) (client : Nat) (next : Nat → Errand σ ν)
  | unsubscribe (id : Nat) (next : Bool → Errand σ ν)
  | clearOld (maxAge : Value) (next : Except Fault Nat → Errand σ ν)

/-- Subscribes a client to a topic or to the events that a pattern selects. -/
def Channel.enlist (client : Nat) : Channel → Task α Nat
  | .topic name => EventHub.subscribe name (some (.client client))
  | .events pattern => EventHub.subscribeEvents (some pattern) (some (.client client))

/-- Does what the program says. -/
def Errand.run : Errand σ ν → Task (Ledger (σ × ν)) Unit
  | done ending => do
    let h ← get
    Task.ofExcept (ending h.bus h.host.state.1 h.host.state.2)
  | note write next => do
    modify fun h => { h with host := { h.host with
      state := (h.host.state.1, write h.bus h.host.state.1 h.host.state.2) } }
    next.run
  | turn change next => do
    let h ← get
    modify fun h => { h with host := { h.host with
      state := (change h.bus.unqueued h.host.state.1, h.host.state.2) } }
    (next h.bus.unqueued h.host.state.1).run
  | subscribe channel client next => do
    let id ← channel.enlist client
    (next id).run
  | unsubscribe id next => do
    let found ← EventHub.unsubscribe id
    (next found).run
  | clearOld maxAge next => do
    let r ← Task.attempt (clearOldEvents maxAge)
    (next r).run

/-- The functions and the actions of an application, and what the members of its audience do. -/
structure Audience (σ ν : Type) where
  ask : String → Value → Except Fault Value
  act : Receive (Ledger (σ × ν)) → String → Value → Context → Task (Ledger (σ × ν)) Reply
  errand : Nat → Notice → Errand σ ν

/-- The application of the audience. Every call of a member is entered. -/
def Audience.application (a : Audience σ ν) : Application (Ledger (σ × ν)) where
  ask := a.ask
  act := a.act
  serve _ k n := entered (fun r inside => .call k n inside r.isOk) (a.errand k n).run

/-- The state of the members without their notes, and who was told what. -/
def Ledger.deliveries (l : Ledger (σ × ν)) : σ × List (Option (Subscriber × Notice)) :=
  (l.state.1, l.entries.map Entry.told)

section Deliveries

variable {h g : Hub (Ledger (σ × ν))}

theorem Hub.Beside.state (hb : h.Beside Ledger.deliveries g) : h.host.state.1 = g.host.state.1 :=
  (congrArg Prod.fst hb.host :)

theorem Hub.Beside.told (hb : h.Beside Ledger.deliveries g) :
    h.host.entries.map Entry.told = g.host.entries.map Entry.told := (congrArg Prod.snd hb.host :)

end Deliveries

/-- A call is entered by whom it reaches and with what, whether it returns or not. -/
theorem blind_entered_call {k : Nat} {n : Notice} {t : Task (Ledger (σ × ν)) Unit}
    (ht : Blind Ledger.deliveries t) :
    Blind Ledger.deliveries (entered (fun r inside => .call k n inside r.isOk) t) := by
  intro h g hb
  have hempty : (h.withEntries []).Beside Ledger.deliveries (g.withEntries []) :=
    hb.changeHost (by simp [Ledger.deliveries, hb.state])
  obtain ⟨hb', hq⟩ := ht _ _ hempty
  rw [outcome_entered, outcome_entered]
  exact ⟨hb'.changeHost (by simp [Ledger.deliveries, Entry.told, hb'.state, hb.told]), hq⟩

theorem uniform_enlist (client : Nat) (channel : Channel) :
    Uniform view (channel.enlist client : Task α Nat) := by
  refine Uniform.look (p := fun h => h.bus.subscriptions) (f := fun s => do
    modifyBus fun b => { b with subscriptions := (s.add channel (.client client)).2 }
    return (s.add channel (.client client)).1) (fun _ _ hb => hb.subscriptions)
    (fun h => by cases channel <;> rfl) fun h hf => ?_
  have hchange : Uniform view (modifyBus (α := α) fun b =>
      { b with subscriptions := (h.bus.subscriptions.add channel (.client client)).2 }) := by
    refine .changeBus (fun _ => rfl) (fun _ _ x hx => ?_) fun _ => rfl
    obtain hx | hx := List.mem_append.1 hx
    · exact hf x hx
    · obtain rfl := List.mem_singleton.1 hx
      exact trivial
  exact hchange.bind fun _ => .pure _

theorem uniform_unsubscribe (id : Nat) : Uniform view (unsubscribe id : Task α Bool) := by
  refine Uniform.look (p := fun h => h.bus.subscriptions) (f := fun s => do
    modifyBus fun b => { b with subscriptions := (s.remove id).2 }
    return (s.remove id).1) (fun _ _ hb => hb.subscriptions) (fun _ => rfl) fun h hf => ?_
  have hchange : Uniform view (modifyBus (α := α) fun b =>
      { b with subscriptions := (h.bus.subscriptions.remove id).2 }) :=
    .changeBus (fun _ => rfl) (fun _ _ x hx => hf x (List.mem_filter.1 hx).1) fun _ => rfl
  exact hchange.bind fun _ => .pure _

theorem uniform_clearOldEvents (maxAge : Value) : Uniform view (clearOldEvents maxAge : Task α Nat) := by
  refine Uniform.look (p := fun h => (h.now, h.bus.history)) (f := fun seen => do
    let cutoff ← Task.ofExcept (do Time.instantBefore seen.1 (← Time.spanOf maxAge))
    modifyBus fun b => { b with history := (seen.2.clear cutoff).2 }
    if (seen.2.clear cutoff).1 != 0 then
      Task.log .info busPart s!"Cleared {(seen.2.clear cutoff).1} old events"
    return (seen.2.clear cutoff).1) (fun _ _ hb => by rw [hb.now, hb.history]) (fun h => ?_) fun h _ => ?_
  · rw [clearOldEvents, outcome_bind_ok (outcome_get h)]
  · refine (Uniform.ofExcept _).bind fun cutoff => ?_
    have hchange : Uniform view (modifyBus (α := α) fun b =>
        { b with history := (h.bus.history.clear cutoff).2 }) :=
      .changeBus (fun _ => rfl) (fun _ hs => hs) fun _ => rfl
    refine hchange.bind fun _ => ?_
    dsimp only
    split
    · exact (Uniform.log _ _ _).bind fun _ => .pure _
    · exact .pure _

theorem Errand.blind_run (errand : Errand σ ν) : Blind Ledger.deliveries errand.run := by
  induction errand with
  | done ending =>
    intro h g hb
    rw [Errand.run, outcome_bind_ok (outcome_get h), outcome_bind_ok (outcome_get g), outcome_ofExcept,
      outcome_ofExcept]
    exact ⟨hb, rfl⟩
  | note write next ih =>
    intro h g hb
    rw [Errand.run, outcome_bind_ok (outcome_modify _ h), outcome_bind_ok (outcome_modify _ g)]
    exact ih _ _ (hb.changeHost (by simp [Ledger.deliveries, hb.state, hb.told]))
  | turn change next ih =>
    intro h g hb
    rw [Errand.run, outcome_bind_ok (outcome_get h), outcome_bind_ok (outcome_get g),
      outcome_bind_ok (outcome_modify _ h), outcome_bind_ok (outcome_modify _ g), ← hb.bus, ← hb.state]
    exact ih _ _ _ _ (hb.changeHost (by simp [Ledger.deliveries, hb.state, hb.told, hb.bus]))
  | subscribe channel client next ih => exact (uniform_enlist client channel).bind_blind ih
  | unsubscribe id next ih => exact (uniform_unsubscribe id).bind_blind ih
  | clearOld maxAge next ih => exact (uniform_clearOldEvents maxAge).attempt.bind_blind ih

/-- An audience receives notices blindly, at every level. -/
theorem Audience.blind_receive (a : Audience σ ν) (levels : Nat) {s : Subscriber} (hs : s.Foreign)
    (n : Notice) : Blind Ledger.deliveries (receive a.application levels s n) := by
  cases levels with
  | zero => exact (Uniform.throw _).1
  | succ levels =>
    cases s with
    | client k => exact blind_entered_call (a.errand k n).blind_run
    | function name => exact ((Uniform.ofExcept (a.ask name n.toValue)).bind fun _ => .pure ()).1
    | discoverType | discoverFields | handleEvent | takeMessage => exact hs.elim

end EventHub
