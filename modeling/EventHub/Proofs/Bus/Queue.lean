import EventHub.Proofs.Bus.Blind
import Mathlib.Data.List.Infix
import Mathlib.Logic.Relation

/-!
# The queue of events

A bus that stays started, one publisher, and the dispatcher. Each takes steps of its own, in any order: the
publisher may be given room or lose patience while the dispatcher is in the midst of a dispatch.

* **Steps** (`QueueStep`): one case for each thing that the publisher or the dispatcher may do next.
* **Faithfulness** (`QueueState.Faithful`): what the dispatcher has taken and what waits is what was
  accepted, and the hub is to be what it had become if the events that were taken had been published to a
  bus that was never started. Every step keeps this (`QueueStep.keeps_faithful`).
* **Schedules** (`QueueRun.drain`, `QueueRun.publishEvent`): the dispatcher at work by itself, and a publisher
  who waits for nothing but the dispatcher, take such steps. From everywhere the dispatcher comes to rest
  (`QueueRun.comes_to_rest`).
* `QueueRun.dispatched_accepted`: whatever the order of the steps, what is dispatched was accepted, and at
  rest the bus is as if it had never been started.
-/

namespace EventHub

open EventHub.Task

variable {α κ σ ν : Type} {view : α → κ} {host : Host α}

/-! ## Steps -/

/-- Can the publisher not wait at all? -/
def Bus.impatient (b : Bus) : Bool := 0 < b.capacity && b.patience < 0

/-- The publisher and the dispatcher at a started bus: the event that the publisher waits to put into the
queue, the event that the dispatcher is at with the stages that are left, the events that were offered to the
queue, each with whether it was accepted, and those that the dispatcher has taken, oldest first. -/
structure QueueState (α : Type) where
  hub : Hub α
  offered : Option Event
  current : Option (Event × List Stage)
  attempts : List (Event × Bool)
  dispatched : List Event

/-- The events that were accepted. -/
def QueueState.accepted (s : QueueState α) : List Event :=
  (s.attempts.filter Prod.snd).map Prod.fst

/-- The bus is started, and nobody has done anything yet. -/
def QueueState.start (h : Hub α) : QueueState α := ⟨(outcome startBus h).2, none, none, [], []⟩

/-- Puts an event at the end of the queue. -/
def Hub.enqueue (h : Hub α) (e : Event) : Hub α := { h with bus := h.bus.enqueue e }

/-- Takes an event from the queue, which leaves the rest. -/
def Hub.take (h : Hub α) (rest : List Event) : Hub α :=
  { h with bus := { h.bus with pending := rest, busy := true } }

/-- Is done with an event. -/
def Hub.release (h : Hub α) : Hub α := { h with bus := { h.bus with busy := false } }

/-- Writes that the queue is full. -/
def logFull (e : Event) : Task α Unit :=
  Task.log .error busPart s!"Event queue full; rejecting event {e.id} type={e.type}"

/-- Writes that a dispatch failed. -/
def logFailed (e : Event) (fault : Fault) : Task α Unit :=
  Task.logFault busPart "Event dispatch failed" [("event_id", .text e.id), ("type", .text e.type)] fault

/-- What the publisher or the dispatcher may do next. The publisher offers what it is given, if that makes an
event, and waits until the event is accepted or time is up. How long that takes is left open. The dispatcher
takes the oldest event, goes through the stages of its dispatch, the first that fails being the last, and is
then done with it. -/
inductive QueueStep (host : Host α) : QueueState α → QueueState α → Prop
  | refuse {s : QueueState α} {hub : Hub α} {raw : Definition Event} {fault : Fault}
    (free : s.offered = none) (run : outcome (normalizeEvent raw) s.hub = (.error fault, hub)) :
    QueueStep host s { s with hub }
  | offer {s : QueueState α} {hub : Hub α} {raw : Definition Event} {e : Event}
    (free : s.offered = none) (run : outcome (normalizeEvent raw) s.hub = (.ok e, hub)) :
    QueueStep host s { s with hub, offered := some e }
  | withdraw {s : QueueState α} {e : Event} (waits : s.offered = some e)
    (impatient : s.hub.bus.impatient = true) : QueueStep host s { s with offered := none }
  | accept {s : QueueState α} {e : Event} (waits : s.offered = some e)
    (room : s.hub.bus.full = false) :
    QueueStep host s { s with
      hub := s.hub.enqueue e, offered := none, attempts := s.attempts ++ [(e, true)] }
  | reject {s : QueueState α} {e : Event} (waits : s.offered = some e)
    (full : s.hub.bus.full = true) :
    QueueStep host s { s with
      hub := (outcome (logFull e) s.hub).2, offered := none, attempts := s.attempts ++ [(e, false)] }
  | take {s : QueueState α} {e : Event} {rest : List Event} (free : s.current = none)
    (oldest : s.hub.bus.pending = e :: rest) :
    QueueStep host s { s with
      hub := s.hub.take rest, current := some (e, e.stages), dispatched := s.dispatched ++ [e] }
  | stage {s : QueueState α} {e : Event} {stage : Stage} {rest : List Stage} {hub : Hub α}
    (next : s.current = some (e, stage :: rest))
    (run : outcome (stage.run host e) s.hub = (.ok (), hub)) :
    QueueStep host s { s with hub, current := some (e, rest) }
  | fail {s : QueueState α} {e : Event} {stage : Stage} {rest : List Stage} {hub : Hub α} {fault : Fault}
    (next : s.current = some (e, stage :: rest))
    (run : outcome (stage.run host e) s.hub = (.error fault, hub)) :
    QueueStep host s { s with hub := (outcome (logFailed e fault) hub).2, current := some (e, []) }
  | release {s : QueueState α} {e : Event} (through : s.current = some (e, [])) :
    QueueStep host s { s with hub := s.hub.release, current := none }

theorem QueueStep.offer_checked {s : QueueState α} (e : Event) (free : s.offered = none) :
    QueueStep host s { s with offered := some e } := by
  have hnormal : outcome (normalizeEvent (.checked e)) s.hub = (.ok e, s.hub) := rfl
  exact .offer free hnormal

/-- Any number of steps. -/
def QueueRun (host : Host α) : QueueState α → QueueState α → Prop :=
  Relation.ReflTransGen (QueueStep host)

/-! ## Faithfulness -/

/-- The hub after the events were published, one after the other, whatever became of each. -/
def Hub.published (host : Host α) (h : Hub α) (events : List Event) : Hub α :=
  events.foldl (fun h e => (outcome (publishEvent host (.checked e)) h).2) h

/-- A bus that was never started, to which none of the hub's own listeners is subscribed. -/
structure Hub.Unstarted (h : Hub α) : Prop where
  queue : h.bus.queue = ([], false, false)
  foreign : ∀ e ∈ h.bus.subscriptions.entries, e.subscriber.Foreign

/-- The hub when the dispatcher is through with the event that it is at. -/
def QueueState.settled (host : Host α) (s : QueueState α) : Hub α :=
  match s.current with
  | none => s.hub
  | some (e, rest) => (outcome (runStages host e rest) s.hub).2

/-- The state is faithful to the hub from which it came. -/
structure QueueState.Faithful (view : α → κ) (host : Host α) (h : Hub α) (s : QueueState α) : Prop where
  order : s.dispatched ++ s.hub.bus.pending = s.accepted
  running : s.hub.bus.running = true
  busy : s.hub.bus.busy = s.current.isSome
  foreign : ∀ e ∈ s.hub.bus.subscriptions.entries, e.subscriber.Foreign
  same : (s.settled host).Beside view (h.published host s.dispatched)

theorem Hub.Beside.refl {h : Hub α} (hf : ∀ e ∈ h.bus.subscriptions.entries, e.subscriber.Foreign) :
    h.Beside view h := ⟨rfl, hf⟩

theorem Hub.Beside.changeQueue {h g : Hub α} (hb : h.Beside view g) (pending : List Event) (busy : Bool) :
    Hub.Beside view { h with bus := { h.bus with pending, busy } } g := ⟨hb.same, hb.foreign⟩

section Steps

variable (hr : ∀ s n, s.Foreign → Blind view (host.receive s n))
include hr

theorem uniform_dispatchEvent (e : Event) : Uniform view (dispatchEvent host e) := by
  rw [← runStages_stages]
  exact uniform_runStages hr e e.stages

/-- A bus that was never started dispatches what is published at once, and then is none that was started
either. -/
theorem Hub.Unstarted.publishEvent {h : Hub α} (hh : h.Unstarted) (e : Event) :
    (outcome (EventHub.publishEvent host (.checked e)) h).2 = (outcome (dispatchEvent host e) h).2 ∧
      (outcome (dispatchEvent host e) h).2.Unstarted := by
  obtain ⟨hbeside, hqueue⟩ := (uniform_dispatchEvent hr e).1 h h (.refl hh.foreign)
  obtain ⟨-, -, hrunning⟩ := Bus.queue_eq_iff.1 hh.queue
  refine ⟨?_, hqueue.trans hh.queue, hbeside.foreign⟩
  have hnormal : outcome (normalizeEvent (.checked e)) h = (.ok e, h) := rfl
  have hinline : ¬ h.bus.running = true := by rw [hrunning]; exact Bool.false_ne_true
  rw [EventHub.publishEvent, outcome_bind_ok hnormal, outcome_bind_ok (outcome_get h), if_neg hinline,
    hub_bind_pure]

theorem Hub.Unstarted.published {h : Hub α} (hh : h.Unstarted) (events : List Event) :
    (h.published host events).Unstarted := by
  induction events generalizing h with
  | nil => exact hh
  | cons e rest ih =>
    obtain ⟨hdispatch, hnext⟩ := hh.publishEvent hr e
    rw [Hub.published, List.foldl_cons, hdispatch]
    exact ih hnext

/-- One more event that is published to a bus that was never started. -/
theorem Hub.Unstarted.published_concat {h : Hub α} (hh : h.Unstarted) (events : List Event) (e : Event) :
    h.published host (events ++ [e]) = (outcome (dispatchEvent host e) (h.published host events)).2 := by
  rw [← ((hh.published hr events).publishEvent hr e).1, Hub.published, List.foldl_append]
  rfl

/-! ### Steps of the publisher -/

/-- A step that changes nothing but the queue and the log leaves the hub that is to be beside what it
was. -/
theorem QueueState.settled_beside {s : QueueState α} {hub : Hub α} (hb : hub.Beside view s.hub) :
    (QueueState.settled host { s with hub }).Beside view (s.settled host) := by
  unfold settled
  dsimp only
  cases s.current with
  | none => exact hb
  | some current => exact ((uniform_runStages hr current.1 current.2).1 _ _ hb).1

namespace QueueState.Faithful

variable {h : Hub α} {s : QueueState α}

/-- Making an event of what is given draws an id at most. -/
theorem normalized (hs : s.Faithful view host h) {raw : Definition Event} {r : Except Fault Event}
    {hub : Hub α} (run : outcome (normalizeEvent raw) s.hub = (r, hub)) (offered : Option Event) :
    Faithful view host h { s with hub, offered } := by
  obtain ⟨serial, hserial⟩ := normalizeEvent_hub raw s.hub
  obtain rfl : hub = { s.hub with serial } := by rw [← hserial, run]
  have hb : Hub.Beside view { s.hub with serial } s.hub := (Hub.Beside.refl hs.foreign).changeSerial serial
  exact ⟨hs.order, hs.running, hs.busy, hs.foreign, (settled_beside hr hb).trans hs.same⟩

theorem accept (hs : s.Faithful view host h) (e : Event) :
    Faithful view host h { s with
      hub := s.hub.enqueue e, offered := none, attempts := s.attempts ++ [(e, true)] } := by
  have hb : (s.hub.enqueue e).Beside view s.hub := (Hub.Beside.refl hs.foreign).changeQueue _ _
  refine ⟨?_, hs.running, hs.busy, hs.foreign, (settled_beside hr hb).trans hs.same⟩
  have horder := hs.order
  simp only [QueueState.accepted] at horder ⊢
  calc s.dispatched ++ (s.hub.bus.pending ++ [e])
    _ = (s.dispatched ++ s.hub.bus.pending) ++ [e] := (List.append_assoc ..).symm
    _ = ((s.attempts ++ [(e, true)]).filter Prod.snd).map Prod.fst := by simp [horder]

theorem reject (hs : s.Faithful view host h) (e : Event) :
    Faithful view host h { s with
      hub := (outcome (logFull e) s.hub).2, offered := none, attempts := s.attempts ++ [(e, false)] } := by
  have hb : (outcome (logFull e) s.hub).2.Beside view s.hub := (Hub.Beside.refl hs.foreign).changeLog _
  refine ⟨?_, hs.running, hs.busy, hs.foreign, (settled_beside hr hb).trans hs.same⟩
  have horder := hs.order
  simp only [QueueState.accepted] at horder ⊢
  calc s.dispatched ++ s.hub.bus.pending
    _ = ((s.attempts ++ [(e, false)]).filter Prod.snd).map Prod.fst := by simp [horder]

/-! ### Steps of the dispatcher -/

/-- When an event is taken, its dispatch is what follows. -/
theorem take (hh : h.Unstarted) (hs : s.Faithful view host h) {e : Event} {rest : List Event}
    (free : s.current = none) (oldest : s.hub.bus.pending = e :: rest) :
    Faithful view host h { s with
      hub := s.hub.take rest, current := some (e, e.stages), dispatched := s.dispatched ++ [e] } := by
  have hsame : s.hub.Beside view (h.published host s.dispatched) := by
    have hsame := hs.same
    rwa [settled, free] at hsame
  refine ⟨?_, hs.running, rfl, hs.foreign, ?_⟩
  · calc (s.dispatched ++ [e]) ++ rest
      _ = s.dispatched ++ s.hub.bus.pending := by rw [List.append_assoc, oldest]; rfl
      _ = s.accepted := hs.order
  · rw [hh.published_concat hr, settled]
    dsimp only
    rw [runStages_stages]
    exact ((uniform_dispatchEvent hr e).1 _ _ (hsame.changeQueue rest true)).1

/-- What a stage leaves of the queue, whether it fails or not. -/
theorem ran (hs : s.Faithful view host h) {e : Event} {stage : Stage} {r : Except Fault Unit} {hub : Hub α}
    (run : outcome (stage.run host e) s.hub = (r, hub)) : s.dispatched ++ hub.bus.pending = s.accepted ∧
      hub.bus.running = true ∧ hub.bus.busy = s.current.isSome ∧
      ∀ x ∈ hub.bus.subscriptions.entries, x.subscriber.Foreign := by
  obtain ⟨hbeside, hqueue⟩ := (stage.uniform_run hr e).1 s.hub s.hub (.refl hs.foreign)
  rw [run] at hbeside hqueue
  obtain ⟨hpending, hbusy, hrunning⟩ := Bus.queue_eq_iff.1 hqueue
  exact ⟨by rw [hpending, hs.order], hrunning.trans hs.running, hbusy.trans hs.busy, hbeside.foreign⟩

/-- A stage leaves the hub that is to be as it is. -/
theorem stage (hs : s.Faithful view host h) {e : Event} {stage : Stage} {rest : List Stage}
    {hub : Hub α} (next : s.current = some (e, stage :: rest))
    (run : outcome (stage.run host e) s.hub = (.ok (), hub)) :
    Faithful view host h { s with hub, current := some (e, rest) } := by
  obtain ⟨horder, hrunning, hbusy, hforeign⟩ := hs.ran hr run
  refine ⟨horder, hrunning, by rw [hbusy, next]; rfl, hforeign, ?_⟩
  have hsame := hs.same
  rw [settled, next] at hsame
  dsimp only at hsame
  rwa [runStages, outcome_bind_ok run] at hsame

/-- A stage that fails is the last. -/
theorem fail (hs : s.Faithful view host h) {e : Event} {stage : Stage} {rest : List Stage}
    {hub : Hub α} {fault : Fault} (next : s.current = some (e, stage :: rest))
    (run : outcome (stage.run host e) s.hub = (.error fault, hub)) :
    Faithful view host h { s with hub := (outcome (logFailed e fault) hub).2, current := some (e, []) } := by
  obtain ⟨horder, hrunning, hbusy, hforeign⟩ := hs.ran hr run
  refine ⟨horder, hrunning, by rw [next] at hbusy; exact hbusy, hforeign, ?_⟩
  have hsame := hs.same
  rw [settled, next] at hsame
  dsimp only at hsame
  rw [runStages, outcome_bind_error run] at hsame
  exact hsame.changeLog _

omit hr in
theorem release (hs : s.Faithful view host h) {e : Event} (through : s.current = some (e, [])) :
    Faithful view host h { s with hub := s.hub.release, current := none } := by
  have hsame := hs.same
  rw [settled, through] at hsame
  exact ⟨hs.order, hs.running, rfl, hs.foreign, hsame.changeQueue _ _⟩

end QueueState.Faithful

/-- Every step keeps what was begun faithful. -/
theorem QueueStep.keeps_faithful {h : Hub α} (hh : h.Unstarted) {s s' : QueueState α}
    (hstep : QueueStep host s s') (hs : s.Faithful view host h) : s'.Faithful view host h := by
  cases hstep with
  | refuse free run => exact hs.normalized hr run s.offered
  | offer free run => exact hs.normalized hr run _
  | withdraw waits impatient => exact ⟨hs.order, hs.running, hs.busy, hs.foreign, hs.same⟩
  | accept waits room => exact hs.accept hr _
  | reject waits full => exact hs.reject hr _
  | take free oldest => exact hs.take hr hh free oldest
  | stage next run => exact hs.stage hr next run
  | fail next run => exact hs.fail hr next run
  | release through => exact hs.release through

omit hr in
theorem QueueState.Faithful.start {h : Hub α} (hh : h.Unstarted) :
    (QueueState.start h).Faithful view host h := by
  obtain ⟨hpending, hbusy, hrunning⟩ := Bus.queue_eq_iff.1 hh.queue
  have hstart : ∃ log, (outcome startBus h).2 = { h with bus := { h.bus with running := true }, log } := by
    rw [startBus, outcome_bind_ok (outcome_get h), if_pos (by rw [hrunning]; rfl)]
    exact ⟨_, rfl⟩
  obtain ⟨log, hstart⟩ := hstart
  rw [QueueState.start, hstart]
  exact ⟨hpending, rfl, hbusy, hh.foreign, rfl, hh.foreign⟩

theorem QueueRun.keeps_faithful {h : Hub α} (hh : h.Unstarted) {s s' : QueueState α}
    (hs : s.Faithful view host h) (run : QueueRun host s s') : s'.Faithful view host h := by
  induction run with
  | refl => exact hs
  | tail _ hstep ih => exact hstep.keeps_faithful hr hh ih

/-! ## Schedules -/

omit hr in
/-- The dispatcher goes through what is left of a dispatch, and is done with the event. -/
theorem QueueRun.runStages {s : QueueState α} {e : Event} {stages : List Stage}
    (next : s.current = some (e, stages)) :
    QueueRun host s { s with
      hub := match outcome (EventHub.runStages host e stages) s.hub with
        | (.ok _, hub) => hub.release
        | (.error fault, hub) => (outcome (logFailed e fault) hub).2.release
      current := none } := by
  induction stages generalizing s with
  | nil => exact .single (.release next)
  | cons stage rest ih =>
    rw [EventHub.runStages, outcome_bind]
    cases run : outcome (stage.run host e) s.hub with
    | mk r hub =>
    cases r with
    | ok _ => exact .head (.stage next run) (ih rfl)
    | error fault => exact .head (.fail next run) (.single (.release rfl))

omit hr in
/-- The dispatcher takes an event and dispatches it. -/
theorem QueueRun.dispatchQueued {s : QueueState α} {e : Event} {rest : List Event} (free : s.current = none)
    (oldest : s.hub.bus.pending = e :: rest) :
    QueueRun host s { s with
      hub := (outcome (EventHub.dispatchQueued host e)
        { s.hub with bus := { s.hub.bus with pending := rest } }).2
      current := none
      dispatched := s.dispatched ++ [e] } := by
  have hrun : QueueRun host { s with
      hub := s.hub.take rest, current := some (e, e.stages), dispatched := s.dispatched ++ [e] } _ :=
    QueueRun.runStages rfl
  have hbegin : outcome (modifyBus fun b => { b with busy := true })
      { s.hub with bus := { s.hub.bus with pending := rest } } = (.ok (), s.hub.take rest) := rfl
  rw [runStages_stages] at hrun
  unfold EventHub.dispatchQueued
  rw [outcome_bind_ok hbegin, outcome_bind_ok (outcome_attempt _ _)]
  refine .head (.take free oldest) ?_
  dsimp only at hrun
  generalize outcome (dispatchEvent host e) (s.hub.take rest) = run at hrun ⊢
  obtain ⟨r, hub⟩ := run
  cases r with
  | ok _ => exact hrun
  | error fault => exact hrun

/-- A dispatcher that is free comes to rest. By induction on the number of events that wait. -/
theorem QueueRun.comes_to_rest_of_free {h : Hub α} (hh : h.Unstarted) (n : Nat) {s : QueueState α}
    (hs : s.Faithful view host h) (free : s.current = none) (hn : s.hub.bus.pending.length = n) :
    ∃ s', QueueRun host s s' ∧ s'.hub.bus.idle = true ∧ s'.attempts = s.attempts := by
  induction n generalizing s with
  | zero =>
    have hbusy : s.hub.bus.busy = false := by rw [hs.busy, free]; rfl
    have hpending : s.hub.bus.pending = [] := List.length_eq_zero_iff.1 hn
    exact ⟨s, .refl, by simp [Bus.idle, hbusy, hpending], rfl⟩
  | succ n ih =>
    obtain ⟨e, rest, hpending⟩ := List.exists_cons_of_length_eq_add_one hn
    have hfirst : QueueRun host s _ := QueueRun.dispatchQueued free hpending
    have hs' := hfirst.keeps_faithful hr hh hs
    -- as much was accepted as before, and one event more was taken
    have hlength := congrArg List.length (hs'.order.trans hs.order.symm)
    simp only [List.length_append, List.length_cons, List.length_nil] at hlength
    obtain ⟨s', hlater, hidle, hattempts⟩ := ih hs' rfl (by dsimp only; omega)
    exact ⟨s', hfirst.trans hlater, hidle, hattempts⟩

/-- From everywhere the dispatcher by itself comes to rest. -/
theorem QueueRun.comes_to_rest {h : Hub α} (hh : h.Unstarted) {s : QueueState α}
    (hs : s.Faithful view host h) :
    ∃ s', QueueRun host s s' ∧ s'.hub.bus.idle = true ∧ s'.attempts = s.attempts := by
  cases hcurrent : s.current with
  | none => exact QueueRun.comes_to_rest_of_free hr hh _ hs hcurrent rfl
  | some current =>
    have hfirst : QueueRun host s _ := QueueRun.runStages hcurrent
    obtain ⟨s', hlater, hidle, hattempts⟩ :=
      QueueRun.comes_to_rest_of_free hr hh _ (hfirst.keeps_faithful hr hh hs) rfl rfl
    exact ⟨s', hfirst.trans hlater, hidle, hattempts⟩

/-- The dispatcher at work by itself. -/
theorem QueueRun.drain {h : Hub α} (hh : h.Unstarted) (n : Nat) {s : QueueState α}
    (hs : s.Faithful view host h) : ∃ s', QueueRun host s s' ∧
      s'.hub = (outcome (EventHub.drain host n) s.hub).2 ∧ s'.offered = s.offered ∧
      s'.attempts = s.attempts := by
  induction n generalizing s with
  | zero => exact ⟨s, .refl, rfl, rfl, rfl⟩
  | succ n ih =>
    rw [EventHub.drain, outcome_bind_ok (outcome_get s.hub)]
    dsimp only
    -- Draining stops where an event is being dispatched, and where none waits; else it is one more
    -- dispatch.
    cases hcurrent : s.current with
    | some current =>
      have hbusy : s.hub.bus.busy = true := by rw [hs.busy, hcurrent]; rfl
      rw [if_neg (by simp [hbusy])]
      exact ⟨s, .refl, rfl, rfl, rfl⟩
    | none =>
      have hbusy : s.hub.bus.busy = false := by rw [hs.busy, hcurrent]; rfl
      rw [if_pos (by simp [hs.running, hbusy])]
      cases hpending : s.hub.bus.pending with
      | nil => exact ⟨s, .refl, rfl, rfl, rfl⟩
      | cons e rest =>
        have hfirst : QueueRun host s _ := QueueRun.dispatchQueued hcurrent hpending
        obtain ⟨s', hlater, hhub, hoffered, hattempts⟩ := ih (hfirst.keeps_faithful hr hh hs)
        refine ⟨s', hfirst.trans hlater, ?_, hoffered, hattempts⟩
        have htake : outcome (modifyBus fun b => { b with pending := rest }) s.hub =
          (.ok (), { s.hub with bus := { s.hub.bus with pending := rest } }) := rfl
        dsimp only
        rw [outcome_bind_ok htake, outcome_bind_ok (outcome_dispatchQueued_ok host e _)]
        exact hhub

omit hr in
/-- What the publisher does when it has waited for room, or need not wait. -/
theorem QueueRun.acceptOrReject (host : Host α) {s : QueueState α} {e : Event} (waits : s.offered = some e) :
    ∃ s' r, outcome (do
        if (← get).bus.full then
          Task.log .error busPart s!"Event queue full; rejecting event {e.id} type={e.type}"
          throw (.busFull e.id)
        modifyBus (·.enqueue e)) s.hub = (r, s'.hub) ∧ QueueRun host s s' ∧ s'.offered = none ∧
      match r with
        | .ok _ => s'.attempts = s.attempts ++ [(e, true)]
        | .error _ => s'.accepted = s.accepted := by
  rw [outcome_bind_ok (outcome_get s.hub)]
  by_cases hfull : s.hub.bus.full = true
  · rw [if_pos hfull]
    exact ⟨_, .error (.busFull e.id), rfl, .single (.reject waits hfull), rfl, by
      simp [QueueState.accepted]⟩
  · rw [if_neg hfull]
    exact ⟨_, .ok (), rfl, .single (.accept waits (Bool.eq_false_iff.2 hfull)), rfl, rfl⟩

/-- The publisher puts an event into the queue, or does not. -/
theorem QueueRun.enqueueEvent {h : Hub α} (hh : h.Unstarted) {s : QueueState α} {e : Event}
    (hs : s.Faithful view host h) (waits : s.offered = some e) : ∃ s' r,
      outcome (EventHub.enqueueEvent host e) s.hub = (r, s'.hub) ∧ QueueRun host s s' ∧
      s'.offered = none ∧ match r with
        | .ok _ => s'.attempts = s.attempts ++ [(e, true)]
        | .error _ => s'.accepted = s.accepted := by
  unfold EventHub.enqueueEvent
  rw [outcome_bind_ok (outcome_get s.hub)]
  dsimp only
  by_cases himpatient : (decide (0 < s.hub.bus.capacity) && decide (s.hub.bus.patience < 0)) = true
  · rw [if_pos himpatient]
    exact ⟨{ s with offered := none }, .error _, rfl, .single (.withdraw waits himpatient), rfl, rfl⟩
  rw [if_neg himpatient]
  by_cases hfull : s.hub.bus.full = true
  · obtain ⟨s₁, hwait, hhub, hoffered, hattempts⟩ := QueueRun.drain hr hh drainLimit hs
    obtain ⟨s₂, r, hrun, hsteps, hfree, hanswer⟩ :=
      QueueRun.acceptOrReject host (hoffered.trans waits)
    have haccepted : s₁.accepted = s.accepted := by rw [QueueState.accepted, hattempts]; rfl
    rw [if_pos hfull, outcome_bind_ok (outcome_drain_ok host drainLimit s.hub), ← hhub]
    rw [hattempts, haccepted] at hanswer
    exact ⟨s₂, r, hrun, hwait.trans hsteps, hfree, hanswer⟩
  · rw [if_neg hfull]
    exact QueueRun.acceptOrReject host waits

/-- An event that is published while the publisher can only wait for the dispatcher. What is answered was
accepted, and nothing was where there was a fault. -/
theorem QueueRun.publishEvent {h : Hub α} (hh : h.Unstarted) (raw : Definition Event) {s : QueueState α}
    (hs : s.Faithful view host h) (free : s.offered = none) : ∃ s' r,
      outcome (EventHub.publishEvent host raw) s.hub = (r, s'.hub) ∧ QueueRun host s s' ∧
      s'.offered = none ∧ match r with
        | .ok e => s'.attempts = s.attempts ++ [(e, true)]
        | .error _ => s'.accepted = s.accepted := by
  unfold EventHub.publishEvent
  cases hnormal : outcome (normalizeEvent raw) s.hub with
  | mk r hub =>
  cases r with
  | error fault =>
    rw [outcome_bind_error hnormal]
    exact ⟨_, _, rfl, .single (.refuse free hnormal), free, rfl⟩
  | ok e =>
    have hoffer : QueueStep host s _ := .offer free hnormal
    have hs₁ := hoffer.keeps_faithful hr hh hs
    obtain ⟨s', r, hrun, hsteps, hfree, hanswer⟩ := QueueRun.enqueueEvent hr hh hs₁ rfl
    rw [outcome_bind_ok hnormal, outcome_bind_ok (outcome_get hub), if_pos hs₁.running, outcome_bind, hrun]
    cases r with
    | ok _ => exact ⟨s', .ok e, rfl, .head hoffer hsteps, hfree, hanswer⟩
    | error fault => exact ⟨s', .error fault, rfl, .head hoffer hsteps, hfree, hanswer⟩

end Steps

/-! ## Runs -/

/-- A publisher and the dispatcher at a bus that stays started, in any order of their steps, where nobody
who is subscribed publishes: the dispatcher takes the events that were accepted, each once and in order,
whether their dispatch fails or not, and those that wait are the rest. An event that was only ever rejected
is not dispatched. Where the bus is idle, all were dispatched, and its history, its schema, its counters and
what its clients were told are those of a bus that was never started and had these events published to
it. -/
theorem QueueRun.dispatched_accepted (a : Audience σ ν) {h : Hub (Ledger (σ × ν))} (unstarted : h.Unstarted)
    {s : QueueState (Ledger (σ × ν))} (run : QueueRun a.application.host (.start h) s) :
    s.dispatched ++ s.hub.bus.pending = s.accepted ∧ s.dispatched <+: s.accepted ∧
    (∀ e, (e, true) ∉ s.attempts → e ∉ s.dispatched) ∧
    (s.hub.bus.idle = true →
      let inline := h.published a.application.host s.accepted
      s.dispatched = s.accepted ∧ s.hub.bus.history = inline.bus.history ∧
        s.hub.bus.schema = inline.bus.schema ∧ s.hub.bus.stats = inline.bus.stats ∧
        s.hub.host.entries.map Entry.told = inline.host.entries.map Entry.told) := by
  have hr (s : Subscriber) (n : Notice) (hs : s.Foreign) :
      Blind Ledger.deliveries (a.application.host.receive s n) := a.blind_receive receptionDepth hs n
  have hs := run.keeps_faithful hr unstarted (QueueState.Faithful.start unstarted)
  refine ⟨hs.order, ⟨_, hs.order⟩, fun e he hmem => ?_, fun hidle => ?_⟩
  · have haccepted : e ∈ s.accepted := hs.order ▸ List.mem_append_left _ hmem
    obtain ⟨⟨_, flag⟩, hattempt, rfl⟩ := List.mem_map.1 haccepted
    obtain ⟨hattempt, rfl⟩ := List.mem_filter.1 hattempt
    exact he hattempt
  · have hqueue : s.hub.bus.busy = false ∧ s.hub.bus.pending = [] := by simpa [Bus.idle] using hidle
    obtain ⟨hbusy, hpending⟩ := hqueue
    have hall : s.dispatched = s.accepted := by rw [← hs.order, hpending, List.append_nil]
    have hfree : s.current = none := by
      rw [hs.busy] at hbusy
      simpa using hbusy
    have hsame := hs.same
    rw [QueueState.settled, hfree, hall] at hsame
    obtain ⟨hwaits, -, -⟩ := Bus.queue_eq_iff.1 (unstarted.published hr s.accepted).queue
    refine ⟨hall, hsame.history, hsame.schema, ?_, hsame.told⟩
    rw [Bus.stats, Bus.stats, hsame.history, hsame.subscriptions, hpending, hwaits]

/-- Two members of an audience: one that notes how many events wait, counts what it is told and ends its own
subscription after the first event, and one that raises. -/
def Audience.pair : Audience Nat (List Nat) where
  ask _ _ := .error (.raised .runtime "no")
  act _ _ v _ := return ⟨.null, v, none⟩
  errand
    | 0, _ => .note (fun b _ seen => seen ++ [b.pending.length]) (.turn (fun _ count => count + 1) fun _ _ =>
        .unsubscribe 1 fun _ => .done fun _ _ _ => .ok ())
    | _, _ => .done fun _ _ _ => .error (.raised .runtime "no")

/-- A bus with room for one event, where both are subscribed to events in general. -/
def Hub.narrow : Hub (Ledger (Nat × List Nat)) :=
  let h := Hub.atMidnight ⟨(0, []), []⟩
  let first := (Subscriptions.none.add (.topic Topic.event) (.client 0)).2
  { h with bus := { h.bus with
    capacity := 1, subscriptions := (first.add (.topic Topic.event) (.client 1)).2 } }

/-- A reading of a sensor. -/
def reading (id : String) : Event := ⟨id, "reading", "sensor", "2024-01-01T00:00:00", [], []⟩

/-- The first event is accepted and the second rejected. The third is accepted when the dispatcher has taken
the first, which then comes to rest. -/
theorem QueueRun.dispatched_accepted_narrow : ∃ s,
    QueueRun Audience.pair.application.host (.start Hub.narrow) s ∧
    s.attempts = [(reading "a", true), (reading "b", false), (reading "c", true)] ∧
    s.dispatched = [reading "a", reading "c"] ∧
    s.hub.host.entries.map Entry.told =
      (Hub.narrow.published Audience.pair.application.host s.dispatched).host.entries.map Entry.told := by
  have hunstarted : Hub.narrow.Unstarted := ⟨rfl, by decide⟩
  have hblind (s : Subscriber) (n : Notice) (hs : s.Foreign) :
      Blind Ledger.deliveries (Audience.pair.application.host.receive s n) :=
    Audience.pair.blind_receive receptionDepth hs n
  obtain ⟨s₁, hbegin, hattempts₁⟩ : ∃ s,
      QueueRun Audience.pair.application.host (.start Hub.narrow) s ∧
      s.attempts = [(reading "a", true), (reading "b", false), (reading "c", true)] :=
    ⟨_, .head (.offer_checked (reading "a") rfl) <| .head (.accept rfl rfl) <|
      .head (.offer_checked (reading "b") rfl) <| .head (.reject rfl rfl) <|
      .head (.take rfl rfl) <| .head (.offer_checked (reading "c") rfl) <|
      .single (.accept rfl rfl), rfl⟩
  obtain ⟨s, hend, hrest, hattempts⟩ := QueueRun.comes_to_rest hblind hunstarted
    (QueueRun.keeps_faithful hblind hunstarted (.start hunstarted) hbegin)
  rw [hattempts₁] at hattempts
  obtain ⟨-, -, -, hidle⟩ :=
    QueueRun.dispatched_accepted Audience.pair hunstarted (hbegin.trans hend)
  obtain ⟨hall, -, -, -, htold⟩ := hidle hrest
  refine ⟨s, hbegin.trans hend, hattempts, ?_, hall ▸ htold⟩
  rw [hall, QueueState.accepted, hattempts]
  rfl

end EventHub
