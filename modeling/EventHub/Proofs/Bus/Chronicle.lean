import EventHub.Proofs.Bus.Blind
import EventHub.Proofs.Discovery.Dispatch
import EventHub.Proofs.Bus.Clearing
import Mathlib.Algebra.GroupWithZero.Nat

/-!
# The history against what was published

The history forgets: it has room for so many events, and old ones are cleared. The counts do not. Whoever
deals with the bus keeps a journal of what was published, and the history and the counts stay in step with
the journal.

* **Counts** (`Tallies`): counts of names, against the names in the order in which they came.
* **The history** (`History.Keeps`): what a history still tells of the events that it recorded, and what
  every record and every clearing leave of that.
* **Dealings** (`Dealing`): programs that publish, clear, subscribe and raise, at the bus itself and whenever
  they are called by it. They note in the journal what they publish.
* **Steps** (`Hub.Chronicled`, `Hub.InStep`): the history is in step with the journal but for the events that
  wait. The dispatch of an event and the queue keep that.
* `Dealing.history_keeps`: so do whole runs, by induction on the levels of reception and on the program.
-/

namespace EventHub

open EventHub.Task

variable {σ : Type}

/-! ## Counts -/

/-- The counts say how often each name occurs. A name that does not occur is not counted. -/
structure Tallies (names : List String) (counts : List (String × Nat)) : Prop where
  nodup : (Assoc.keys counts).Nodup
  count : ∀ name, Assoc.get? counts name = if name ∈ names then some (names.count name) else none
  sum : (counts.map (·.2)).sum = names.length

/-- Setting a key takes its old count out of the sum and puts the new one in. -/
theorem sum_put (counts : List (String × Nat)) (key : String) (n : Nat) :
    ((Assoc.put counts key n).map (·.2)).sum + (Assoc.get? counts key).getD 0 =
      (counts.map (·.2)).sum + n := by
  induction counts with
  | nil => simp [Assoc.put]
  | cons entry rest ih =>
    obtain ⟨k, m⟩ := entry
    by_cases hk : k = key
    · simp only [Assoc.put, Assoc.get?, hk, beq_self_eq_true, if_true, List.map_cons, List.sum_cons,
        Option.getD_some]
      omega
    · simp only [Assoc.put, Assoc.get?, beq_iff_eq, hk, if_false, List.map_cons, List.sum_cons]
      omega

namespace Tallies

variable {names : List String} {counts : List (String × Nat)}

theorem nil : Tallies [] [] := ⟨List.nodup_nil, fun _ => by simp, rfl⟩

theorem getD (ht : Tallies names counts) (name : String) :
    (Assoc.get? counts name).getD 0 = names.count name := by
  rw [ht.count]
  split
  · rfl
  · rename_i hnew
    rw [List.count_eq_zero_of_not_mem hnew]
    rfl

/-- One more name is counted. -/
theorem countUp (ht : Tallies names counts) (name : String) :
    Tallies (names ++ [name]) (EventHub.countUp counts name) where
  nodup := Assoc.nodup_put ht.nodup _ _
  count other := by
    rw [EventHub.countUp, Assoc.get?_put, ht.getD]
    by_cases heq : name = other
    · simp [heq]
    · simp [heq, Ne.symm heq, ht.count]
  sum := by
    have hput := sum_put counts name ((Assoc.get? counts name).getD 0 + 1)
    rw [ht.sum] at hput
    rw [EventHub.countUp, List.length_append, List.length_singleton]
    omega

end Tallies

/-! ## The history -/

theorem lastItems_sublist {α : Type} (n : Nat) (items : List α) : (lastItems n items).Sublist items :=
  List.drop_sublist _ _

/-- The last items with one more are the last items of what they were taken from with one more. -/
theorem lastItems_concat {α : Type} (n : Nat) (items : List α) (last : α) :
    lastItems n (lastItems n items ++ [last]) = lastItems n (items ++ [last]) := by
  have hleft : lastItems n items ++ [last] = (items ++ [last]).drop (items.length - n) :=
    (List.drop_append_of_le_length (Nat.sub_le _ _)).symm
  rw [hleft, lastItems, lastItems, List.drop_drop, List.length_drop, List.length_append,
    List.length_singleton]
  congr 1
  omega

/-- What a history with room for `n` events tells of the events that it recorded, when so many of them were
cleared. -/
structure History.Keeps (n : Nat) (recorded : List Event) (removed : Nat) (h : History) : Prop where
  capacity : h.capacity = some n
  sublist : h.events.Sublist recorded
  length_le : h.events.length ≤ n
  latest : removed = 0 → h.events = lastItems n recorded
  total : h.total = recorded.length
  byType : Tallies (recorded.map (·.type)) h.byType
  bySource : Tallies (recorded.map (·.source)) h.bySource
  lastTime : h.lastTime = recorded.getLast?.map (·.timestamp)

namespace History.Keeps

variable {n removed : Nat} {recorded : List Event} {h : History}

theorem empty (n : Nat) : (History.empty (some n)).Keeps n [] 0 :=
  ⟨rfl, List.Sublist.slnil, Nat.zero_le n, fun _ => List.drop_nil.symm, rfl, .nil, .nil, rfl⟩

theorem record (hk : h.Keeps n recorded removed) (e : Event) :
    (h.record e).Keeps n (recorded ++ [e]) removed where
  capacity := hk.capacity
  sublist := by
    simp only [History.record, fit, hk.capacity]
    exact (lastItems_sublist n _).trans (hk.sublist.append_right [e])
  length_le := length_record_le hk.capacity e
  latest hnone := by
    simp only [History.record, fit, hk.capacity]
    rw [hk.latest hnone, lastItems_concat]
  total := by rw [List.length_append, ← hk.total]; rfl
  byType := by
    rw [List.map_append]
    exact hk.byType.countUp e.type
  bySource := by
    rw [List.map_append]
    exact hk.bySource.countUp e.source
  lastTime := by rw [List.getLast?_concat]; rfl

/-- Clearing that takes nothing out leaves the events. -/
theorem clear (hk : h.Keeps n recorded removed) (cutoff : Int) :
    (h.clear cutoff).2.Keeps n recorded (removed + (h.clear cutoff).1) where
  capacity := hk.capacity
  sublist := List.filter_sublist.trans hk.sublist
  length_le := Nat.le_trans (List.length_filter_le _ _) hk.length_le
  latest hnone := by
    have hall : (h.events.filter (recent cutoff)).length = h.events.length := by
      have hle := List.length_filter_le (recent cutoff) h.events
      simp only [History.clear] at hnone
      omega
    rw [← hk.latest (by omega)]
    exact List.filter_eq_self.2 (List.length_filter_eq_length_iff.1 hall)
  total := hk.total
  byType := hk.byType
  bySource := hk.bySource
  lastTime := hk.lastTime

end History.Keeps

/-! ## Dealings -/

/-- The bus as it was seen, with what the journal said of it: the events that were published, and how many
were cleared. -/
structure Look where
  bus : Bus
  published : List Event
  removed : Nat

/-- What is kept of dealings with the bus: a state, the events that were published, how many events were
cleared, and every look at the bus. -/
structure Journal (σ : Type) where
  state : σ
  published : List Event
  removed : Nat
  looks : List Look

/-- The bus as it is, with what the journal says of it. -/
def Hub.look (h : Hub (Journal σ)) : Look := ⟨h.bus, h.host.published, h.host.removed⟩

/-- What someone does with a bus: nothing more, raise, look at the bus and change a state, publish an event,
clear old events, publish a notice, make or end a subscription, or let the dispatcher work. -/
inductive Dealing (σ : Type)
  | done
  | fail (fault : Fault)
  | turn (change : Bus → σ → σ) (next : Bus → σ → Dealing σ)
  | publish (raw : Definition Event) (next : Except Fault Event → Dealing σ)
  | clear (maxAge : Value) (next : Except Fault Nat → Dealing σ)
  | tell (topic : String) (n : Notice) (next : Nat → Dealing σ)
  | subscribe (channel : Channel) (client : Nat) (next : Nat → Dealing σ)
  | unsubscribe (id : Nat) (next : Bool → Dealing σ)
  | dispatch (n : Nat) (next : Dealing σ)

/-- Notes an event that is published. -/
def notePublished (e : Event) : Task (Journal σ) Unit :=
  modify fun h => { h with host := { h.host with published := h.host.published ++ [e] } }

/-- An event is put into the queue where the dispatcher runs, and else dispatched at once. -/
theorem outcome_publishEvent_checked {α : Type} (host : Host α) (e : Event) (h : Hub α) :
    outcome (publishEvent host (.checked e)) h =
      outcome ((if h.bus.running then enqueueEvent host e else dispatchEvent host e) >>= fun _ => pure e)
        h := by
  have hnormal : outcome (normalizeEvent (.checked e)) h = (.ok e, h) := rfl
  rw [publishEvent, outcome_bind_ok hnormal, outcome_bind_ok (outcome_get h)]
  split <;> rfl

/-- Publishes an event and notes it: when the bus has accepted it, or, where the dispatcher runs, when it is
in the queue. -/
def publishNoted (host : Host (Journal σ)) (raw : Definition Event) : Task (Journal σ) Event := do
  let e ← normalizeEvent raw
  if (← get).bus.running then
    let e ← publishEvent host (.checked e)
    notePublished e
    return e
  else
    notePublished e
    publishEvent host (.checked e)

/-- Clears old events and notes how many. -/
def clearNoted (maxAge : Value) : Task (Journal σ) Nat := do
  let removed ← clearOldEvents maxAge
  modify fun h => { h with host := { h.host with removed := h.host.removed + removed } }
  return removed

/-- Does what the program says. -/
def Dealing.run (host : Host (Journal σ)) : Dealing σ → Task (Journal σ) Unit
  | done => return ()
  | fail fault => throw fault
  | turn change next => do
    let h ← get
    modify fun h => { h with host := { h.host with
      state := change h.bus h.host.state, looks := h.host.looks ++ [h.look] } }
    (next h.bus h.host.state).run host
  | publish raw next => do
    let r ← Task.attempt (publishNoted host raw)
    (next r).run host
  | clear maxAge next => do
    let r ← Task.attempt (clearNoted maxAge)
    (next r).run host
  | tell topic n next => do
    let taken ← EventHub.publish host topic n
    (next taken).run host
  | subscribe channel client next => do
    let id ← channel.enlist client
    (next id).run host
  | unsubscribe id next => do
    let found ← EventHub.unsubscribe id
    (next found).run host
  | dispatch n next => do
    drain host n
    next.run host

/-- The application, and what its subscribers do with the bus when they are called. -/
structure Parties (σ : Type) where
  app : Application (Journal σ)
  deals : Subscriber → Notice → Dealing σ

/-- Reception by the parties: so many levels of calls may lead to calls. -/
def Parties.receive (p : Parties σ) : Nat → Receive (Journal σ)
  | 0 => fun _ _ => throw .tooDeep
  | levels + 1 => fun s n => (p.deals s n).run ⟨p.app, p.receive levels⟩

/-! ## Steps -/

/-- The history is right about what was published, but for the events that wait. Where the dispatcher does
not run none wait. -/
structure Look.Right (n : Nat) (running : Bool) (l : Look) : Prop where
  mode : l.bus.running = running
  inline : running = false → l.bus.pending = []
  kept : ∃ recorded, l.published = recorded ++ l.bus.pending ∧
    l.bus.history.Keeps n recorded l.removed

/-- The history is in step with the journal but for the events that are given, and was right at every
look. -/
structure Hub.Chronicled (n : Nat) (running : Bool) (waiting : List Event) (h : Hub (Journal σ)) :
    Prop where
  mode : h.bus.running = running
  kept : ∃ recorded, h.host.published = recorded ++ waiting ∧
    h.bus.history.Keeps n recorded h.host.removed
  looks : ∀ l ∈ h.host.looks, l.Right n running

/-- The history is in step with the journal but for the events in the queue. -/
structure Hub.InStep (n : Nat) (running : Bool) (h : Hub (Journal σ)) : Prop extends
    h.Chronicled n running h.bus.pending where
  inline : running = false → h.bus.pending = []

/-- The history is in step but for an event that is to be recorded and the events in the queue. -/
structure Hub.Owes (n : Nat) (running : Bool) (e : Event) (h : Hub (Journal σ)) : Prop extends
    h.Chronicled n running (e :: h.bus.pending) where
  inline : running = false → h.bus.pending = []

section Steps

variable {n : Nat} {running : Bool} {waiting : List Event} {h h' : Hub (Journal σ)} {e : Event}

theorem Hub.Chronicled.of_eq (hc : h.Chronicled n running waiting)
    (hrunning : h'.bus.running = h.bus.running) (hhistory : h'.bus.history = h.bus.history)
    (hhost : h'.host = h.host) : h'.Chronicled n running waiting where
  mode := hrunning.trans hc.mode
  kept := by rw [hhost, hhistory]; exact hc.kept
  looks := by rw [hhost]; exact hc.looks

theorem Hub.InStep.of_eq (hk : h.InStep n running) (hrunning : h'.bus.running = h.bus.running)
    (hhistory : h'.bus.history = h.bus.history) (hpending : h'.bus.pending = h.bus.pending)
    (hhost : h'.host = h.host) : h'.InStep n running where
  toChronicled := by rw [hpending]; exact hk.toChronicled.of_eq hrunning hhistory hhost
  inline := by rw [hpending]; exact hk.inline

/-- At any time in step, a look is right. -/
theorem Hub.InStep.right (hk : h.InStep n running) : h.look.Right n running :=
  ⟨hk.mode, hk.inline, hk.kept⟩

/-- An event that is owed is recorded. -/
theorem Hub.Owes.record (ho : h.Owes n running e) : Hub.InStep n running
    { h with bus := { h.bus with history := h.bus.history.record e } } where
  mode := ho.mode
  inline := ho.inline
  kept := by
    obtain ⟨recorded, hpublished, hkeeps⟩ := ho.kept
    exact ⟨recorded ++ [e], by rw [hpublished, List.append_assoc]; rfl, hkeeps.record e⟩
  looks := ho.looks

/-- The first event of the queue is owed when it is taken. -/
theorem Hub.InStep.take (hk : h.InStep n running) {rest : List Event}
    (hpending : h.bus.pending = e :: rest) (hrunning : h.bus.running = true) :
    Hub.Owes n running e { h with bus := { h.bus with pending := rest } } where
  toChronicled := (hpending ▸ hk.toChronicled).of_eq rfl rfl rfl
  inline hinline := by rw [hk.mode, hinline] at hrunning; cases hrunning

/-- An event that is noted waits behind the others. -/
theorem Hub.Chronicled.note (hc : h.Chronicled n running waiting) (e : Event) :
    Hub.Chronicled n running (waiting ++ [e])
      { h with host := { h.host with published := h.host.published ++ [e] } } where
  mode := hc.mode
  kept := by
    obtain ⟨recorded, hpublished, hkeeps⟩ := hc.kept
    exact ⟨recorded, by rw [← List.append_assoc, ← hpublished], hkeeps⟩
  looks := hc.looks

/-- The frame in which the history stays in step. -/
def Frame.inStep (n : Nat) (running : Bool) : Frame (Journal σ) := .ofInvariant (Hub.InStep n running)

theorem Frame.inStep_open (n : Nat) (running : Bool) :
    (Frame.inStep (σ := σ) n running).OpenToActions where
  log _ _ hk := hk.of_eq rfl rfl rfl rfl
  effects _ _ hk := hk.of_eq rfl rfl rfl rfl
  serial _ _ hk := hk.of_eq rfl rfl rfl rfl
  cache _ _ hk := hk.of_eq rfl rfl rfl rfl
  deskCounters _ _ _ _ _ hk := hk.of_eq rfl rfl rfl rfl

/-- What the bus does with its subscriptions, its schema and its dispatcher. -/
theorem within_modifyBus_inStep {f : Bus → Bus}
    (hf : ∀ b : Bus, ∃ subscriptions schema busy, f b = { b with subscriptions, schema, busy }) :
    Within (.inStep n running) (modifyBus (α := Journal σ) f) := by
  refine Within.change fun h hk => ?_
  obtain ⟨subscriptions, schema, busy, hbus⟩ := hf h.bus
  rw [hbus]
  exact hk.of_eq rfl rfl rfl rfl

section Reception

variable {host : Host (Journal σ)} (hs : ∀ s n', Within (.inStep n running) (host.receive s n'))
include hs

/-- Everyone who is told of an event keeps the history in step, so the event has only to be recorded. -/
theorem Hub.Owes.dispatchEvent (ho : h.Owes n running e) :
    (outcome (EventHub.dispatchEvent host e) h).2.InStep n running := by
  have hopen := Frame.inStep_open (σ := σ) n running
  have htell := Host.TellsWithin.of_receive hopen hs
  have hobserve : Within (.inStep n running) (observeEvent (α := Journal σ) e) := by
    refine Within.bind (Within.inService _) fun _ => Within.bind Within.get fun h => ?_
    exact Within.bind (within_modifyBus_inStep fun b => ⟨_, _, _, rfl⟩) fun _ => Within.pure _
  rw [EventHub.dispatchEvent, modifyBus, outcome_bind_ok (outcome_modify _ h)]
  refine Within.bind hobserve (fun change => ?_) _ ho.record
  refine Within.bind (within_announceChange hopen (htell _).reports (htell _).reports e change) fun _ => ?_
  refine Within.bind (htell _ _) fun _ => Within.bind (htell _ _) fun _ => Within.bind (htell _ _) fun _ => ?_
  exact Within.bind Within.get fun h => within_deliverSelected hopen e fun o _ => hs o.2.2

/-- So does the dispatcher with an event that it has taken from the queue. -/
theorem Hub.Owes.dispatchQueued (ho : h.Owes n running e) :
    (outcome (EventHub.dispatchQueued host e) h).2.InStep n running := by
  let h₁ : Hub (Journal σ) := { h with bus := { h.bus with busy := true } }
  have hbusy : h₁.Owes n running e := ⟨ho.toChronicled.of_eq rfl rfl rfl, ho.inline⟩
  have hdone := hbusy.dispatchEvent hs
  have hfree : Within (.inStep n running)
      (modifyBus (α := Journal σ) fun b => { b with busy := false }) :=
    within_modifyBus_inStep fun b => ⟨_, _, _, rfl⟩
  rw [EventHub.dispatchQueued, modifyBus, outcome_bind_ok (outcome_modify _ h),
    outcome_bind_ok (outcome_attempt _ h₁)]
  cases (outcome (EventHub.dispatchEvent host e) h₁).1 with
  | ok _ => exact hfree _ hdone
  | error fault =>
    have hopen := (Frame.inStep_open (σ := σ) n running).openToTraces
    exact Within.bind (Within.logFault hopen _ _ _ _) (fun _ => hfree) _ hdone

/-- The dispatcher at work keeps the history in step, by induction on the events that it may dispatch. -/
theorem within_drain_inStep (k : Nat) : Within (.inStep n running) (drain host k) := by
  induction k with
  | zero => exact Within.pure _
  | succ k ih =>
    intro h hk
    rw [drain, outcome_bind_ok (outcome_get h)]
    by_cases hworks : (h.bus.running && !h.bus.busy) = true
    · dsimp only
      rw [if_pos hworks]
      cases hpending : h.bus.pending with
      | nil => exact hk
      | cons e rest =>
        have hrunning : h.bus.running = true := (Bool.and_eq_true_iff.1 hworks).1
        have htaken := (hk.take hpending hrunning).dispatchQueued hs
        dsimp only
        rw [modifyBus, outcome_bind_ok (outcome_modify _ h),
          outcome_bind_ok (outcome_dispatchQueued_ok host e _)]
        exact ih _ htaken
    · dsimp only
      rw [if_neg hworks]
      exact hk

/-- What becomes of an event that is put into the queue: it is refused, which leaves the history in step, or
it stands last behind the events that waited. -/
def Enqueued (n : Nat) (running : Bool) (e : Event) (run : Except Fault Unit × Hub (Journal σ)) : Prop :=
  (∃ fault h, run = (.error fault, h) ∧ h.InStep n running) ∨
    ∃ h : Hub (Journal σ), run = (.ok (), { h with bus := h.bus.enqueue e }) ∧ h.InStep n running

theorem enqueueEvent_enqueued (e : Event) (hk : h.InStep n running) :
    Enqueued n running e (outcome (enqueueEvent host e) h) := by
  have hlast {h : Hub (Journal σ)} (hk : h.InStep n running) : Enqueued n running e (outcome (do
      if (← get).bus.full then
        Task.log .error busPart s!"Event queue full; rejecting event {e.id} type={e.type}"
        throw (.busFull e.id)
      modifyBus (·.enqueue e)) h) := by
    rw [outcome_bind_ok (outcome_get h)]
    by_cases hfull : h.bus.full = true
    · rw [if_pos hfull]
      exact .inl ⟨_, _, rfl, (Frame.inStep_open n running).log h _ hk⟩
    · rw [if_neg hfull]
      exact .inr ⟨h, rfl, hk⟩
  unfold enqueueEvent
  rw [outcome_bind_ok (outcome_get h)]
  dsimp only
  by_cases hpatience : (decide (0 < h.bus.capacity) && decide (h.bus.patience < 0)) = true
  · rw [if_pos hpatience]
    exact .inl ⟨_, h, rfl, hk⟩
  · rw [if_neg hpatience]
    by_cases hfull : h.bus.full = true
    · rw [if_pos hfull, outcome_bind_ok (outcome_drain_ok host drainLimit h)]
      exact hlast (within_drain_inStep hs drainLimit h hk)
    · rw [if_neg hfull]
      exact hlast hk

/-- Publishing and noting the event keeps the history in step. -/
theorem within_publishNoted (raw : Definition Event) :
    Within (.inStep n running) (publishNoted host raw) := by
  refine Within.bind (within_normalizeEvent (Frame.inStep_open n running) raw) fun e h hk => ?_
  rw [outcome_bind_ok (outcome_get h)]
  by_cases hrunning : h.bus.running = true
  · rw [if_pos hrunning, outcome_bind, outcome_publishEvent_checked, if_pos hrunning, outcome_bind]
    obtain ⟨fault, h', hrun, hkept⟩ | ⟨h', hrun, hkept⟩ := enqueueEvent_enqueued hs e hk
    · rw [hrun]
      exact hkept
    · -- The event stands last in the queue, where the journal now has it too.
      rw [hrun]
      exact ⟨(hkept.toChronicled.note e).of_eq rfl rfl rfl,
        fun hinline => by rw [hk.mode, hinline] at hrunning; cases hrunning⟩
  · -- Nothing waits, so the event is owed as soon as it is noted.
    have hnone : h.bus.pending = [] := hk.inline (by rw [← hk.mode]; exact Bool.eq_false_iff.2 hrunning)
    let h₁ : Hub (Journal σ) :=
      { h with host := { h.host with published := h.host.published ++ [e] } }
    have hnoted := hk.toChronicled.note e
    rw [hnone, List.nil_append] at hnoted
    have hwaiting : e :: h₁.bus.pending = [e] := congrArg (e :: ·) hnone
    have howes : h₁.Owes n running e := ⟨hwaiting ▸ hnoted, fun _ => hnone⟩
    rw [if_neg hrunning, notePublished, outcome_bind_ok (outcome_modify _ h), outcome_publishEvent_checked,
      if_neg hrunning, hub_bind_pure]
    exact howes.dispatchEvent hs

omit hs in
/-- Clearing and noting how many events were cleared keeps the history in step. -/
theorem within_clearNoted (maxAge : Value) :
    Within (.inStep n running) (clearNoted (σ := σ) maxAge) := by
  intro h hk
  cases hcutoff : (do Time.instantBefore h.now (← Time.spanOf maxAge) : Except Fault Int) with
  | error fault =>
    have hrun : outcome (clearOldEvents maxAge) h = (.error fault, h) := by
      rw [clearOldEvents, outcome_bind_ok (outcome_get h), hcutoff]
      rfl
    rw [clearNoted, outcome_bind_error hrun]
    exact hk
  | ok cutoff =>
    obtain ⟨lines, hrun⟩ := outcome_clearOldEvents hcutoff
    obtain ⟨recorded, hpublished, hkeeps⟩ := hk.kept
    rw [clearNoted, outcome_bind_ok hrun, outcome_bind_ok (outcome_modify _ _)]
    exact ⟨⟨hk.mode, ⟨recorded, hpublished, hkeeps.clear cutoff⟩, hk.looks⟩, hk.inline⟩

/-- What a program does keeps the history in step. By induction on the program. -/
theorem within_dealing (program : Dealing σ) : Within (.inStep n running) (program.run host) := by
  have hopen := Frame.inStep_open (σ := σ) n running
  induction program with
  | done => exact Within.pure _
  | fail fault => exact Within.throw fault
  | turn change next ih =>
    refine Within.bind Within.get fun seen => Within.bind ?_ fun _ => ih _ _
    refine Within.change fun h hk => ⟨⟨hk.mode, hk.kept, fun l hl => ?_⟩, hk.inline⟩
    obtain hl | hl := List.mem_append.1 hl
    · exact hk.looks l hl
    · rw [List.mem_singleton.1 hl]
      exact hk.right
  | publish raw next ih =>
    exact Within.bind (Within.attempt (within_publishNoted hs raw)) fun r => ih r
  | clear maxAge next ih => exact Within.bind (Within.attempt (within_clearNoted maxAge)) fun r => ih r
  | tell topic notice next ih =>
    refine Within.bind (Within.bind Within.get fun h => ?_) fun taken => ih taken
    exact within_deliver hopen fun s _ => hs s notice
  | subscribe channel client next ih =>
    refine Within.bind ?_ fun id => ih id
    cases channel <;>
      exact Within.bind Within.get fun h =>
        Within.bind (within_modifyBus_inStep fun b => ⟨_, _, _, rfl⟩) fun _ => Within.pure _
  | unsubscribe id next ih =>
    refine Within.bind (Within.bind Within.get fun h => ?_) fun found => ih found
    exact Within.bind (within_modifyBus_inStep fun b => ⟨_, _, _, rfl⟩) fun _ => Within.pure _
  | dispatch k next ih => exact Within.bind (within_drain_inStep hs k) fun _ => ih

end Reception

/-- However many levels are left, whoever is called keeps the history in step. By induction on the levels. -/
theorem Parties.within_receive (p : Parties σ) (levels : Nat) (s : Subscriber) (notice : Notice) :
    Within (.inStep n running) (p.receive levels s notice) := by
  induction levels generalizing s notice with
  | zero => exact Within.throw _
  | succ levels ih => exact within_dealing ih (p.deals s notice)

end Steps

/-! ## Runs -/

/-- Whatever is done with a bus that has room for `n` events in its history, whoever is called and does more
with it: at any look, and at the end, the history is right about the events that were published. Those that
it recorded are the published ones that do not wait in the queue, in the order in which they were published,
and where the dispatcher does not run none wait. -/
theorem Dealing.history_keeps (p : Parties σ) (levels n : Nat) (program : Dealing σ)
    {h : Hub (Journal σ)} (state : σ) (hnew : h.host = ⟨state, [], 0, []⟩)
    (hempty : h.bus.history = .empty (some n)) (hidle : h.bus.pending = []) :
    let h' := (outcome (program.run ⟨p.app, p.receive levels⟩) h).2
    ∀ l ∈ h'.host.looks ++ [h'.look], l.Right n h.bus.running := by
  have hstart : h.InStep n h.bus.running := by
    refine ⟨⟨rfl, ⟨[], ?_, ?_⟩, ?_⟩, fun _ => hidle⟩
    · rw [hnew, hidle]
      rfl
    · rw [hnew, hempty]
      exact .empty n
    · rw [hnew]
      simp
  have hwithin : Within (.inStep n h.bus.running) (program.run ⟨p.app, p.receive levels⟩) :=
    within_dealing (p.within_receive levels) program
  have hend := hwithin h hstart
  intro h' l hl
  obtain hl | hl := List.mem_append.1 hl
  · exact hend.looks l hl
  · rw [List.mem_singleton.1 hl]
    exact hend.right

/-- Motion in the last hour of the year. -/
def lateMotion : Event := ⟨"motion", "motion", "cam", "2023-12-31T23:00:00", [], []⟩

/-- An alarm on the day after. -/
def nextAlarm : Event := ⟨"alarm", "alarm", "siren", "2024-01-02T00:00:00Z", [], []⟩

/-- Whoever is told of motion sounds the alarm. -/
def sounding : Parties Unit where
  app := .silent
  deals
    | _, .event e => if e.type == "motion" then .publish (.checked nextAlarm) fun _ => .done else .done
    | _, _ => .done

/-- A bus with room for two events in its history, and someone who listens for motion. -/
def Hub.guarding : Hub (Journal Unit) :=
  { Hub.atMidnight ⟨(), [], 0, []⟩ with
    bus := { Bus.unbounded with
      history := .empty (some 2)
      subscriptions := ⟨[⟨1, .topic (Topic.ofType "motion"), .client 1⟩], 2⟩ } }

/-- Motion, a look at the bus, and the clearing of what is past. -/
def nightWatch : Dealing Unit :=
  .publish (.checked lateMotion) fun _ => .turn (fun _ s => s) fun _ _ => .clear (.int 0) fun _ => .done

/-- The alarm is published while the motion is told of, and stays when the motion is cleared. -/
theorem Dealing.history_keeps_alarm :
    (Hub.guarding.host = ⟨(), [], 0, []⟩ ∧ Hub.guarding.bus.history = .empty (some 2) ∧
      Hub.guarding.bus.pending = []) ∧
    let h' := (outcome (nightWatch.run ⟨sounding.app, sounding.receive 2⟩) Hub.guarding).2
    (∀ l ∈ h'.host.looks ++ [h'.look], l.Right 2 false) ∧
      (h'.host.published.map (·.id), h'.host.removed) = (["motion", "alarm"], 1) ∧
      h'.host.looks.map (fun l => l.bus.history.events.map (·.id)) = [["motion", "alarm"]] ∧
      h'.bus.history.events.map (·.id) = ["alarm"] :=
  ⟨⟨rfl, rfl, rfl⟩, Dealing.history_keeps sounding 2 2 nightWatch () rfl rfl rfl, by decide +kernel,
    by decide +kernel, by decide +kernel⟩

end EventHub
