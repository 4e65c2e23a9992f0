import EventHub.Proofs.Discovery.Republish
import EventHub.Proofs.Discovery.Run
import EventHub.Proofs.Flows.Tally

/-!
# Every event is published again

Over a run, the hub publishes every event again through the rule of its type, in the order in which
the events were published.

* **Dispatch** (`Hub.Relays`): what the dispatch of an event is made of. The hub handles it once,
  between subscribers that are others, and the rule of its type publishes it again (`Hub.Handles`).
* **The queue** (`Hub.Advances`): publishing and the dispatcher at work take events in order, and each
  that is taken is published again (`Hub.Prepared.publish`, `Hub.Prepared.drain`).
* **Runs** (`RelayRun.relays`): so the events that were sent are those that were published again, in
  order, and those that wait, of which there are none unless the dispatcher runs.
-/

namespace EventHub

open EventHub.Task

variable {α : Type} {app : Application α} {h h' : Hub α} {seen : List Event}

/-! ## Dispatch -/

/-- The hub handles an event once: between subscribers that are others, its listener runs the rules
that match the event, and among them the rule of the type, which publishes the event again. -/
def Hub.Handles (app : Application α) (depth : Nat) (e : Event) (h : Hub α) : Prop :=
  ∃ (before after : List Subscriber) (count : Nat) (g g' : Hub α),
    h.bus.subscriptions.ofTopic Topic.event = before ++ .handleEvent :: after ∧
    (∀ s ∈ before ++ after, s.Foreign) ∧
    outcome (deliver ⟨app, receive app (depth + 1)⟩ Topic.event (.event e) before) h =
      (.ok count, g) ∧
    (g.withFlows g.flows.begin).Fires ⟨app, receive app depth⟩
      (some ((Context.bare g.now.text).withServices (g.withFlows g.flows.begin))) e g' ∧
    outcome (receive app (depth + 1) .handleEvent (.event e)) g =
      (.ok (), g'.withFlows (g'.flows.finish ⟨none, g.now.text, 0⟩))

/-- The dispatch of an event: what is new in it is announced, the hub handles it when it is told of as
an event, and all others that are told of it after that are none of the hub. -/
structure Hub.Dispatch (app : Application α) (depth : Nat) (e : Event) (h h₁ h₂ h₃ h₄ h₅ : Hub α) :
    Prop where
  announced : outcome (announceChange ⟨app, receive app (depth + 1)⟩ e
    (h.bus.schema.observe e.type e.data).1) (h.observed e) = (.ok (), h₁)
  handled : h₁.Handles app depth e
  told : outcome (announce ⟨app, receive app (depth + 1)⟩ Topic.event (.event e)) h₁ = (.ok (), h₂)
  ofType : ∀ s ∈ h₂.bus.subscriptions.ofTopic (Topic.ofType e.type), s.Foreign
  toldType : outcome (announce ⟨app, receive app (depth + 1)⟩ (Topic.ofType e.type) (.event e)) h₂ =
    (.ok (), h₃)
  ofSource : ∀ s ∈ h₃.bus.subscriptions.ofTopic (Topic.ofSource e.source e.type), s.Foreign
  toldSource : outcome (announce ⟨app, receive app (depth + 1)⟩ (Topic.ofSource e.source e.type)
    (.event e)) h₃ = (.ok (), h₄)
  selected : ∀ o ∈ h₄.bus.subscriptions.ofEvents, o.2.2.Foreign
  dispatched : outcome (dispatchEvent ⟨app, receive app (depth + 1)⟩ e) h = (.ok (), h₅)
  offered : outcome (deliverSelected ⟨app, receive app (depth + 1)⟩ e h₄.bus.subscriptions.ofEvents)
    h₄ = (.ok (), h₅)

/-- The hub dispatches an event and publishes it again. -/
def Hub.Relays (app : Application α) (depth : Nat) (e : Event) (h h' : Hub α) : Prop :=
  ∃ h₁ h₂ h₃ h₄, Hub.Dispatch app depth e h h₁ h₂ h₃ h₄ h'

section Dispatch

variable (happ : app.StaysForeign .sparing) (hkeeps : app.StaysWithin .equipped) (depth : Nat)
include hkeeps

theorem within_receive_equipped (s : Subscriber) (n : Notice) :
    Within .equipped (receive app depth s n) :=
  within_receive Frame.equipped_openToHub hkeeps depth s n

theorem tells_equipped (topic : String) :
    Host.TellsWithin ⟨app, receive app depth⟩ .equipped topic :=
  tells Frame.equipped_openToHub.openToEvents (within_receive_equipped hkeeps depth) topic

/-- The listener of the hub runs the rules of an event that it hears of. -/
theorem Hub.Tracks.fires {g : Hub α} (hg : g.Equipped) (hb : g.engine.book.Keyed) {e first : Event}
    {names : List String} (ht : g.engine.book.TracksAt e.type (some first) (some names))
    (htype : Tokenless e.type.toList) : ∃ g',
      (g.withFlows g.flows.begin).Fires ⟨app, receive app depth⟩
        (some ((Context.bare g.now.text).withServices (g.withFlows g.flows.begin))) e g' ∧
      outcome (receive app (depth + 1) .handleEvent (.event e)) g =
        (.ok (), g'.withFlows (g'.flows.finish ⟨none, g.now.text, 0⟩)) := by
  let host : Host α := ⟨app, receive app depth⟩
  have hacts : host.ActsWithin .equipped :=
    hkeeps.act host.receive (within_receive_equipped hkeeps depth)
  have hbegun : (g.withFlows g.flows.begin).Equipped := hg.congr rfl rfl rfl rfl
  cases ht with
  | seen distinct rule form indexed =>
    obtain ⟨g', hfires⟩ := hbegun.fires hb form rule ((indexed _).2 rfl) htype hacts
      (tells_equipped hkeeps depth)
      (some ((Context.bare g.now.text).withServices (g.withFlows g.flows.begin)))
    refine ⟨g', hfires, ?_⟩
    obtain ⟨before, r, after, h₀, runs, h₁, run, h₂, more, -, -, -, -, -, hrun⟩ := hfires
    have hproc : RuleRuns.processed (runs ++ run :: more) = true := by
      rw [RuleRuns.processed_iff, List.length_append, List.length_cons]
      omega
    refine outcome_handleEvent_ok ?_
    unfold handleNotice
    rw [outcome_bind_ok (outcome_get _)]
    refine (outcome_bind_ok hrun).trans ?_
    rw [hproc]
    rfl

include happ

/-- A hub whose book has the rule of the type handles the event. -/
theorem Hub.Attends.handles (hh : h.Attends) (hk : h.Equipped) {e first : Event} {names : List String}
    (ht : h.engine.book.TracksAt e.type (some first) (some names)) (htype : Tokenless e.type.toList) :
    h.Handles app depth e := by
  let host : Host α := ⟨app, receive app (depth + 1)⟩
  obtain ⟨before, after, hsplit, hbefore, hafter⟩ :=
    hh.split (show (Topic.event, .handleEvent) ∈ hubListeners by decide)
  obtain ⟨count, g, htold⟩ := outcome_deliver_ok host Topic.event (.event e) before h
  -- Those that are told before the hub leave it its rules and what the rules need.
  have hspares : Frame.sparing.allows h g :=
    (within_deliver Frame.sparing_free.openToActions.openToTraces
      (fun s hs => happ.receive (depth + 1) (hbefore s hs) _)).of_outcome htold
  have hg : g.Equipped := (within_deliver Frame.equipped_free.openToActions.openToTraces
    (fun s _ => within_receive_equipped hkeeps (depth + 1) s _)).of_outcome htold hk
  have hsame := ((hspares hh.steady).2.2 hh.keyed).2 _ ⟨e.type, rfl⟩
  obtain ⟨g', hfires, hhandled⟩ := Hub.Tracks.fires hkeeps depth hg (hh.of_sparing hspares).keyed
    (ht.congr hsame) htype
  refine ⟨before, after, count, g, g', hsplit, fun s hs => ?_, htold, hfires, hhandled⟩
  exact (List.mem_append.1 hs).elim (hbefore s) (hafter s)

omit happ hkeeps in
/-- The hub listens to none of the further topics of an event. -/
theorem not_listened_further {e : Event} {topic : String}
    (ht : topic = Topic.ofType e.type ∨ topic = Topic.ofSource e.source e.type) :
    topic ∉ listenedTopics := by
  rcases ht with rfl | rfl <;>
    simp [listenedTopics, hubListeners, Topic.event, Topic.ofType, Topic.ofSource,
      Topic.typeDiscovered, Topic.fieldsDiscovered, ← String.toList_inj, String.toList_append]

/-- A hub that is prepared to publish events again: it tracks the schema and has what the rules need,
and no event that waits has tokens in its type. Events wait for the dispatcher only while it runs. -/
structure Hub.Prepared (seen : List Event) (h : Hub α) : Prop extends h.Tracks seen, h.Equipped where
  tokenless : ∀ e ∈ h.bus.pending, Tokenless e.type.toList
  idle : h.bus.running = false → h.bus.pending = []

/-- A hub that is prepared dispatches an event, publishes it again, and stays prepared. -/
theorem Hub.Prepared.dispatch (hh : h.Prepared seen) {e : Event} (he : (Assoc.keys e.data).Nodup)
    (htype : Tokenless e.type.toList) : ∃ h', h.Relays app depth e h' ∧
      h'.Tracks (seen ++ [e]) ∧ h'.Equipped ∧ h'.bus.queue = h.bus.queue := by
  let host : Host α := ⟨app, receive app (depth + 1)⟩
  have hs : ∀ s n, Within .equipped (host.receive s n) := within_receive_equipped hkeeps (depth + 1)
  obtain ⟨h₅, hdispatch, htracks₅, hqueue⟩ := hh.toTracks.dispatch happ depth he
  have hk₅ : h₅.Equipped :=
    (within_dispatchEvent Frame.equipped_openToHub.openToEvents hs e).of_outcome hdispatch
      hh.toEquipped
  -- Once what is new was announced, the book has the rule of the type, also of one never seen before.
  have hattends : (h.observed e).Attends :=
    ⟨⟨hh.steady.inOrder, hh.steady.outlet, hh.steady.apt⟩, hh.keyed, hh.listening⟩
  have hobserved : h.bus.schema.observe e.type e.data =
    ((h.bus.schema.observe e.type e.data).1, (h.observed e).bus.schema) := rfl
  obtain ⟨h₁, hchange, hh₁, -, htypes, -⟩ :=
    hattends.announceChange hh.types happ depth hh.agrees hobserved he
  have hannounces : Within .equipped (announceChange host e (h.bus.schema.observe e.type e.data).1) :=
    within_announceChange Frame.equipped_free.openToActions
      (tells_equipped hkeeps (depth + 1) _).reports (tells_equipped hkeeps (depth + 1) _).reports e _
  have hk₁ : h₁.Equipped := hannounces.of_outcome hchange (hh.toEquipped.congr rfl rfl rfl rfl)
  have htype₁ := htypes e.type
  have hhandles : h₁.Handles app depth e := by
    have hseen : (firstOf (seen ++ [e]) e.type).isSome = true :=
      isSome_firstOf_append.2 (Or.inl rfl)
    obtain ⟨first, hfirst⟩ := Option.isSome_iff_exists.1 hseen
    rw [hfirst] at htype₁
    generalize Assoc.get? (h.observed e).bus.schema.order e.type = names at htype₁
    cases names with
    | none => cases htype₁
    | some names => exact hh₁.handles happ hkeeps depth hk₁ htype₁ htype
  -- Telling of the event spares the listeners of the hub, so they hear of it once.
  have tells (topic : String) (ht : topic ∈ eventTopics e) {h : Hub α} (hh : h.Attends) :
      ∃ h', outcome (announce host topic (.event e)) h = (.ok (), h') ∧ h'.Attends :=
    ⟨_, outcome_announce_ok topic _ h, hh.of_sparing (tells_event happ depth ht _ h)⟩
  obtain ⟨h₂, htold, hh₂⟩ := tells Topic.event (by simp [eventTopics]) hh₁
  obtain ⟨h₃, htoldType, hh₃⟩ := tells (Topic.ofType e.type) (by simp [eventTopics]) hh₂
  obtain ⟨h₄, htoldSource, hh₄⟩ :=
    tells (Topic.ofSource e.source e.type) (by simp [eventTopics]) hh₃
  have hoffers : outcome (deliverSelected host e h₄.bus.subscriptions.ofEvents) h₄ = (.ok (), h₅) := by
    have htell : outcome (tellEvent host e) h₁ =
        outcome (deliverSelected host e h₄.bus.subscriptions.ofEvents) h₄ := by
      unfold tellEvent
      rw [outcome_bind_ok htold, outcome_bind_ok htoldType, outcome_bind_ok htoldSource]
      exact outcome_bind_ok (outcome_get h₄)
    rw [← htell, ← outcome_dispatchEvent hh.steady.inOrder hchange]
    exact hdispatch
  exact ⟨h₅, ⟨h₁, h₂, h₃, h₄, hchange, hhandles, htold,
    fun s hs => hh₂.steady.foreign (not_listened_further (Or.inl rfl)) hs, htoldType,
    fun s hs => hh₃.steady.foreign (not_listened_further (Or.inr rfl)) hs, htoldSource,
    fun o ho => hh₄.steady.foreign_of_mem_ofEvents ho, hdispatch, hoffers⟩, htracks₅, hk₅, hqueue⟩

end Dispatch

/-! ## The queue -/

/-- The events that the dispatcher takes when it is let work on at most `n`, each with the hub that
dispatches it. -/
def drained (host : Host α) : Nat → Hub α → List (Event × Hub α)
  | 0, _ => []
  | n + 1, h =>
    if h.bus.running && !h.bus.busy then
      match h.bus.pending with
      | [] => []
      | e :: rest =>
        let taken : Hub α := { h with bus := { h.bus with pending := rest } }
        (e, { taken with bus := { taken.bus with busy := true } }) ::
          drained host n (outcome (dispatchQueued host e) taken).2
    else []

/-- The events that are dispatched to make room for another one. -/
def drainedFor (host : Host α) (h : Hub α) : List (Event × Hub α) :=
  if 0 < h.bus.capacity && h.bus.patience < 0 then []
  else if h.bus.full then drained host drainLimit h
  else []

/-- The hub has gone on: of the events that waited and those that were sent, some were dispatched in
order, each by the hub that it stands with, which published it again; the rest waits. -/
structure Hub.Advances (app : Application α) (depth : Nat) (seen : List Event) (h h' : Hub α)
    (sent : List Event) (dispatches : List (Event × Hub α)) : Prop where
  prepared : h'.Prepared (seen ++ dispatches.map (·.1))
  queue : h.bus.pending ++ sent = dispatches.map (·.1) ++ h'.bus.pending
  busy : h'.bus.busy = h.bus.busy
  relayed : ∀ d ∈ dispatches, ∃ g, d.2.Relays app depth d.1 g

section Advances

variable {depth : Nat} {h₁ : Hub α} {sent sent' : List Event} {ds ds' : List (Event × Hub α)}

/-- A hub that has come to other events stays prepared if the same events wait for the dispatcher. -/
theorem Hub.Prepared.congr {seen' : List Event} (hh : h.Prepared seen) (ht : h'.Tracks seen')
    (hk : h'.Equipped) (hp : h'.bus.pending = h.bus.pending)
    (hr : h'.bus.running = h.bus.running) : h'.Prepared seen' where
  toTracks := ht
  toEquipped := hk
  tokenless := hp ▸ hh.tokenless
  idle hstopped := hp.trans (hh.idle (hr ▸ hstopped))

/-- Nothing was sent, and nothing dispatched. -/
theorem Hub.Prepared.rests (hh : h'.Prepared seen) (hp : h'.bus.pending = h.bus.pending)
    (hb : h'.bus.busy = h.bus.busy) : Hub.Advances app depth seen h h' [] [] where
  prepared := by rwa [List.map_nil, List.append_nil]
  queue := by rw [List.append_nil, List.map_nil, List.nil_append, hp]
  busy := hb
  relayed _ hd := (List.not_mem_nil hd).elim

theorem Hub.Advances.trans (hfirst : Hub.Advances app depth seen h h₁ sent ds)
    (hlast : Hub.Advances app depth (seen ++ ds.map (·.1)) h₁ h' sent' ds') :
    Hub.Advances app depth seen h h' (sent ++ sent') (ds ++ ds') where
  prepared := by
    rw [List.map_append, ← List.append_assoc]
    exact hlast.prepared
  queue := by
    rw [← List.append_assoc, hfirst.queue, List.append_assoc, hlast.queue, List.map_append,
      List.append_assoc]
  busy := hlast.busy.trans hfirst.busy
  relayed d hd := (List.mem_append.1 hd).elim (hfirst.relayed d) (hlast.relayed d)

/-- What happened before is of no account when it left the queue. -/
theorem Hub.Advances.after (hlast : Hub.Advances app depth seen h₁ h' sent ds)
    (hp : h₁.bus.pending = h.bus.pending) (hb : h₁.bus.busy = h.bus.busy) :
    Hub.Advances app depth seen h h' sent ds :=
  ⟨hlast.prepared, hp ▸ hlast.queue, hlast.busy.trans hb, hlast.relayed⟩

/-- The queue is of no account, as long as what waits has distinct fields and no tokens in its type. -/
theorem Hub.Prepared.withQueue (hh : h.Prepared seen) {pending : List Event}
    (hd : ∀ e ∈ pending, (Assoc.keys e.data).Nodup) (ht : ∀ e ∈ pending, Tokenless e.type.toList)
    (busy : Bool) {running : Bool} (hi : running = false → pending = []) :
    Prepared seen { h with bus := { h.bus with pending, busy, running } } :=
  ⟨hh.toTracks.withQueue hd busy running, hh.toEquipped.congr rfl rfl rfl rfl, ht, hi⟩

/-- What spares the rules of event types and leaves what they need dispatches nothing. -/
theorem Hub.Prepared.spared (hh : h.Prepared seen) (hs : Frame.sparing.allows h h')
    (hk : Frame.equipped.allows h h') : Hub.Advances app depth seen h h' [] [] := by
  have hqueue := Bus.queue_of_observing (hs hh.steady).2.1
  obtain ⟨hpending, hbusy, hrunning⟩ := Bus.queue_eq_iff.1 hqueue
  exact Hub.Prepared.rests
    (hh.congr (hh.toTracks.of_sparing hs) (hk hh.toEquipped) hpending hrunning) hpending hbusy

end Advances

section Queue

variable (happ : app.StaysForeign .sparing) (hkeeps : app.StaysWithin .equipped) (depth : Nat)
include happ hkeeps

theorem Hub.Prepared.dispatchQueued (hh : h.Prepared seen) {e : Event}
    (he : (Assoc.keys e.data).Nodup) (htype : Tokenless e.type.toList) :
    ∃ h', outcome (dispatchQueued ⟨app, receive app (depth + 1)⟩ e) h = (.ok (), h') ∧
      h'.Prepared (seen ++ [e]) ∧ h'.bus.queue = (h.bus.pending, false, h.bus.running) ∧
      ∃ g, Hub.Relays app depth e { h with bus := { h.bus with busy := true } } g := by
  have hs : ∀ s n, Within .equipped ((⟨app, receive app (depth + 1)⟩ : Host α).receive s n) :=
    within_receive_equipped hkeeps (depth + 1)
  obtain ⟨h', hrun, htracks, hqueue⟩ := hh.toTracks.dispatchQueued happ depth he
  have hk : h'.Equipped :=
    (within_dispatchQueued Frame.equipped_openToHub.openToEvents hs e).of_outcome hrun
      hh.toEquipped
  obtain ⟨g, hrelays, -⟩ :=
    (hh.withQueue hh.waiting hh.tokenless true hh.idle).dispatch happ hkeeps depth he htype
  obtain ⟨hpending, hbusy, hrunning⟩ := Bus.queue_eq_iff.1 hqueue
  exact ⟨h', hrun, hh.congr htracks hk hpending hrunning, hqueue, g, hrelays⟩

/-- The dispatcher at work takes the events in order. -/
theorem Hub.Prepared.drain (n : Nat) (hh : h.Prepared seen) :
    ∃ h', outcome (drain ⟨app, receive app (depth + 1)⟩ n) h = (.ok (), h') ∧
      Hub.Advances app depth seen h h' [] (drained ⟨app, receive app (depth + 1)⟩ n h) ∧
      (drained ⟨app, receive app (depth + 1)⟩ n h).map (·.1) = h.bus.dispatched n ∧
      h'.bus.running = h.bus.running := by
  induction n generalizing h seen with
  | zero => exact ⟨h, rfl, hh.rests rfl rfl, by rw [Bus.dispatched, List.take_zero, ite_self]; rfl, rfl⟩
  | succ n ih =>
    unfold EventHub.drain drained
    rw [outcome_bind_ok (outcome_get h)]
    dsimp only
    -- The dispatcher takes an event only while it runs and is not at work already.
    by_cases hwork : (h.bus.running && !h.bus.busy) = true
    case neg =>
      rw [if_neg hwork, if_neg hwork, Bus.dispatched, if_neg hwork]
      exact ⟨h, rfl, hh.rests rfl rfl, rfl, rfl⟩
    rw [if_pos hwork, if_pos hwork, Bus.dispatched, if_pos hwork]
    cases hp : h.bus.pending with
    | nil => exact ⟨h, rfl, hh.rests rfl rfl, List.take_nil.symm, rfl⟩
    | cons e rest =>
      have hmem {e' : Event} (he' : e' ∈ rest) : e' ∈ h.bus.pending :=
        hp ▸ List.mem_cons_of_mem e he'
      have hrunning : h.bus.running = true := (Bool.and_eq_true_iff.1 hwork).1
      let h₁ : Hub α := { h with bus := { h.bus with pending := rest } }
      have hh₁ : h₁.Prepared seen := hh.withQueue (fun e' he' => hh.waiting e' (hmem he'))
        (fun e' he' => hh.tokenless e' (hmem he')) h.bus.busy
        fun hstopped => absurd (hrunning.symm.trans hstopped) (by decide)
      have htake : outcome (modifyBus (α := α) fun b => { b with pending := rest }) h =
        (.ok (), h₁) := rfl
      -- The first event leaves a prepared hub, from which the others are taken by induction.
      obtain ⟨h₂, hrun, hh₂, hqueue, g, hrelays⟩ := hh₁.dispatchQueued happ hkeeps depth
        (hh.waiting e (hp ▸ List.mem_cons_self)) (hh.tokenless e (hp ▸ List.mem_cons_self))
      obtain ⟨hpending, hbusy, hrunning₂⟩ := Bus.queue_eq_iff.1 hqueue
      have hfree : h.bus.busy = false := by simpa using (Bool.and_eq_true_iff.1 hwork).2
      obtain ⟨h', hrest, hadvances, htaken, hrunning'⟩ := ih hh₂
      have hone : Hub.Advances app depth seen h h₂ []
          [(e, { h₁ with bus := { h₁.bus with busy := true } })] := by
        refine ⟨hh₂, ?_, hbusy.trans hfree.symm, fun d hd => ?_⟩
        · rw [hp, hpending, List.append_nil]
          rfl
        · obtain rfl := List.mem_singleton.1 hd
          exact ⟨g, hrelays⟩
      refine ⟨h', ?_, ?_, ?_, hrunning'.trans hrunning₂⟩
      · rw [outcome_bind_ok htake, outcome_bind_ok hrun]
        exact hrest
      · dsimp only
        rw [hrun]
        exact hone.trans hadvances
      · dsimp only
        rw [hrun, List.map_cons, htaken, Bus.dispatched, hpending, hbusy, hrunning₂, List.take_succ_cons]
        rw [if_pos (by rw [hrunning]; rfl)]

/-- An event that is sent while the dispatcher runs waits, perhaps after others were dispatched to make
room for it, or there was no room for it. -/
theorem Hub.Prepared.enqueue (hh : h.Prepared seen) {e : Event} (he : (Assoc.keys e.data).Nodup)
    (htype : Tokenless e.type.toList) (hr : h.bus.running = true) :
    ∃ r h', outcome (enqueueEvent ⟨app, receive app (depth + 1)⟩ e) h = (r, h') ∧
      Hub.Advances app depth seen h h' (r.toOption.map fun _ => e).toList
        (drainedFor ⟨app, receive app (depth + 1)⟩ h) := by
  -- Once there was time to make room, the event waits behind the others or is rejected.
  have hlast {seen : List Event} {h : Hub α} (hh : h.Prepared seen) (hr : h.bus.running = true) :
      ∃ r h', outcome (do
        if (← get).bus.full then
          Task.log .error busPart s!"Event queue full; rejecting event {e.id} type={e.type}"
          throw (.busFull e.id)
        modifyBus (·.enqueue e)) h = (r, h') ∧
        Hub.Advances app depth seen h h' (r.toOption.map fun _ => e).toList [] := by
    rw [outcome_bind_ok (outcome_get h)]
    by_cases hfull : h.bus.full = true
    · rw [if_pos hfull]
      exact ⟨_, _, rfl, hh.spared (Frame.sparing_free.log h _) (Frame.equipped_free.log h _)⟩
    · rw [if_neg hfull]
      have hmem {e' : Event} (he' : e' ∈ h.bus.pending ++ [e]) : e' ∈ h.bus.pending ∨ e' = e := by
        simpa using he'
      have hh' : Prepared seen { h with bus := h.bus.enqueue e } := hh.withQueue
        (fun e' he' => (hmem he').elim (hh.waiting e') fun heq => heq ▸ he)
        (fun e' he' => (hmem he').elim (hh.tokenless e') fun heq => heq ▸ htype) h.bus.busy
        fun hstopped => absurd (hr.symm.trans hstopped) (by decide)
      refine ⟨.ok (), _, rfl, ?_, rfl, rfl, fun _ hd => (List.not_mem_nil hd).elim⟩
      rwa [List.map_nil, List.append_nil]
  unfold enqueueEvent drainedFor
  rw [outcome_bind_ok (outcome_get h)]
  dsimp only
  by_cases hpatience : (decide (0 < h.bus.capacity) && decide (h.bus.patience < 0)) = true
  case pos =>
    rw [if_pos hpatience, if_pos hpatience]
    exact ⟨_, _, rfl, hh.rests rfl rfl⟩
  rw [if_neg hpatience, if_neg hpatience]
  by_cases hfull : h.bus.full = true
  · rw [if_pos hfull, if_pos hfull]
    -- The queue is full, so the dispatcher is let work first, and then there may be room.
    obtain ⟨h₁, hrun, hfirst, -, hrunning⟩ := hh.drain happ hkeeps depth drainLimit
    obtain ⟨r, h', hrest, hadvances⟩ := hlast hfirst.prepared (hrunning.trans hr)
    refine ⟨r, h', ?_, ?_⟩
    · rw [outcome_bind_ok hrun]
      exact hrest
    · have hboth := hfirst.trans hadvances
      rwa [List.nil_append, List.append_nil] at hboth
  · rw [if_neg hfull, if_neg hfull]
    exact hlast hh hr

/-- The events that a call dispatches, each with the hub that dispatches it. -/
def HubCall.dispatches (host : Host α) (h : Hub α) : HubCall → List (Event × Hub α)
  | publish raw => match outcome (normalizeEvent raw) h with
    | (.ok e, h') => if h'.bus.running then drainedFor host h' else [(e, h')]
    | (.error _, _) => []
  | drain n => drained host n h
  | _ => []

/-- The event that a call publishes, if it is taken. -/
def HubCall.sent (host : Host α) (h : Hub α) : HubCall → List Event
  | publish raw => (outcome (publishEvent host raw) h).1.toOption.toList
  | _ => []

/-- Publishing sends an event, and dispatches it at once unless the dispatcher runs. -/
theorem Hub.Prepared.publish (hh : h.Prepared seen) {raw : Definition Event}
    (he : ∀ e, (outcome (normalizeEvent raw) h).1 = .ok e →
      (Assoc.keys e.data).Nodup ∧ Tokenless e.type.toList) :
    Hub.Advances app depth seen h (outcome (publishEvent ⟨app, receive app (depth + 1)⟩ raw) h).2
      ((HubCall.publish raw).sent ⟨app, receive app (depth + 1)⟩ h)
      ((HubCall.publish raw).dispatches ⟨app, receive app (depth + 1)⟩ h) := by
  obtain ⟨n, hdrawn⟩ := normalizeEvent_hub raw h
  rw [HubCall.sent, HubCall.dispatches]
  unfold publishEvent
  rw [outcome_bind]
  generalize outcome (normalizeEvent raw) h = run at he hdrawn
  obtain ⟨r, h₁⟩ := run
  obtain rfl : h₁ = { h with serial := n } := hdrawn
  -- At most an id is drawn for the event, and nothing that is prepared depends on it.
  have hdraws : Hub.Advances app depth seen h { h with serial := n } [] [] :=
    hh.spared (Frame.sparing_free.serial h n) (Frame.equipped_free.serial h n)
  cases r with
  | error fault => exact hdraws
  | ok e =>
    obtain ⟨hdistinct, htype⟩ := he e rfl
    have hh₁ : Prepared seen { h with serial := n } := by simpa using hdraws.prepared
    dsimp only
    rw [outcome_bind_ok (outcome_get _)]
    -- A running dispatcher lets the event wait; otherwise it is dispatched before the call returns.
    cases hr : h.bus.running with
    | true =>
      obtain ⟨r, h', hrun, hadvances⟩ := hh₁.enqueue happ hkeeps depth hdistinct htype hr
      rw [if_pos rfl, if_pos rfl, outcome_bind, hrun]
      cases r with
      | ok _ => exact hadvances.after rfl rfl
      | error fault => exact hadvances.after rfl rfl
    | false =>
      obtain ⟨h', hrelays, htracks, hk, hqueue⟩ := hh₁.dispatch happ hkeeps depth hdistinct htype
      have hrun : outcome (dispatchEvent ⟨app, receive app (depth + 1)⟩ e) { h with serial := n } =
          (.ok (), h') := by
        obtain ⟨_, _, _, _, hdispatch⟩ := hrelays
        exact hdispatch.dispatched
      obtain ⟨hpending, hbusy, hrunning⟩ := Bus.queue_eq_iff.1 hqueue
      rw [if_neg Bool.false_ne_true, if_neg Bool.false_ne_true, outcome_bind_ok hrun]
      refine ⟨hh.congr htracks hk hpending hrunning, ?_, hbusy, fun d hd => ?_⟩
      · change h.bus.pending ++ [e] = [e] ++ h'.bus.pending
        rw [hpending, hh.idle hr]
        rfl
      · obtain rfl := List.mem_singleton.1 hd
        exact ⟨h', hrelays⟩

end Queue

/-! ## Runs -/

/-- No id of the rule of an event type is named, no event has a field twice, and none has tokens in its
type. -/
def RunPolicy.tokenless : RunPolicy where
  names := RunPolicy.sparing.names
  events e := RunPolicy.sparing.events e ∧ Tokenless e.type.toList

/-- The hub comes with both actions of the rules of event types, and with a broker that works. -/
structure Hub.Stocked (h : Hub α) : Prop where
  logs : Assoc.get? h.desk.actions "log_event" = some (.stock .logEvent)
  publishes : Assoc.get? h.desk.actions "mqtt_publish" = some (.stock .mqttPublish)
  broker : ∃ b, h.broker = some b ∧ b.Works

/-- The hubs that calls lead to after a start, with the events that were sent and those that were
dispatched, each with the hub that dispatched it. Nobody stops the dispatcher while events wait for
it. -/
inductive RelayRun (app : Application α) : List Event → List (Event × Hub α) → Hub α → Prop
  | start {h h' : Hub α} (fresh : h.Fresh) (stocked : h.Stocked)
    (configured : ∀ rules, h.settings.rules.toList = .ok rules →
      ∀ v ∈ rules, (Definition.ofRuleValue v).Names RunPolicy.tokenless.names)
    (started : outcome (start app.host) h = (.ok (), h')) : RelayRun app [] [] h'
  | call {sent : List Event} {ds : List (Event × Hub α)} {h : Hub α} (c : HubCall)
    (run : RelayRun app sent ds h) (permitted : c.Permitted .tokenless h)
    (orderly : c = .stopBus → h.bus.pending = []) :
    RelayRun app (sent ++ c.sent app.host h) (ds ++ c.dispatches app.host h)
      (outcome (c.run app.host) h).2
  | pass {sent : List Event} {ds : List (Event × Hub α)} {h h' : Hub α} (run : RelayRun app sent ds h)
    (passes : h.Passes h') (keeps : Frame.equipped.allows h h') : RelayRun app sent ds h'

theorem HubCall.Permitted.sparing {c : HubCall} (hc : c.Permitted .tokenless h) :
    c.Permitted .sparing h := by
  cases c with
  | publish raw => exact fun e he => (hc e he).1
  | _ => exact hc

/-- A hub that shares its actions is equipped when it is stocked. -/
theorem Hub.Stocked.equipped_listening (hh : h.Stocked) (ho : h.outages = []) :
    (h.listening (sharing h.desk.available h.engine.actions)).Equipped := by
  have hshares {name : String} {handler : ActionHandler}
      (hg : Assoc.get? h.desk.actions name = some handler) :
      (h.listening (sharing h.desk.available h.engine.actions)).Shares name handler := by
    refine ⟨hg, ?_⟩
    have hmem : name ∈ h.desk.available := by
      rw [ActionDesk.available, List.mem_mergeSort]
      by_contra hnone
      rw [(Assoc.get?_eq_none_iff _ _).2 hnone] at hg
      cases hg
    exact (get?_sharing _ _ name).trans (if_pos hmem)
  exact ⟨ho, hshares hh.logs, hshares hh.publishes, hh.broker⟩

section Runs

variable (happ : app.StaysForeign .sparing) (hkeeps : app.StaysWithin .equipped)
include happ hkeeps

/-- A hub that has been started is prepared, and nothing waits. -/
theorem Hub.Fresh.prepared_start (fresh : h.Fresh) (stocked : h.Stocked)
    (configured : ∀ rules, h.settings.rules.toList = .ok rules →
      ∀ v ∈ rules, (Definition.ofRuleValue v).Names RunPolicy.tokenless.names)
    (started : outcome (start app.host) h = (.ok (), h')) :
    h'.Prepared [] ∧ h'.bus.pending = [] ∧ h'.bus.busy = false := by
  have hlistens := fresh.tracks_listening (sharing h.desk.available h.engine.actions)
  have hequipped := stocked.equipped_listening fresh.inOrder
  have hs := tells_equipped hkeeps receptionDepth
  have hc : Within .equipped (configure app.host h.settings) :=
    within_configure Frame.equipped_openToHub.toOpenToEdits Frame.equipped_openToHub.toOpenToFlows
      (fun topic _ => (hs topic).reports) (hs _).reports fun _ _ => IdPolicy.any_heededByAll _
  have hkept := fresh.allows_start started hc
    (fun h lines hh => hh.congr rfl rfl rfl rfl) fun h₁ ha => (ha hequipped).inOrder
  have hspares := fresh.spares_start happ configured started
  have hqueue := Bus.queue_of_observing (hspares hlistens.steady).2.1
  obtain ⟨hpending, hbusy, hrunning⟩ := Bus.queue_eq_iff.1 hqueue
  have hnone : h'.bus.pending = [] := hpending.trans fresh.pending
  refine ⟨⟨hlistens.of_sparing hspares, hkept hequipped, ?_, fun _ => hnone⟩, hnone,
    hbusy.trans fresh.busy⟩
  rw [hnone]
  exact fun _ he => (List.not_mem_nil he).elim

omit happ hkeeps in
/-- The frame in which what waits stays, and the dispatcher is as free as it was. -/
theorem Frame.ofQueue_free :
    (Frame.ofPart fun h : Hub α => (h.bus.pending, h.bus.busy)).Free :=
  ⟨⟨⟨fun _ _ => rfl, fun _ _ => rfl, fun _ _ => rfl, fun _ _ => rfl⟩, fun _ _ _ _ _ => rfl⟩,
    fun _ _ _ _ _ => rfl⟩

/-- After every call the hub has gone on. -/
theorem Hub.Prepared.call (hh : h.Prepared seen) {c : HubCall} (hc : c.Permitted .tokenless h)
    (orderly : c = .stopBus → h.bus.pending = []) :
    Hub.Advances app (receptionDepth - 1) seen h (outcome (c.run app.host) h).2
      (c.sent app.host h) (c.dispatches app.host h) := by
  have hs : ∀ s n, Within .equipped (app.host.receive s n) :=
    within_receive_equipped hkeeps receptionDepth
  have hkept : (outcome (c.run app.host) h).2.Equipped :=
    within_hubCall Frame.equipped_openToHub hs Frame.equipped_openToSubscribers (hkeeps.act _ hs) hc
      RegistryCall.heeds_any hh.toEquipped
  have htracks := hh.toTracks.call happ hc.sparing
  -- A call of the bus that leaves the queue: subscriptions, and the dispatcher.
  have hbus (ho : c.observed h = []) (hp : (outcome (c.run app.host) h).2.bus.pending = h.bus.pending)
      (hb : (outcome (c.run app.host) h).2.bus.busy = h.bus.busy)
      (hi : (outcome (c.run app.host) h).2.bus.running = false → h.bus.pending = []) :
      Hub.Advances app (receptionDepth - 1) seen h (outcome (c.run app.host) h).2 [] [] := by
    rw [ho, List.append_nil] at htracks
    exact Hub.Prepared.rests ⟨htracks, hkept, hp ▸ hh.tokenless, fun hr => hp.trans (hi hr)⟩ hp hb
  cases c with
  | publish raw =>
    rw [HubCall.run, hub_discard]
    exact hh.publish happ hkeeps (receptionDepth - 1) hc
  | drain n =>
    obtain ⟨h', hrun, hadvances, -⟩ := hh.drain happ hkeeps (receptionDepth - 1) n
    have hd : outcome ((HubCall.drain n).run app.host) h = (.ok (), h') := hrun
    rw [hd]
    exact hadvances
  | subscribe topic s => exact hbus rfl rfl rfl hh.idle
  | subscribeEvents pattern s => exact hbus rfl rfl rfl hh.idle
  | unsubscribe id => exact hbus rfl rfl rfl hh.idle
  | startBus =>
    obtain ⟨hp, hb⟩ := Prod.mk.inj (within_startBus Frame.ofQueue_free (fun _ _ => rfl) h)
    refine hbus rfl hp hb fun hr => ?_
    by_cases hrunning : h.bus.running = true
    · have hsame : outcome (startBus (α := α)) h = (.ok (), h) := by
        unfold startBus
        rw [outcome_bind_ok (outcome_get h)]
        dsimp only
        rw [hrunning]
        rfl
      have hr : (outcome (startBus (α := α)) h).2.bus.running = false := hr
      rw [hsame, hrunning] at hr
      cases hr
    · exact hh.idle (by simpa using hrunning)
  | stopBus =>
    obtain ⟨hp, hb⟩ := Prod.mk.inj (within_stopBus Frame.ofQueue_free (fun _ _ => rfl) h)
    exact hbus rfl hp hb fun _ => orderly rfl
  | _ => exact hh.spared (HubCall.spares happ id hc.sparing) (fun _ => hkept)

/-- Over a run the hub is prepared, and has gone on from nothing. -/
theorem RelayRun.advances {sent : List Event} {ds : List (Event × Hub α)}
    (run : RelayRun app sent ds h) :
    h.Prepared (ds.map (·.1)) ∧ h.bus.busy = false ∧ sent = ds.map (·.1) ++ h.bus.pending ∧
      ∀ d ∈ ds, ∃ g, d.2.Relays app (receptionDepth - 1) d.1 g := by
  induction run with
  | start fresh stocked configured started =>
    obtain ⟨hh, hnone, hbusy⟩ := fresh.prepared_start happ hkeeps stocked configured started
    exact ⟨hh, hbusy, hnone.symm, fun _ hd => (List.not_mem_nil hd).elim⟩
  | @call sent ds h c _ permitted orderly ih =>
    obtain ⟨hh, hbusy, hsent, hrelays⟩ := ih
    have hnext := hh.call happ hkeeps permitted orderly
    refine ⟨?_, hnext.busy.trans hbusy, ?_, fun d hd => ?_⟩
    · rw [List.map_append]
      exact hnext.prepared
    · rw [hsent, List.append_assoc, hnext.queue, List.map_append, List.append_assoc]
    · exact (List.mem_append.1 hd).elim (hrelays d) (hnext.relayed d)
  | pass _ passes keeps ih =>
    obtain ⟨hh, hbusy, hsent, hrelays⟩ := ih
    have hh' := hh.congr (hh.toTracks.passes passes) (keeps hh.toEquipped)
      (congrArg Bus.pending passes.bus) (congrArg Bus.running passes.bus)
    refine ⟨hh', ?_, ?_, hrelays⟩
    · rw [passes.bus, hbusy]
    · rw [passes.bus, hsent]

/-- Over a run, the events that were sent are those that were dispatched, in order, and then those that
wait. Each that was dispatched was handled once, when the rule of its type ran once and published it
again. None waits unless the dispatcher runs, and then it dispatches all of them once it is let work. -/
theorem RelayRun.relays {sent : List Event} {ds : List (Event × Hub α)} (run : RelayRun app sent ds h) :
    sent = ds.map (·.1) ++ h.bus.pending ∧
      (∀ d ∈ ds, ∃ g, d.2.Relays app (receptionDepth - 1) d.1 g) ∧
      (h.bus.running = false → h.bus.pending = []) ∧
      ∀ n, h.bus.pending.length ≤ n → h.bus.running = true →
        (outcome (drain app.host n) h).2.bus.pending = [] := by
  obtain ⟨hh, hbusy, hsent, hrelays⟩ := run.advances happ hkeeps
  refine ⟨hsent, hrelays, hh.idle, fun n hn hr => ?_⟩
  obtain ⟨h', hrun, hadvances, htaken, -⟩ := hh.drain happ hkeeps (receptionDepth - 1) n
  have hdrain : outcome (drain app.host n) h = (.ok (), h') := hrun
  have hall : h.bus.dispatched n = h.bus.pending := by
    rw [Bus.dispatched, hr, hbusy]
    exact List.take_of_length_le hn
  have hqueue := hadvances.queue
  rw [htaken, hall] at hqueue
  rw [hdrain]
  exact (List.append_cancel_left hqueue).symm

end Runs

/-- While the dispatcher does not run, an event is dispatched when it is published. -/
theorem HubCall.dispatches_publish {host : Host α} (hr : h.bus.running = false) (e : Event) :
    (HubCall.publish (.checked e)).dispatches host h = [(e, h)] := by
  have hd : (HubCall.publish (.checked e)).dispatches host h =
    if h.bus.running then drainedFor host h else [(e, h)] := rfl
  rw [hd, hr]
  rfl

/-- A broker that takes every message. -/
def Broker.taking : Broker where
  publish topic payload qos retain := .recorded (.brokerPublish topic payload qos retain) (.ok .null)
  subscribe := none

/-- A hub that was assembled from the standard settings and such a broker. -/
def Hub.brokered : Hub Nat := (outcome (assemble .standard (some .taking)) (Hub.atMidnight 0)).2

/-- The hub that has been started, but for its log and its further actions. -/
def Hub.relaying : Hub Nat :=
  (Hub.brokered.listening [("log_event", .shared "log_event"),
    ("mqtt_publish", .shared "mqtt_publish")]).initialized []

/-- Two events of a type, of which the first has data that look like an event and like templates. -/
def disguisedEvent : Event := ⟨"e1", "a", "probe", "2024-01-01T00:00:00",
  [("type", .text "b"), ("source", .text "\x7b\x7bdata.type\x7d\x7d"),
    ("data", .text "\x7b\x7bnobody\x7d\x7d"), ("timestamp", .null)], []⟩

@[inherit_doc disguisedEvent]
def undisguisedEvent : Event := ⟨"e2", "a", "probe", "2024-01-01T00:01:00", [("x", .int 2)], []⟩

/-- The hub after the first event. -/
def Hub.relayedOnce : Hub Nat :=
  (outcome ((HubCall.publish (.checked disguisedEvent)).run Application.silent.host) Hub.relaying).2

theorem RelayRun.relaying : RelayRun Application.silent [] [] Hub.relaying := by
  have hassembled : outcome (assemble .standard (some .taking)) (Hub.atMidnight 0) =
      (.ok (), Hub.brokered) := outcome_of_isOk (by decide +kernel)
  have fresh := fresh_of_assemble rfl hassembled
  have stocked : Hub.brokered.Stocked :=
    ⟨rfl, rfl, _, rfl, fun topic payload qos retain effects => ⟨_, rfl⟩⟩
  obtain ⟨lines, hs⟩ := outcome_started (by decide +kernel)
    (outcome_wire Application.silent.host fresh.inOrder) rfl
  have hrun : RelayRun Application.silent [] [] _ :=
    .start fresh stocked (fun rules hrules v hv => by cases hrules; cases hv) hs
  refine .pass hrun ⟨rfl, rfl, rfl, rfl, rfl⟩ fun _ => ⟨rfl, ⟨rfl, rfl⟩, ⟨rfl, rfl⟩, ?_⟩
  exact ⟨_, rfl, fun topic payload qos retain effects => ⟨_, rfl⟩⟩

theorem RelayRun.relays_disguised :
    (∃ g, Hub.relaying.Relays Application.silent (receptionDepth - 1) disguisedEvent g) ∧
      ∃ g, Hub.relayedOnce.Relays Application.silent (receptionDepth - 1) undisguisedEvent g := by
  have hdisguised : (Assoc.keys disguisedEvent.data).Nodup := by decide
  have hundisguised : (Assoc.keys undisguisedEvent.data).Nodup := by decide
  have hfirst := RelayRun.call (.publish (.checked disguisedEvent)) RelayRun.relaying
    (fun e he => by
      cases he
      exact ⟨hdisguised, by decide⟩) nofun
  rw [HubCall.dispatches_publish (by decide +kernel)] at hfirst
  have hboth := RelayRun.call (.publish (.checked undisguisedEvent)) hfirst
    (fun e he => by
      cases he
      exact ⟨hundisguised, by decide⟩) nofun
  rw [HubCall.dispatches_publish (by decide +kernel)] at hboth
  obtain ⟨-, hrelays, -⟩ :=
    hboth.relays (Application.silent_staysForeign _) (Application.silent_staysWithin _)
  exact ⟨hrelays (disguisedEvent, Hub.relaying) (by simp),
    hrelays (undisguisedEvent, Hub.relayedOnce) (by simp [Hub.relayedOnce])⟩

end EventHub
