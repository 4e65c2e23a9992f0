import EventHub.Proofs.Bus.Calls
import EventHub.Proofs.Rules.Reload
import EventHub.Startup.Program

/-!
# Replaying events

What becomes of the lines of a text that is replayed on a bus that is not started, whatever the subscribers do
but start the bus or take it out of order.

* **Lines** (`filledLines`, `eventOfLine`, `lineFault?`): the lines that are not blank, with their numbers, and
  the event or the fault of each. Which lines hold an event does not depend on the ids that are drawn
  (`map_eventOfLine`).
* **Dispatch** (`allows_dispatchEvent`): it stays in every frame that does not see the lines of the bus and in
  which the receptions stay.
* **Replays** (`Replays`): the hub goes on from line to line, by the dispatch of an event or by one warning. A
  replay is one (`replayLines_replays`).
* `replay_publishes`: the events that are published, the warnings, and their number.
-/

namespace EventHub

open EventHub.Task

variable {α : Type} {host : Host α} {part : String}

/-! ## Lines -/

/-- The lines that are not blank, without the blanks around them, each with its number. The first line has the
given number, and blank lines count. -/
def filledLines (number : Nat) (lines : List String) : List (Nat × String) :=
  ((lines.map Text.strip).zipIdx number).filterMap fun (line, n) =>
    if line.isEmpty then none else some (n, line)

theorem filledLines_cons (number : Nat) (line : String) (rest : List String) :
    filledLines number (line :: rest) =
      if (Text.strip line).isEmpty then filledLines (number + 1) rest
      else (number, Text.strip line) :: filledLines (number + 1) rest := by
  simp only [filledLines, List.map_cons, List.zipIdx_cons, List.filterMap_cons]
  split <;> simp_all

/-- The event of a line, under the given id if the line has none. -/
def eventOfLine (id line : String) : Except Fault Event := do
  eventOfFields id (← rawEventFields (← readLine line))

/-- Why a line holds no event, if it holds none. -/
def lineFault? (line : String) : Option Fault :=
  match eventOfLine "" line with
  | .ok _ => none
  | .error fault => some fault

/-- The numbers of the lines that hold no event, with their faults. -/
def unreadLines (lines : List (Nat × String)) : List (Nat × Fault) :=
  lines.filterMap fun (n, line) => (lineFault? line).map (n, ·)

/-- The lines that hold an event. -/
def eventLines (lines : List (Nat × String)) : List String :=
  (lines.filter fun (_, line) => (lineFault? line).isNone).map (·.2)

/-- Under whatever id, the entries describe the same event or have the same issues. -/
theorem Event.map_ofFields (id id' : String) (fields : Fields) :
    (Event.ofFields id fields).map (fun e => { e with id := "" }) =
      (Event.ofFields id' fields).map fun e => { e with id := "" } := by
  unfold Event.ofFields
  cases hid : field fields "id" with
  | some given =>
    have hgiven (id : String) :
        defaulted fields "id" id checkText = Checked.within given.1 (checkText given.2) := by
      rw [defaulted, hid]
    rw [hgiven id, hgiven id']
  | none =>
    have hown (id : String) : defaulted fields "id" id checkText = .ok id := by rw [defaulted, hid]
    rw [hown id, hown id']
    cases required fields "type" checkName <;> cases required fields "source" checkName <;>
      cases required fields "timestamp" checkTimestamp <;>
      cases defaulted fields "data" [] checkMapOrNull <;>
      cases defaulted fields "metadata" [] checkMapOrNull <;> rfl

theorem map_eventOfLine (id id' line : String) :
    (eventOfLine id line).map (fun e => { e with id := "" }) =
      (eventOfLine id' line).map fun e => { e with id := "" } := by
  unfold eventOfLine
  cases readLine line with
  | error fault => rfl
  | ok v =>
    dsimp only [bind, Except.bind]
    cases rawEventFields v with
    | error fault => rfl
    | ok fields =>
      have hmap := Event.map_ofFields id id' fields
      dsimp only [eventOfFields]
      rw [show Event.check id (.map fields) = Event.ofFields id fields from rfl,
        show Event.check id' (.map fields) = Event.ofFields id' fields from rfl]
      cases h : Event.ofFields id fields <;> cases h' : Event.ofFields id' fields <;> simp_all [Except.map]

/-- A line that holds no event has its fault under every id. -/
theorem lineFault?_eq_some {id line : String} {fault : Fault} :
    lineFault? line = some fault ↔ eventOfLine id line = .error fault := by
  have hmap := map_eventOfLine "" id line
  unfold lineFault?
  cases h : eventOfLine "" line <;> cases h' : eventOfLine id line <;> simp_all [Except.map]

theorem lineFault?_eq_none {id line : String} :
    lineFault? line = none ↔ ∃ e, eventOfLine id line = .ok e := by
  have hmap := map_eventOfLine "" id line
  unfold lineFault?
  cases h : eventOfLine "" line <;> cases h' : eventOfLine id line <;> simp_all [Except.map]

theorem lineFault?_of_readLine {line : String} {fault : Fault} (h : readLine line = .error fault) :
    lineFault? line = some fault := by
  have hline : eventOfLine "" line = .error fault := by
    rw [eventOfLine, h]
    rfl
  exact lineFault?_eq_some.2 hline

/-- The event of a line is its event under the event's own id. -/
theorem eventOfLine_id {id line : String} {e : Event} (h : eventOfLine id line = .ok e) :
    eventOfLine e.id line = .ok e := by
  obtain ⟨v, hv, h⟩ := bind_eq_ok.1 h
  obtain ⟨fields, hfields, h⟩ := bind_eq_ok.1 h
  obtain ⟨hid, hrest⟩ := Event.ofFields_eq_ok.1 (eventOfFields_eq_ok.1 h)
  have hown : defaulted fields "id" e.id checkText = .ok e.id := by
    unfold defaulted at hid ⊢
    split at hid <;> simp_all
  refine bind_eq_ok.2 ⟨v, hv, bind_eq_ok.2 ⟨fields, hfields, ?_⟩⟩
  exact eventOfFields_eq_ok.2 (Event.ofFields_eq_ok.2 ⟨hown, hrest⟩)

/-! ## Dispatch -/

/-- A hub whose bus is in order and not started. -/
structure Hub.Immediate (h : Hub α) : Prop where
  inOrder : h.outages = []
  stopped : h.bus.running = false

/-- The frame in which a bus in order that is not started stays so. -/
def Frame.immediate : Frame α := .ofInvariant Hub.Immediate

/-- The frame does not see the lines that the bus writes. -/
def Frame.OpenToBusLines (F : Frame α) : Prop :=
  ∀ (h : Hub α) level text, F.allows h { h with log := ⟨level, busPart, text⟩ :: h.log }

theorem Frame.immediate_openToBusLines : (Frame.immediate (α := α)).OpenToBusLines :=
  fun _ _ _ hh => ⟨hh.inOrder, hh.stopped⟩

section Dispatch

variable {F : Frame α} (hF : F.OpenToBusLines)
include hF

theorem within_busLog (level : Level) (text : String) :
    Within F (Task.log (α := α) level busPart text) := by
  refine Within.change fun h => ?_
  split
  · exact hF h level text
  · exact F.refl h

variable (hs : ∀ s n, Within F (host.receive s n))
include hs

theorem within_announce_of_busLines (topic : String) (n : Notice) :
    Within F (announce host topic n) := by
  have hdeliver (subscribers : List Subscriber) : Within F (deliver host topic n subscribers) := by
    induction subscribers with
    | nil => exact Within.pure _
    | cons s rest ih =>
      refine Within.bind (Within.attempt (hs s n)) fun r => ?_
      cases r with
      | ok _ => exact Within.bind ih fun _ => Within.pure _
      | error fault => exact Within.bind (within_busLog hF _ _) fun _ => ih
  intro h
  rw [outcome_announce]
  exact hdeliver _ h

theorem within_deliverSelected_of_busLines (e : Event) (offers : List (Nat × EventPattern × Subscriber)) :
    Within F (deliverSelected host e offers) := by
  induction offers with
  | nil => exact Within.pure _
  | cons o rest ih =>
    obtain ⟨id, pattern, s⟩ := o
    have hoffer : Within F (offer host e pattern s) := by
      refine Within.bind (Within.ofExcept _) fun selected => ?_
      split
      · exact hs _ _
      · exact Within.pure _
    refine Within.bind (Within.attempt hoffer) fun r => ?_
    cases r with
    | ok _ => exact Within.bind (Within.pure ()) fun _ => ih
    | error fault => exact Within.bind (within_busLog hF _ _) fun _ => ih

theorem within_announceChange_of_busLines (e : Event) (change : SchemaChange) :
    Within F (announceChange host e change) := by
  have hannounce := within_announce_of_busLines hF hs
  have hlog := within_busLog (α := α) hF
  have hfields (new : List DiscoveredField) : Within F (announceChange host e ⟨false, new⟩) := by
    rw [announceChange_false]
    split
    · exact Within.pure _
    · exact Within.bind (hlog _ _) fun _ => hannounce _ _
  obtain ⟨newType, new⟩ := change
  cases newType with
  | false => exact hfields new
  | true =>
    rw [announceChange_true]
    exact Within.bind (hlog _ _) fun _ => Within.bind (hannounce _ _) fun _ => hfields new

/-- An event is dispatched, whatever the subscribers do in the frame. -/
theorem allows_dispatchEvent {h : Hub α} (ho : h.outages = []) (e : Event) : ∃ h',
    outcome (dispatchEvent host e) h = (.ok (), h') ∧ F.allows (h.observed e) h' := by
  have hannounce := within_announce_of_busLines hF hs
  have hchange := within_announceChange_of_busLines hF hs e (h.bus.schema.observe e.type e.data).1
  have htell : Within F (tellEvent host e) :=
    within_tellEvent (fun topic _ => hannounce topic)
      (Within.bind Within.get fun _ => within_deliverSelected_of_busLines hF hs e _)
  have hrun := outcome_dispatchEvent ho (outcome_announceChange_ok host e _ (h.observed e))
  rw [outcome_tellEvent_ok] at hrun
  exact ⟨_, hrun, F.trans (hchange _) (htell _)⟩

theorem allows_of_dispatchEvent {h h' : Hub α} {e : Event}
    (hd : outcome (dispatchEvent host e) h = (.ok (), h')) (ho : h.outages = []) :
    F.allows (h.observed e) h' := by
  obtain ⟨_, hrun, hallows⟩ := allows_dispatchEvent hF hs ho e
  cases hrun.symm.trans hd
  exact hallows

end Dispatch

/-! ## Replays -/

/-- The event of a line, which draws an id if the line has none. -/
def lineEvent (line : String) : Task α Event := do
  normalizeEvent (.document (← Task.ofExcept (readLine line)))

/-- The warning about a line that holds no event. -/
def skipWarning (part : String) (number : Nat) (fault : Fault) : LogLine :=
  ⟨.warning, part, s!"Skipping replay line {number}: " ++ fault.message⟩

variable (host part) in
/-- The hub goes on over the lines, each of which is dispatched as an event or leaves a warning (module doc). -/
inductive Replays : List (Nat × String) → Hub α → List Event → Hub α → Prop
  | done (h : Hub α) : Replays [] h [] h
  | event {number : Nat} {line : String} {rest : List (Nat × String)} {h h₁ h₂ h' : Hub α} {e : Event}
    {events : List Event} (read : outcome (lineEvent line) h = (.ok e, h₁))
    (dispatched : outcome (dispatchEvent host e) h₁ = (.ok (), h₂)) (later : Replays rest h₂ events h') :
    Replays ((number, line) :: rest) h (e :: events) h'
  | skipped {number : Nat} {line : String} {rest : List (Nat × String)} {h h₁ h' : Hub α} {fault : Fault}
    {events : List Event} (unread : outcome (lineEvent line) h = (.error fault, h₁))
    (later : Replays rest { h₁ with log := skipWarning part number fault :: h₁.log } events h') :
    Replays ((number, line) :: rest) h events h'

/-- The event of a line is that of the line under some id, and at most an id was drawn. -/
theorem outcome_lineEvent (line : String) (h : Hub α) :
    ∃ id serial, outcome (lineEvent line) h = (eventOfLine id line, { h with serial }) := by
  unfold lineEvent eventOfLine
  rw [outcome_bind, outcome_ofExcept]
  cases readLine line with
  | error fault => exact ⟨"", h.serial, rfl⟩
  | ok v =>
    cases hv : rawEventFields v with
    | error fault =>
      refine ⟨"", h.serial, ?_⟩
      dsimp only [bind, Except.bind]
      rw [normalizeEvent, outcome_bind, outcome_ofExcept, hv]
    | ok fields =>
      obtain ⟨id, h', hrun⟩ := outcome_normalizeEvent_document hv h
      obtain ⟨serial, hserial⟩ := normalizeEvent_hub (.document v) h
      rw [hrun] at hserial
      have hline : (rawEventFields v >>= eventOfFields id) = eventOfFields id fields := by rw [hv]; rfl
      exact ⟨id, serial, hrun.trans (Prod.ext hline.symm hserial)⟩

theorem eventOfLine_of_lineEvent {line : String} {h h₁ : Hub α} {r : Except Fault Event}
    (hl : outcome (lineEvent line) h = (r, h₁)) :
    (∃ id, eventOfLine id line = r) ∧ ∃ serial, h₁ = { h with serial } := by
  obtain ⟨id, serial, hrun⟩ := outcome_lineEvent line h
  cases hrun.symm.trans hl
  exact ⟨⟨id, rfl⟩, serial, rfl⟩

/-- A line that is read as JSON and holds no event describes an invalid one. -/
theorem skipsLine_of_lineEvent {line : String} {h h₁ : Hub α} {fault : Fault}
    (hj : ∀ fault, readLine line = .error fault → fault.isA .value = true)
    (hl : outcome (lineEvent line) h = (.error fault, h₁)) : fault.skipsLine = true := by
  unfold lineEvent at hl
  rw [outcome_bind, outcome_ofExcept] at hl
  cases hv : readLine line with
  | error problem =>
    rw [hv] at hl
    cases hl
    rw [Fault.skipsLine, hj _ hv, Bool.true_or]
  | ok v =>
    rw [hv] at hl
    obtain ⟨problem, rfl⟩ := normalizeEvent_error (congrArg Prod.fst hl)
    rfl

/-- A line without an event is not published. -/
theorem outcome_replayLine_error {line : String} {h h₁ : Hub α} {fault : Fault}
    (hl : outcome (lineEvent line) h = (.error fault, h₁)) :
    outcome (replayLine host line) h = (.error fault, h₁) := by
  unfold lineEvent at hl
  unfold replayLine
  rw [outcome_bind, outcome_ofExcept] at hl ⊢
  cases hv : readLine line with
  | error problem =>
    rw [hv] at hl
    cases hl
    rfl
  | ok v =>
    rw [hv] at hl
    exact outcome_bind_error (outcome_bind_error hl)

/-- The event of a line is dispatched at once on a bus that is not started. -/
theorem outcome_replayLine_ok {line : String} {h h₁ h₂ : Hub α} {e : Event}
    (hl : outcome (lineEvent line) h = (.ok e, h₁)) (hr : h₁.bus.running = false)
    (hd : outcome (dispatchEvent host e) h₁ = (.ok (), h₂)) (hr₂ : h₂.bus.running = false) :
    outcome (replayLine host line) h = (.ok (), h₂) := by
  unfold lineEvent at hl
  unfold replayLine
  rw [outcome_bind, outcome_ofExcept] at hl ⊢
  cases hv : readLine line with
  | error problem =>
    rw [hv] at hl
    cases hl
  | ok v =>
    rw [hv] at hl
    have hinline : ¬ h₁.bus.running = true := by rw [hr]; exact Bool.false_ne_true
    have hpublish : outcome (publishEvent host (.document v)) h = (.ok e, h₂) := by
      rw [publishEvent, outcome_bind_ok hl, outcome_bind_ok (outcome_get _), if_neg hinline,
        outcome_bind_ok hd]
      rfl
    have hdrain : outcome (drain host drainLimit) h₂ = (.ok (), h₂) := by
      rw [drainLimit, drain, outcome_bind_ok (outcome_get _)]
      dsimp only
      rw [hr₂, Bool.false_and, if_neg Bool.false_ne_true]
      rfl
    dsimp only
    rw [outcome_bind_ok hpublish, hdrain]

section Steps

variable {number : Nat} {line : String} {rest : List String} {h h₁ h₂ h' : Hub α} {fault : Fault} {n : Nat}

theorem replayLines_of_blank (hblank : (Text.strip line).isEmpty = true) :
    replayLines host part number (line :: rest) = replayLines host part (number + 1) rest := by
  rw [replayLines]
  dsimp only
  rw [if_pos hblank]

variable (hfilled : ¬ (Text.strip line).isEmpty = true)
include hfilled

/-- A line without an event leaves a warning. -/
theorem outcome_replayLines_skipped
    (hl : outcome (lineEvent (Text.strip line)) h = (.error fault, h₁)) (hskips : fault.skipsLine = true) :
    outcome (replayLines host part number (line :: rest)) h =
      outcome (replayLines host part (number + 1) rest)
        { h₁ with log := skipWarning part number fault :: h₁.log } := by
  have hgoesOn : ¬ (!fault.skipsLine) = true := by simp [hskips]
  rw [replayLines]
  dsimp only
  rw [if_neg hfilled, outcome_bind_ok (outcome_attempt _ h), outcome_replayLine_error hl]
  dsimp only
  rw [if_neg hgoesOn, outcome_bind_ok (outcome_log rfl part _ _)]
  rfl

/-- A line whose event is published counts. -/
theorem outcome_replayLines_published
    (hl : outcome (replayLine host (Text.strip line)) h = (.ok (), h₂))
    (hrest : outcome (replayLines host part (number + 1) rest) h₂ = (.ok n, h')) :
    outcome (replayLines host part number (line :: rest)) h = (.ok (n + 1), h') := by
  rw [replayLines]
  dsimp only
  rw [if_neg hfilled, outcome_bind_ok (outcome_attempt _ h), hl]
  dsimp only
  rw [outcome_bind_ok hrest]
  rfl

end Steps

section Runs

variable (hs : ∀ s n, Within .immediate (host.receive s n))
include hs

variable (part) in
/-- Lines that are replayed on a bus that is not started never raise, if JSON that cannot be read is a fault of
value. By induction on the lines. -/
theorem replayLines_replays {h : Hub α} (hh : h.Immediate) {number : Nat} {lines : List String}
    (hj : ∀ l ∈ filledLines number lines, ∀ fault, readLine l.2 = .error fault →
      fault.isA .value = true) :
    ∃ events h', outcome (replayLines host part number lines) h = (.ok events.length, h') ∧
      Replays host part (filledLines number lines) h events h' := by
  induction lines generalizing number h with
  | nil => exact ⟨[], h, rfl, .done h⟩
  | cons line rest ih =>
    rw [filledLines_cons] at hj ⊢
    by_cases hblank : (Text.strip line).isEmpty = true
    · rw [if_pos hblank] at hj ⊢
      rw [replayLines_of_blank hblank]
      exact ih hh hj
    · rw [if_neg hblank] at hj ⊢
      obtain ⟨hline, hrest⟩ := List.forall_mem_cons.1 hj
      obtain ⟨id, serial, hread⟩ := outcome_lineEvent (Text.strip line) h
      have hh₁ : Hub.Immediate { h with serial } := ⟨hh.inOrder, hh.stopped⟩
      cases he : eventOfLine id (Text.strip line) with
      | error fault =>
        -- the line is to blame, since what a subscriber raises never gets this far
        rw [he] at hread
        have hlogged : Hub.Immediate { h with serial, log := skipWarning part number fault :: h.log } :=
          ⟨hh.inOrder, hh.stopped⟩
        obtain ⟨events, h', hrun, hreplays⟩ := ih hlogged hrest
        refine ⟨events, h', ?_, .skipped hread hreplays⟩
        rw [outcome_replayLines_skipped hblank hread (skipsLine_of_lineEvent hline hread)]
        exact hrun
      | ok e =>
        rw [he] at hread
        obtain ⟨h₂, hdispatch, hkept⟩ :=
          allows_dispatchEvent Frame.immediate_openToBusLines hs hh₁.inOrder e
        have hh₂ : h₂.Immediate := hkept ⟨hh.inOrder, hh.stopped⟩
        obtain ⟨events, h', hrun, hreplays⟩ := ih hh₂ hrest
        have hpublished := outcome_replayLine_ok hread hh.stopped hdispatch hh₂.stopped
        exact ⟨e :: events, h', outcome_replayLines_published hblank hpublished hrun,
          .event hread hdispatch hreplays⟩

end Runs

namespace Replays

variable {lines : List (Nat × String)} {h h' : Hub α} {events : List Event}

/-- The events are those of the lines that hold one, in order. -/
theorem events_of (hr : Replays host part lines h events h') :
    List.Forall₂ (fun line e => eventOfLine e.id line = .ok e) (eventLines lines) events := by
  induction hr with
  | done => exact .nil
  | @event number line rest _ _ _ _ _ events read dispatched later ih =>
    obtain ⟨⟨id, he⟩, -⟩ := eventOfLine_of_lineEvent read
    have hlines : eventLines ((number, line) :: rest) = line :: eventLines rest := by
      simp [eventLines, lineFault?_eq_none.2 ⟨_, he⟩]
    rw [hlines]
    exact .cons (eventOfLine_id he) ih
  | skipped unread later ih =>
    obtain ⟨⟨id, he⟩, -⟩ := eventOfLine_of_lineEvent unread
    simpa [eventLines, lineFault?_eq_some.2 he] using ih

/-- Every line holds an event or leaves a warning. -/
theorem length_of (hr : Replays host part lines h events h') :
    events.length + (unreadLines lines).length = lines.length := by
  induction hr with
  | done => rfl
  | event read dispatched later ih =>
    obtain ⟨⟨id, he⟩, -⟩ := eventOfLine_of_lineEvent read
    simp only [unreadLines, List.filterMap_cons, lineFault?_eq_none.2 ⟨_, he⟩, Option.map_none,
      List.length_cons] at ih ⊢
    omega
  | skipped unread later ih =>
    obtain ⟨⟨id, he⟩, -⟩ := eventOfLine_of_lineEvent unread
    simp only [unreadLines, List.filterMap_cons, lineFault?_eq_some.2 he, Option.map_some,
      List.length_cons] at ih ⊢
    omega

section Kept

variable (hs : ∀ s n, Within .immediate (host.receive s n))
include hs

/-- The history is that of the events, if the subscribers leave it alone. -/
theorem history_of (hr : Replays host part lines h events h') (hh : h.Immediate)
    (hk : ∀ s n, Within (.ofPart (·.bus.history)) (host.receive s n)) :
    h'.bus.history = events.foldl History.record h.bus.history := by
  induction hr with
  | done => rfl
  | @event number line rest h h₁ h₂ h' e events read dispatched later ih =>
    obtain ⟨-, serial, rfl⟩ := eventOfLine_of_lineEvent read
    have hrecorded : h₂.bus.history = ({ h with serial }.observed e).bus.history :=
      allows_of_dispatchEvent (fun _ _ _ => rfl) hk dispatched hh.inOrder
    have hh₂ := allows_of_dispatchEvent Frame.immediate_openToBusLines hs dispatched hh.inOrder
      ⟨hh.inOrder, hh.stopped⟩
    rw [ih hh₂, hrecorded]
    rfl
  | skipped unread later ih =>
    obtain ⟨-, serial, rfl⟩ := eventOfLine_of_lineEvent unread
    exact ih ⟨hh.inOrder, hh.stopped⟩

/-- The lines of the part are the warnings, if the subscribers write none. -/
theorem log_of (hr : Replays host part lines h events h') (hh : h.Immediate) (hp : part ≠ busPart)
    (hk : ∀ s n, Within (.ofPart fun h => h.log.filter (·.part == part)) (host.receive s n)) :
    h'.log.filter (·.part == part) =
      ((unreadLines lines).map fun (n, fault) => skipWarning part n fault).reverse ++
        h.log.filter (·.part == part) := by
  have hunseen : (Frame.ofPart fun h : Hub α => h.log.filter (·.part == part)).OpenToBusLines :=
    fun h level text => List.filter_cons_of_neg (by simpa using hp.symm)
  induction hr with
  | done => rfl
  | @event number line rest h h₁ h₂ h' e events read dispatched later ih =>
    obtain ⟨⟨id, he⟩, serial, rfl⟩ := eventOfLine_of_lineEvent read
    have hlog :
        h₂.log.filter (·.part == part) = ({ h with serial }.observed e).log.filter (·.part == part) :=
      allows_of_dispatchEvent hunseen hk dispatched hh.inOrder
    have hh₂ := allows_of_dispatchEvent Frame.immediate_openToBusLines hs dispatched hh.inOrder
      ⟨hh.inOrder, hh.stopped⟩
    rw [ih hh₂, hlog]
    simp only [unreadLines, List.filterMap_cons, lineFault?_eq_none.2 ⟨_, he⟩, Option.map_none]
    rfl
  | skipped unread later ih =>
    obtain ⟨⟨id, he⟩, serial, rfl⟩ := eventOfLine_of_lineEvent unread
    rw [ih ⟨hh.inOrder, hh.stopped⟩]
    simp [unreadLines, lineFault?_eq_some.2 he, skipWarning]

end Kept

end Replays

/-! ## The events that are published -/

/-- A text is replayed on a bus that is not started, whatever the subscribers do but start the bus or take it
out of order: they may raise. Nothing is raised. The lines that hold an event are published in order, each once;
every other line that is not blank leaves a warning with its number; and the events are counted. The warnings
are all that the replay writes in its part of the log, up to the last line, and the events are what it adds
to the history, if the subscribers do not write there. -/
theorem replay_publishes (hs : ∀ s n, Within .immediate (host.receive s n)) {h : Hub α} (hh : h.Immediate)
    (part path text : String)
    (hj : ∀ l ∈ filledLines 1 (Text.fileLines text), ∀ fault, readLine l.2 = .error fault →
      fault.isA .value = true) :
    let lines := filledLines 1 (Text.fileLines text)
    ∃ events h', Replays host part lines h events h' ∧
      outcome (replay host part path text) h = (.ok events.length,
        { h' with log := ⟨.info, part, s!"Replayed {events.length} events from {path}"⟩ :: h'.log }) ∧
      List.Forall₂ (fun line e => eventOfLine e.id line = .ok e) (eventLines lines) events ∧
      events.length + (unreadLines lines).length = lines.length ∧
      (part ≠ busPart →
        (∀ s n, Within (.ofPart fun h => h.log.filter (·.part == part)) (host.receive s n)) →
        h'.log.filter (·.part == part) =
          ((unreadLines lines).map fun (n, fault) => skipWarning part n fault).reverse ++
            h.log.filter (·.part == part)) ∧
      ((∀ s n, Within (.ofPart (·.bus.history)) (host.receive s n)) →
        h'.bus.history = events.foldl History.record h.bus.history) := by
  intro lines
  obtain ⟨events, h', hrun, hr⟩ := replayLines_replays part hs hh hj
  refine ⟨events, h', hr, ?_, hr.events_of, hr.length_of, hr.log_of hs hh, hr.history_of hs hh⟩
  rw [replay, outcome_bind_ok hrun, outcome_bind_ok (outcome_log rfl part _ _)]
  rfl

theorem secondRaises_within (F : Frame (Logbook Unit)) (s : Subscriber) (n : Notice) :
    Within F (secondRaises s n) := by
  unfold secondRaises
  split
  · exact Within.throw _
  · exact Within.pure _

/-- An event, a line of blanks, a line that is no JSON, a list, and an event without anything. -/
def mixedText : String :=
  "\x7b\"type\":\"a\",\"source\":\"s\",\"timestamp\":\"2024-01-01\"\x7d\n \n\x7boops\n[1]\n\x7b\x7d\n"

/-- The lines of the text that are not blank. -/
def mixedLines : List (Nat × String) :=
  [(1, "\x7b\"type\":\"a\",\"source\":\"s\",\"timestamp\":\"2024-01-01\"\x7d"), (3, "\x7boops"), (4, "[1]"),
    (5, "\x7b\x7d")]

theorem filledLines_mixedText : filledLines 1 (Text.fileLines mixedText) = mixedLines := by decide +kernel

theorem length_unreadLines_mixedLines : (unreadLines mixedLines).length = 3 := by decide +kernel

/-- One line is an event, and three leave a warning. A subscriber raises. -/
theorem replay_publishes_mixed : ∃ (e : Event) (h' : Hub (Logbook Unit)),
    outcome (replay ⟨.raising, secondRaises⟩ programPart "day.jsonl" mixedText) (Hub.attended none) =
      (.ok 1, h') ∧
    h'.bus.history.events = [e] ∧
    h'.log.filter (·.part == programPart) =
      [⟨.info, programPart, "Replayed 1 events from day.jsonl"⟩, ⟨.warning, programPart,
          "Skipping replay line 5: Event missing required fields: type, source, timestamp"⟩,
        ⟨.warning, programPart, "Skipping replay line 4: Event must be a mapping, got list"⟩,
        ⟨.warning, programPart, "Skipping replay line 3: " ++
          "Expecting property name enclosed in double quotes: line 1 column 2 (char 1)"⟩] := by
  have hread : ∀ l ∈ mixedLines, (readLine l.2).isOk || (lineFault? l.2).any (·.isA .value) := by
    decide +kernel
  have hvalue : ∀ l ∈ filledLines 1 (Text.fileLines mixedText), ∀ fault,
      readLine l.2 = .error fault → fault.isA .value = true := by
    intro l hl fault hf
    rw [filledLines_mixedText] at hl
    simpa [hf, Except.isOk, Except.toBool, lineFault?_of_readLine hf] using hread l hl
  let host : Host (Logbook Unit) := ⟨.raising, secondRaises⟩
  have hs (s : Subscriber) (n : Notice) : Within .immediate (host.receive s n) := secondRaises_within _ s n
  have hh : (Hub.attended none).Immediate := ⟨rfl, rfl⟩
  obtain ⟨events, h', -, hrun, -, hcount, hlog, hhistory⟩ :=
    replay_publishes hs hh programPart "day.jsonl" mixedText hvalue
  rw [filledLines_mixedText] at hcount hlog
  rw [length_unreadLines_mixedLines] at hcount
  obtain ⟨e, rfl⟩ := List.length_eq_one_iff.1 (Nat.add_right_cancel (hcount : _ = 1 + 3))
  refine ⟨e, _, hrun, ?_, ?_⟩
  · dsimp only
    rw [hhistory (secondRaises_within _)]
    rfl
  · dsimp only
    rw [List.filter_cons_of_pos (by rfl), hlog (by decide) (secondRaises_within _), List.length_singleton]
    decide +kernel

end EventHub
