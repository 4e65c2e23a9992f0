import EventHub.Bus.Dispatch
import EventHub.Proofs.Frame.Receive
import EventHub.Proofs.Time.Calendar

/-!
# Clearing against queries by time

Clearing keeps what is later than the cutoff or has no time that can be read; a query for what came up to
the cutoff finds the rest. Both read every timestamp in the same way, so the two never disagree about an
event.

* **Spans of time** (`Event.Between`): when an event is found by a query for a span of time.
* `History.query_within`: such a query finds these events and no others.
* `History.clear_eq`: clearing takes out what a query up to the cutoff finds.
* `clearOldEvents_query`: clearing by age, against the query up to the moment that lies so far back.
-/

namespace EventHub

open EventHub.Task

variable {α : Type}

/-! ## Spans of time -/

/-- The query for all events in a span of time. -/
def HistoryQuery.within (since until_ : Option Time.Moment) : HistoryQuery :=
  ⟨none, none, since, until_, none⟩

/-- The timestamp can be read and lies in the span of time. Both ends belong to the span, and a time
without an offset is universal time. -/
def Event.Between (since until_ : Option Time.Moment) (e : Event) : Prop :=
  ∃ m, e.moment? = some m ∧ (∀ s, since = some s → s.asUtc.instant ≤ m.asUtc.instant) ∧
    ∀ u, until_ = some u → m.asUtc.instant ≤ u.asUtc.instant

namespace History

theorem inSpan_iff (since until_ : Option Time.Moment) (e : Event) :
    inSpan since until_ e = true ↔ e.Between since until_ := by
  unfold inSpan Event.Between
  cases e.moment? with
  | none => simp
  | some m =>
    simp only [Bool.and_eq_true, Option.all_eq_true, decide_eq_true_eq, Option.some.injEq,
      exists_eq_left', Time.Moment.instant_asUtc]

instance (since until_ : Option Time.Moment) : DecidablePred (Event.Between since until_) :=
  fun e => decidable_of_iff _ (inSpan_iff since until_ e)

/-- A query for a span of time that has an end finds the events of the span. -/
theorem query_within (h : History) {since until_ : Option Time.Moment}
    (hend : since.isSome ∨ until_.isSome) :
    h.query (.within since until_) = h.events.filter (·.Between since until_) := by
  have hnamed : (h.events.filter fun e => nameFits none e.type && nameFits none e.source) = h.events :=
    List.filter_eq_self.2 fun _ _ => rfl
  have hspan : inSpan since until_ = fun e => decide (e.Between since until_) :=
    funext fun e => by rw [Bool.eq_iff_iff, inSpan_iff, decide_eq_true_iff]
  rw [← hspan]
  simp only [query, HistoryQuery.within, hnamed, limited]
  split
  case h_1 => simp at hend
  case h_2 => rfl

/-- What clearing keeps is what came after the cutoff, and what has no time. -/
theorem recent_iff (cutoff : Time.Moment) (e : Event) :
    recent cutoff.instant e = true ↔ ¬ e.Between none (some cutoff) := by
  unfold recent Event.Between
  cases e.moment? with
  | none => simp
  | some m => simp [Time.Moment.instant_asUtc]

/-- Clearing takes out what the query up to the cutoff finds, and counts it. -/
theorem clear_eq (h : History) (cutoff : Time.Moment) : h.clear cutoff.instant =
    ((h.query (.within none (some cutoff))).length,
      { h with events := h.events.filter fun e => !decide (e.Between none (some cutoff)) }) := by
  have hkept : recent cutoff.instant = fun e => !decide (e.Between none (some cutoff)) :=
    funext fun e => by
      rw [Bool.eq_iff_iff, recent_iff, Bool.not_eq_true', decide_eq_false_iff_not]
  have hall := List.length_eq_length_filter_add (l := h.events)
    fun e => decide (e.Between none (some cutoff))
  rw [query_within h (.inr rfl)]
  simp only [clear, hkept]
  congr 1
  omega

/-- Clearing again finds nothing to take out. -/
theorem clear_again (h : History) (cutoff : Time.Moment) :
    (h.clear cutoff.instant).2.clear cutoff.instant = (0, (h.clear cutoff.instant).2) := by
  have hsame : (h.events.filter (recent cutoff.instant)).filter (recent cutoff.instant) =
      h.events.filter (recent cutoff.instant) := by
    rw [List.filter_filter]
    simp only [Bool.and_self]
  simp only [clear, hsame, Nat.sub_self]

end History

/-! ## The bus -/

/-- The hub with other events in the history and other lines in the log. -/
def Hub.holding (h : Hub α) (events : List Event) (lines : List LogLine) : Hub α :=
  { h with bus := { h.bus with history := { h.bus.history with events } }, log := lines }

/-- Clearing by age, where the age leads back to a cutoff. -/
theorem outcome_clearOldEvents {h : Hub α} {maxAge : Value} {cutoff : Int}
    (hcutoff : (do Time.instantBefore h.now (← Time.spanOf maxAge) : Except Fault Int) = .ok cutoff) :
    ∃ lines, outcome (clearOldEvents maxAge) h =
      (.ok (h.bus.history.clear cutoff).1, h.holding (h.bus.history.clear cutoff).2.events lines) := by
  rw [clearOldEvents, outcome_bind_ok (outcome_get h), hcutoff]
  dsimp only [Task.ofExcept]
  rw [outcome_bind_ok (outcome_pure _ h), modifyBus, outcome_bind_ok (outcome_modify _ _)]
  split
  · exact ⟨_, rfl⟩
  · exact ⟨h.log, rfl⟩

/-- Clearing by age that finds nothing to take out. -/
theorem outcome_clearOldEvents_none {h : Hub α} {maxAge : Value} {cutoff : Int}
    (hcutoff : (do Time.instantBefore h.now (← Time.spanOf maxAge) : Except Fault Int) = .ok cutoff)
    (hnone : h.bus.history.clear cutoff = (0, h.bus.history)) :
    outcome (clearOldEvents maxAge) h = (.ok 0, h) := by
  rw [clearOldEvents, outcome_bind_ok (outcome_get h), hcutoff]
  dsimp only [Task.ofExcept]
  rw [outcome_bind_ok (outcome_pure _ h), hnone]
  rfl

/-- An age in seconds that leads back to a date. -/
theorem cutoff_seconds {now : Time.Moment} {age : Int}
    (hnow : Time.representable now.localMicros = true)
    (hthen : Time.representable (now.localMicros - age * 1000000) = true) :
    (do Time.instantBefore now (← Time.spanOf (.int age)) : Except Fault Int) =
      .ok (now.earlier (age * 1000000)).instant := by
  rw [Time.spanOf_seconds hnow hthen]
  exact Time.instantBefore_earlier hthen

/-- So many seconds before the clock lies a moment with a date and a time of day. Clearing by age takes out
what the query up to that moment finds, and returns how many events that are; the others stay in their order,
and the same clearing again changes nothing. Any query for a span of time with an end finds the events of the
span in their order. -/
theorem clearOldEvents_query (h : Hub α) (age : Int)
    (hnow : Time.representable h.now.localMicros = true)
    (hthen : Time.representable (h.now.localMicros - age * 1000000) = true) :
    let cutoff := h.now.earlier (age * 1000000)
    (cutoff.instant = h.now.instant - age * 1000000 ∧
      Time.validDate cutoff.year cutoff.month cutoff.day = true ∧ cutoff.clock.valid = true) ∧
    (∃ old kept lines,
      h.bus.history.query (.within none (some cutoff)) = old ∧
      outcome (clearOldEvents (.int age)) h = (.ok old.length, h.holding kept lines) ∧
      (∃ isOld, h.bus.history.events.partition isOld = (old, kept)) ∧
      outcome (clearOldEvents (.int age)) (h.holding kept lines) = (.ok 0, h.holding kept lines)) ∧
    ∀ since until_, (since.isSome ∨ until_.isSome) →
      h.bus.history.query (.within since until_) = h.bus.history.events.filter (·.Between since until_) := by
  have hcutoff := cutoff_seconds hnow hthen
  refine ⟨⟨Time.Moment.instant_earlier hthen, Time.Moment.earlier_valid hthen⟩, ?_,
    fun since until_ => History.query_within _⟩
  generalize h.now.earlier (age * 1000000) = cutoff at hcutoff ⊢
  obtain ⟨lines, hfirst⟩ := outcome_clearOldEvents hcutoff
  refine ⟨_, (h.bus.history.clear cutoff.instant).2.events, lines, rfl, ?_,
    ⟨fun e => decide (e.Between none (some cutoff)), ?_⟩, ?_⟩
  · rw [hfirst, History.clear_eq]
  · rw [List.partition_eq_filter_filter, History.query_within _ (.inr Option.isSome_some),
      History.clear_eq]
    rfl
  · -- The clock has not moved, so the cutoff is the same, and nothing that stayed is older.
    exact outcome_clearOldEvents_none hcutoff (History.clear_again h.bus.history cutoff)

/-- An event that is known by its timestamp. -/
def Event.at (timestamp : String) : Event := ⟨timestamp, "motion", "cam", timestamp, [], []⟩

/-- One minute past midnight, with events from before midnight, from midnight and from after it, each
written in a way of its own, and one whose timestamp says no time. -/
def Hub.dated : Hub Unit :=
  { Hub.atMidnight () with
    now := ⟨2024, 1, 1, ⟨0, 1, 0, 0⟩, some 0⟩
    bus := { Bus.unbounded with history := { History.empty (some 5) with events :=
      [.at "2023-12-31T23:59:59", .at "2024-01-01T02:00:00+02:00", .at "2024-01-01T00:00:00.000001Z",
        .at "2024-01-01T01:59:59+02:00", .at "at night"] } } }

/-- Midnight belongs to what is cleared by an age of one minute, the microsecond after does not. -/
theorem clearOldEvents_query_minute :
    (Time.representable Hub.dated.now.localMicros = true ∧
      Time.representable (Hub.dated.now.localMicros - 60 * 1000000) = true) ∧
    (∃ kept lines, outcome (clearOldEvents (.int 60)) Hub.dated = (.ok 3, Hub.dated.holding kept lines)) ∧
    (Hub.dated.bus.history.query (.within none (some (Hub.dated.now.earlier (60 * 1000000))))).map (·.id) =
      ["2023-12-31T23:59:59", "2024-01-01T02:00:00+02:00", "2024-01-01T01:59:59+02:00"] := by
  have hnow : Time.representable Hub.dated.now.localMicros = true := by decide
  have hthen : Time.representable (Hub.dated.now.localMicros - 60 * 1000000) = true := by decide
  obtain ⟨-, ⟨old, kept, lines, hold, hrun, -, -⟩, -⟩ := clearOldEvents_query Hub.dated 60 hnow hthen
  have hlength : old.length = 3 := by rw [← hold]; decide +kernel
  rw [hlength] at hrun
  exact ⟨⟨hnow, hthen⟩, ⟨kept, lines, hrun⟩, by decide +kernel⟩

end EventHub
