import EventHub.Record.Event

/-!
# The history of events

The latest events, up to a capacity, and counts of all events ever recorded.

* `History.record`: a new event pushes out the oldest beyond the capacity.
* `History.length_record_le`: the capacity is kept.
* `History.query`: the events of a type, a source and a span of time.
* `History.clear`: takes out the events that are too old.
-/

namespace EventHub

/-- The latest events, oldest first, and counts of all. No capacity means no bound. -/
structure History where
  capacity : Option Nat
  events : List Event
  total : Nat
  byType : List (String × Nat)
  bySource : List (String × Nat)
  lastTime : Option String
deriving Inhabited

/-- Counts a key once more. -/
def countUp (counts : List (String × Nat)) (key : String) : List (String × Nat) :=
  Assoc.put counts key ((Assoc.get? counts key).getD 0 + 1)

/-- The last `n` items. -/
def lastItems {α : Type} (n : Nat) (items : List α) : List α := items.drop (items.length - n)

theorem length_lastItems_le {α : Type} (n : Nat) (items : List α) :
    (lastItems n items).length ≤ n := by
  simp only [lastItems, List.length_drop]; omega

/-- What a query of the history asks for. -/
structure HistoryQuery where
  type : Option String
  source : Option String
  since : Option Time.Moment
  until_ : Option Time.Moment
  limit : Option Int

namespace History

/-- An empty history. -/
def empty (capacity : Option Nat) : History := ⟨capacity, [], 0, [], [], none⟩

/-- Cuts the events to the capacity. -/
def fit (capacity : Option Nat) (events : List Event) : List Event :=
  match capacity with
  | none => events
  | some n => lastItems n events

/-- Records an event. -/
def record (h : History) (e : Event) : History :=
  { h with
    events := fit h.capacity (h.events ++ [e])
    total := h.total + 1
    byType := countUp h.byType e.type
    bySource := countUp h.bySource e.source
    lastTime := some e.timestamp }

theorem length_record_le {h : History} {n : Nat} (hc : h.capacity = some n) (e : Event) :
    (h.record e).events.length ≤ n := by
  simp only [record, fit, hc]
  exact length_lastItems_le n _

/-- Is the event in the span of time? Both ends belong to it, and a missing offset means universal
time. An event whose time cannot be read is in no span. -/
def inSpan (since until_ : Option Time.Moment) (e : Event) : Bool :=
  match e.moment? with
  | none => false
  | some m =>
    (since.all fun s => decide (s.instant ≤ m.instant)) &&
    (until_.all fun u => decide (m.instant ≤ u.instant))

/-- The last events up to a limit; a negative limit leaves out so many of the first, and zero
means no limit. -/
def limited (limit : Option Int) (events : List Event) : List Event :=
  match limit with
  | none => events
  | some n =>
    if n == 0 then events
    else if 0 < n then lastItems n.toNat events
    else events.drop n.natAbs

/-- Is the name absent or empty, or equal to the given one? -/
def nameFits (wanted : Option String) (name : String) : Bool :=
  match wanted with
  | none => true
  | some w => w.isEmpty || w == name

/-- The events that a query asks for, oldest first. -/
def query (h : History) (q : HistoryQuery) : List Event :=
  let named := h.events.filter fun e => nameFits q.type e.type && nameFits q.source e.source
  let timed := match q.since, q.until_ with
    | none, none => named
    | since, until_ => named.filter (inSpan since until_)
  limited q.limit timed

/-- Is the event later than the cutoff, or its time unknown? -/
def recent (cutoff : Int) (e : Event) : Bool :=
  match e.moment? with
  | none => true
  | some m => decide (cutoff < m.instant)

/-- Takes out the events that are not later than the cutoff and counts them. -/
def clear (h : History) (cutoff : Int) : Nat × History :=
  let kept := h.events.filter (recent cutoff)
  (h.events.length - kept.length, { h with events := kept })

end History

end EventHub
