import EventHub.Record.Event
import EventHub.Record.Rule
import EventHub.Time.DayWindow
import EventHub.Value.Compare
import EventHub.Value.Path

/-!
# Matching events with conditions

All clauses that the conditions of a rule name have to hold; a rule without conditions matches
every event. Clauses are tried in a fixed order, and the first that does not hold ends the trial.

* `RuleConditions.matchesEvent`: the trial.
-/

namespace EventHub

/-- Is the name one of those wanted? No names want every name. -/
def amongNames (wanted : List String) (name : String) : Bool :=
  wanted.isEmpty || wanted.contains name

/-- An end of a window of the day; an empty text leaves that side open. -/
def dayMinute? : Option String → Except Fault (Option Nat)
  | none => .ok none
  | some s =>
    if s.isEmpty then .ok none
    else match Time.readDayMinute s with
      | some minute => .ok (some minute)
      | none => .error (.definition (.dayTime s))

/-- Is the time of the event in the window? An event whose time cannot be read is in none. -/
def TimeRange.holds (window : TimeRange) (e : Event) : Except Fault Bool :=
  match e.moment? with
  | none => .ok false
  | some m => do
    let start ← dayMinute? window.start
    let «end» ← dayMinute? window.end
    .ok (Time.windowHolds start «end» m.clock.minuteOfDay)

/-- Has the data the expected value at every path? -/
def dataMatches (data : Value) : Fields → Except Fault Bool
  | [] => .ok true
  | (path, expected) :: rest => do
    match ← data.lookup path with
    | none => .ok false
    | some found => if found.same expected then dataMatches data rest else .ok false

/-- Does the function of the application, if there is one, take the event? -/
def customHolds (ask : String → Value → Except Fault Value) (e : Event) :
    Option String → Except Fault Bool
  | none => .ok true
  | some f => do .ok (← ask f e.toValue).truthy

/-- Do all clauses hold of the event? `ask` calls a function of the application. -/
def RuleConditions.matchesEvent (ask : String → Value → Except Fault Value) (c : RuleConditions)
    (e : Event) : Except Fault Bool := do
  if !amongNames c.eventTypes e.type then .ok false
  else if !amongNames c.sources e.source then .ok false
  else if !(← match c.timeRange with
      | some window => window.holds e
      | none => .ok true) then .ok false
  else if !(← dataMatches (.map e.data) (c.data.getD [])) then .ok false
  else customHolds ask e c.custom

/-- Does the event match the conditions, if there are any? -/
def matchesEvent (ask : String → Value → Except Fault Value) (c : Option RuleConditions)
    (e : Event) : Except Fault Bool :=
  match c with
  | none => .ok true
  | some c => c.matchesEvent ask e

end EventHub
