import EventHub.Text.Digit
import EventHub.Time.Moment

/-!
# Windows of the day

A window runs from one minute of the day to another, both included. It may span midnight, and
a missing end leaves that side open.
-/

namespace EventHub.Time

/-- The minute of a time of day. -/
def Clock.minuteOfDay (c : Clock) : Nat := c.hour * 60 + c.minute

/-- The longest hour at the start of a text, and what follows it. -/
def readHour : List Char → Option (Nat × List Char)
  | '2' :: c :: rest =>
    if '0' ≤ c && c ≤ '3' then some (20 + (c.toNat - 48), rest) else some (2, c :: rest)
  | a :: b :: rest =>
    match a == '0' || a == '1', Text.digitValue? b with
    | true, some d => some ((a.toNat - 48) * 10 + d, rest)
    | _, _ => (Text.digitValue? a).map fun d => (d, b :: rest)
  | [a] => (Text.digitValue? a).map fun d => (d, [])
  | [] => none

/-- The longest minute at the start of a text, and what follows it. -/
def readMinute : List Char → Option (Nat × List Char)
  | a :: b :: rest =>
    match '0' ≤ a && a ≤ '5', Text.digitValue? b with
    | true, some d => some ((a.toNat - 48) * 10 + d, rest)
    | _, _ => (Text.digitValue? a).map fun d => (d, b :: rest)
  | [a] => (Text.digitValue? a).map fun d => (d, [])
  | [] => none

/-- Reads hours and minutes of one or two digits with a colon between them: the minute of the
day. -/
def readDayMinute (s : String) : Option Nat :=
  match readHour s.toList with
  | some (hour, ':' :: rest) =>
    match readMinute rest with
    | some (minute, []) => some (hour * 60 + minute)
    | _ => none
  | _ => none

/-- Does the window hold the minute? -/
def windowHolds (start? end? : Option Nat) (minute : Nat) : Bool :=
  match start?, end? with
  | none, none => true
  | none, some e => minute ≤ e
  | some s, none => s ≤ minute
  | some s, some e =>
    if s ≤ e then s ≤ minute && minute ≤ e else s ≤ minute || minute ≤ e

end EventHub.Time
