import EventHub.Fault
import EventHub.Time.Moment

/-!
# Spans of time

A number of seconds as microseconds, and how far back a span reaches.

* `spanOf`: the microseconds of a number of seconds.
* `instantBefore`: how far back a span reaches.
-/

namespace EventHub.Time

/-- The microseconds of a binary64 number of seconds; whole and fractional seconds are converted
on their own. -/
def floatSpan (x : Float) : Except Fault Int :=
  match Number.Magnitude.ofFloat x with
  | .nan => .error (.value .nanToInt)
  | .negInfinity | .posInfinity => .error .infiniteToInt
  | .finite d =>
    let whole := d.truncate
    let fraction := x - Number.ofDecimal (whole < 0) whole.natAbs 0
    match Number.Magnitude.ofFloat (fraction * 1000000) with
    | .finite micros => .ok (whole * 1000000 + micros.nearest)
    | _ => .ok (whole * 1000000)

/-- The most days of a span. -/
def maxSpanDays : Nat := 999999999

/-- One more than the greatest count of days, which has 32 bits with its sign. -/
def dayCountLimit : Int := 2147483648

/-- The fault of a span that has too many days. -/
def tooManyDays (days : Int) : Fault :=
  if days < -dayCountLimit || dayCountLimit ≤ days then
    .raised .overflow "Python int too large to convert to C int"
  else .raised .overflow s!"days={Number.intText days}; must have magnitude <= {maxSpanDays}"

/-- The microseconds of a number of seconds. -/
def spanOf (seconds : Value) : Except Fault Int := do
  let micros : Int ← match seconds with
    | .int n => .ok (n * 1000000)
    | .bool b => .ok (if b then 1000000 else 0)
    | .float x => floatSpan x
    | .nan _ => .error (.value .nanToInt)
    | v => .error (.raised .type s!"unsupported type for timedelta seconds component: {v.typeName}")
  let days := micros.fdiv dayMicros
  if days.natAbs ≤ maxSpanDays then .ok micros else .error (tooManyDays days)

/-- The instant that lies a span before a moment. -/
def instantBefore (m : Moment) (micros : Int) : Except Fault Int :=
  let written := m.localMicros - micros
  if representable written then .ok (m.instant - micros)
  else .error (.raised .overflow "date value out of range")

end EventHub.Time
