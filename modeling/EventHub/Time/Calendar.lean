/-!
# The proleptic Gregorian calendar

Days are counted from the first of January of the year 1, which is day 1 and a Monday.

* `daysInMonth_le`: no month has more than 31.
-/

namespace EventHub.Time

/-- Is the year a leap year? -/
def isLeap (year : Nat) : Bool :=
  year % 4 == 0 && (year % 100 != 0 || year % 400 == 0)

/-- The length of a month. -/
def daysInMonth (year month : Nat) : Nat :=
  if month == 2 then if isLeap year then 29 else 28
  else if month == 4 || month == 6 || month == 9 || month == 11 then 30
  else 31

theorem daysInMonth_le (year month : Nat) : daysInMonth year month ≤ 31 := by
  unfold daysInMonth; split <;> (try split) <;> omega

/-- The days of the years before the given one. -/
def daysBeforeYear (year : Nat) : Nat :=
  let y := year - 1
  y * 365 + y / 4 - y / 100 + y / 400

/-- The days of the months of a year before the given one. -/
def daysBeforeMonth (year month : Nat) : Nat :=
  (List.range (month - 1)).foldl (fun days m => days + daysInMonth year (m + 1)) 0

/-- The number of the day in the count. -/
def dayNumber (year month day : Nat) : Nat :=
  daysBeforeYear year + daysBeforeMonth year month + day

/-- The weekday of a day number, Monday being 0. -/
def weekday (number : Nat) : Nat := (number + 6) % 7

/-- The month and day of the `n`-th day of a year, counted from 1, from the given month on. -/
def monthDay (year : Nat) : Nat → Nat → Nat → Nat × Nat
  | 0, month, n => (month, n)
  | fuel + 1, month, n =>
    if n ≤ daysInMonth year month then (month, n)
    else monthDay year fuel (month + 1) (n - daysInMonth year month)

/-- The date of a day number: year, month and day. -/
def dateOfNumber (number : Nat) : Nat × Nat × Nat :=
  let guess := number * 400 / 146097 + 1
  let year := if number ≤ daysBeforeYear guess then guess - 1
    else if daysBeforeYear (guess + 1) < number then guess + 1 else guess
  let (month, day) := monthDay year 12 1 (number - daysBeforeYear year)
  (year, month, day)

/-- Is this a date of the years 1 to 9999? -/
def validDate (year month day : Nat) : Bool :=
  1 ≤ year && year ≤ 9999 && 1 ≤ month && month ≤ 12 && 1 ≤ day && day ≤ daysInMonth year month

/-- The day number of the Monday of the first week of a year: the week that holds its first
Thursday. It may lie in the year before. -/
def firstMonday (year : Nat) : Int :=
  let first := dayNumber year 1 1
  let shift := weekday first
  if shift ≤ 3 then (first : Int) - shift else (first : Int) + 7 - shift

/-- Does the year have 53 weeks? -/
def hasWeek53 (year : Nat) : Bool :=
  let first := weekday (dayNumber year 1 1)
  first == 3 || (first == 2 && isLeap year)

/-- The date of a day of a week of a year, when there is one. -/
def dateOfWeek (year week day : Nat) : Option (Nat × Nat × Nat) :=
  if year == 0 || week == 0 || 53 < week || (week == 53 && !hasWeek53 year) || day == 0 || 7 < day
  then none
  else
    let number := firstMonday year + ((week - 1) * 7 + day - 1 : Nat)
    if number < 1 then none else some (dateOfNumber number.toNat)

end EventHub.Time
