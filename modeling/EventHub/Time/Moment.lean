import EventHub.Time.Calendar

/-!
# Moments

A date and a time of day with microseconds, and perhaps an offset from universal time. A moment
is written in the extended ISO 8601 format, and read from that and the other calendar and week
formats.

* `Moment.text`: the written form.
* `Moment.parse?`: the reader; it takes any character between date and time.
* `Moment.instant`: the microseconds since the first day, a missing offset read as none.
-/

namespace EventHub.Time

/-- A time of day. -/
structure Clock where
  hour : Nat
  minute : Nat
  second : Nat
  micro : Nat
deriving DecidableEq, Repr

/-- A date with a time of day; the offset counts microseconds east of universal time. -/
structure Moment where
  year : Nat
  month : Nat
  day : Nat
  clock : Clock
  offset : Option Int
deriving DecidableEq, Repr

/-! ## Writing -/

/-- The number with leading zeros up to the given width. -/
def padded (width n : Nat) : List Char :=
  let ds := Nat.toDigits 10 n
  List.replicate (width - ds.length) '0' ++ ds

/-- An offset as sign, hours and minutes, with seconds and microseconds when there are any. -/
def offsetText (offset : Int) : List Char :=
  let total := offset.natAbs
  let micro := total % 1000000
  let seconds := total / 1000000
  let tail :=
    if micro != 0 then ':' :: padded 2 (seconds % 60) ++ '.' :: padded 6 micro
    else if seconds % 60 != 0 then ':' :: padded 2 (seconds % 60)
    else []
  (if offset < 0 then '-' else '+') ::
    (padded 2 (seconds / 3600) ++ ':' :: padded 2 (seconds / 60 % 60) ++ tail)

/-- A time of day, with microseconds when there are any. -/
def Clock.text (c : Clock) : List Char :=
  padded 2 c.hour ++ ':' :: padded 2 c.minute ++ ':' :: padded 2 c.second ++
    (if c.micro == 0 then [] else '.' :: padded 6 c.micro)

/-- The date. -/
def Moment.dateText (m : Moment) : List Char :=
  padded 4 m.year ++ '-' :: padded 2 m.month ++ '-' :: padded 2 m.day

/-- The moment with the given character between date and time. -/
def Moment.textWith (separator : Char) (m : Moment) : String :=
  String.ofList (m.dateText ++ separator :: m.clock.text ++
    (match m.offset with
      | none => []
      | some offset => offsetText offset))

/-- The moment in ISO 8601. -/
def Moment.text (m : Moment) : String := m.textWith 'T'

/-! ## Reading -/

/-- The value of an ASCII digit. -/
def asciiDigit? (c : Char) : Option Nat :=
  if '0' ≤ c && c ≤ '9' then some (c.toNat - 48) else none

/-- A number of exactly `n` ASCII digits, and the rest. -/
def takeDigits : Nat → Nat → List Char → Option (Nat × List Char)
  | 0, value, cs => some (value, cs)
  | _ + 1, _, [] => none
  | n + 1, value, c :: cs => (asciiDigit? c).bind fun d => takeDigits n (10 * value + d) cs

/-- What follows a pair of digits of a time of day. -/
inductive AfterPair
  | finished (leftover : Bool)
  | pair (rest : List Char)
  | fraction (rest : List Char)
  | malformed

/-- Classifies the text after a pair. A single last character is left over, and only a following
offset excuses it. -/
def afterPair (colons : Bool) : List Char → AfterPair
  | [] => .finished false
  | [c] => if c.toNat < 128 then .finished true else .malformed
  | c :: rest =>
    if colons && c == ':' then .pair rest
    else if c == '.' || c == ',' then .fraction rest
    else if colons then .malformed
    else .pair (c :: rest)

/-- A fraction of a second, cut to six digits: its microseconds, and whether text is left over. -/
def readFraction (cs : List Char) : Option (Nat × Bool) :=
  let n := min cs.length 6
  (takeDigits n 0 cs).map fun (value, rest) =>
    (value * Nat.pow 10 (6 - n), !(rest.dropWhile fun c => (asciiDigit? c).isSome).isEmpty)

/-- A time of day from hours alone up to microseconds, and whether text is left over. -/
def readClock (cs : List Char) : Option (Clock × Bool) := do
  let (hour, rest) ← takeDigits 2 0 cs
  let colons := rest.head? == some ':'
  let finish (minute second : Nat) (cs : List Char) : Option (Clock × Bool) :=
    (readFraction cs).map fun (micro, leftover) => (⟨hour, minute, second, micro⟩, leftover)
  match afterPair colons rest with
  | .malformed => none
  | .finished leftover => some (⟨hour, 0, 0, 0⟩, leftover)
  | .fraction rest => finish 0 0 rest
  | .pair rest => do
    let (minute, rest) ← takeDigits 2 0 rest
    match afterPair colons rest with
    | .malformed => none
    | .finished leftover => some (⟨hour, minute, 0, 0⟩, leftover)
    | .fraction rest => finish minute 0 rest
    | .pair rest => do
      let (second, rest) ← takeDigits 2 0 rest
      match afterPair colons rest with
      | .malformed => none
      | .finished leftover => some (⟨hour, minute, second, 0⟩, leftover)
      | .fraction rest | .pair rest => finish minute second rest

/-- Is the time one of a day? -/
def Clock.valid (c : Clock) : Bool :=
  c.hour < 24 && c.minute < 60 && c.second < 60 && c.micro < 1000000

/-- The microseconds of a time of day. -/
def Clock.micros (c : Clock) : Nat :=
  ((c.hour * 60 + c.minute) * 60 + c.second) * 1000000 + c.micro

/-- One day in microseconds. -/
def dayMicros : Nat := 86400000000

/-- A time of day with an optional offset; an offset below a second is none. -/
def readTime (cs : List Char) : Option (Clock × Option Int) := do
  let isSign := fun c => c == '+' || c == '-' || c == 'Z'
  let (clock, leftover) ← readClock (cs.takeWhile fun c => !isSign c)
  if !clock.valid then none
  else match cs.dropWhile fun c => !isSign c with
    | [] => if leftover then none else some (clock, none)
    | ['Z'] => some (clock, some 0)
    | 'Z' :: _ => none
    | sign :: rest => do
      let (shift, leftover) ← readClock rest
      if leftover || dayMicros ≤ shift.micros then none
      else
        let offset : Int := if shift.micros < 1000000 then 0 else shift.micros
        some (clock, some (if sign == '-' then -offset else offset))

/-- A calendar date or a week date; without a day the week starts on Monday. -/
def readDate (cs : List Char) : Option (Nat × Nat × Nat) := do
  let (year, rest) ← takeDigits 4 0 cs
  let dashes := rest.head? == some '-'
  let rest := if dashes then rest.drop 1 else rest
  match rest with
  | 'W' :: rest => do
    let (week, rest) ← takeDigits 2 0 rest
    match rest with
    | [] => dateOfWeek year week 1
    | _ =>
      if dashes && rest.head? != some '-' then none
      else do
        let (day, _) ← takeDigits 1 0 (if dashes then rest.drop 1 else rest)
        dateOfWeek year week day
  | _ => do
    let (month, rest) ← takeDigits 2 0 rest
    if dashes && rest.head? != some '-' then none
    else do
      let (day, rest) ← takeDigits 2 0 (if dashes then rest.drop 1 else rest)
      if rest.isEmpty && validDate year month day then some (year, month, day) else none

/-- Where the date ends, told from the characters after the year. -/
def dateLength (cs : List Char) : Option Nat :=
  let n := cs.length
  let isDigit := fun c => (asciiDigit? c).isSome
  if n == 7 then some 7
  else if cs[4]? == some '-' then
    if cs[5]? == some 'W' then
      if n < 8 then none
      else if 8 < n && cs[8]? == some '-' then
        if n == 9 then none
        else if 10 < n && (cs[10]?.map isDigit).getD false then some 8
        else some 10
      else some 8
    else some 10
  else if cs[4]? == some 'W' then
    let run := 7 + ((cs.drop 7).takeWhile isDigit).length
    if run < 9 then some run else if run % 2 == 0 then some 7 else some 8
  else some 8

/-- Reads a date, or a date and a time with any character between them. -/
def Moment.parseChars? (cs : List Char) : Option Moment := do
  if cs.length < 7 then none
  else do
    let n ← dateLength cs
    let (year, month, day) ← readDate (cs.take n)
    match cs.drop n with
    | [] => some ⟨year, month, day, ⟨0, 0, 0, 0⟩, none⟩
    | _ :: time => do
      let (clock, offset) ← readTime time
      some ⟨year, month, day, clock, offset⟩

/-- Reads a moment. -/
def Moment.parse? (s : String) : Option Moment := Moment.parseChars? s.toList

/-! ## Instants -/

/-- The microseconds of the date and time as they are written. -/
def Moment.localMicros (m : Moment) : Int :=
  (dayNumber m.year m.month m.day : Int) * dayMicros + m.clock.micros

/-- The point in universal time, a missing offset read as none. -/
def Moment.instant (m : Moment) : Int := m.localMicros - m.offset.getD 0

/-- A moment without an offset is given the offset of universal time. -/
def Moment.asUtc (m : Moment) : Moment :=
  match m.offset with
  | none => { m with offset := some 0 }
  | some _ => m

theorem Moment.instant_asUtc (m : Moment) : m.asUtc.instant = m.instant := by
  unfold Moment.asUtc
  split <;> simp_all [Moment.instant, Moment.localMicros]

/-- The time of day so many microseconds after midnight. -/
def Clock.ofMicros (n : Nat) : Clock :=
  ⟨n / 3600000000, n / 60000000 % 60, n / 1000000 % 60, n % 1000000⟩

theorem Clock.micros_ofMicros (n : Nat) : (Clock.ofMicros n).micros = n := by
  simp only [Clock.micros, Clock.ofMicros]; omega

/-- The moment of universal time at an instant. -/
def Moment.ofInstant (instant : Nat) : Moment :=
  let (year, month, day) := dateOfNumber (instant / dayMicros)
  { year, month, day, clock := .ofMicros (instant % dayMicros), offset := some 0 }

/-- The instants that lie in the years 1 to 9999. -/
def representable (instant : Int) : Bool :=
  (dayMicros : Int) ≤ instant && instant < (dayNumber 9999 12 31 + 1 : Int) * dayMicros

end EventHub.Time
