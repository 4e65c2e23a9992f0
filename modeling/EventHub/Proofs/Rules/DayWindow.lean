import EventHub.Proofs.Rules.Judgement
import EventHub.Proofs.Time.RoundTrip

/-!
# Windows around the clock

A window of the day holds what lies no further behind its start than its end does, counted around the clock.

* **Minutes** (`readDayMinute_dayText`, `readDayMinute_lt`): every minute of the day has a text that is read
  as it, and nothing is read as any other number.
* **Moments** (`Moment.valid_of_parseChars?`): a moment that is read has the time of a day.
* **Windows** (`windowHolds_eq`, `windowHolds_rest`): a window is an arc of the clock, and the rest of the
  clock is the window from the minute after its end to the minute before its start.
* `TimeRange.holds_aroundTheClock`: which windows hold the time of an event.
-/

namespace EventHub

namespace Time

/-! ## Minutes -/

/-- A minute of the day in hours and minutes of two digits each. -/
def dayText (n : Nat) : String := String.ofList (padded 2 (n / 60) ++ ':' :: padded 2 (n % 60))

theorem readHour_padded {hour : Nat} (h : hour < 24) (rest : List Char) :
    readHour (padded 2 hour ++ rest) = some (hour, rest) := by
  have hpair : ∀ hour < 24, padded 2 hour = [Nat.digitChar (hour / 10), Nat.digitChar (hour % 10)] := by
    decide
  -- a second digit up to three is read behind a two, and any digit behind a zero or a one
  have hvalue : ∀ hour < 24,
      if Nat.digitChar (hour / 10) = '2' then
        ('0' ≤ Nat.digitChar (hour % 10) ∧ Nat.digitChar (hour % 10) ≤ '3') ∧
          20 + ((Nat.digitChar (hour % 10)).toNat - 48) = hour
      else (Nat.digitChar (hour / 10) == '0' || Nat.digitChar (hour / 10) == '1') = true ∧
        (Text.digitValue? (Nat.digitChar (hour % 10))).map
          (((Nat.digitChar (hour / 10)).toNat - 48) * 10 + ·) = some hour := by
    decide +kernel
  have hvalue := hvalue hour h
  rw [hpair hour h, List.cons_append, List.cons_append, List.nil_append]
  generalize Nat.digitChar (hour / 10) = a at hvalue
  generalize Nat.digitChar (hour % 10) = b at hvalue
  split at hvalue
  · rename_i ha
    subst ha
    simp [readHour, hvalue]
  · obtain ⟨hteen, hvalue⟩ := hvalue
    obtain ⟨d, hd, rfl⟩ := Option.map_eq_some_iff.1 hvalue
    simp [readHour, hteen, hd]

theorem readDayMinute_dayText {n : Nat} (h : n < 1440) : readDayMinute (dayText n) = some n := by
  have hhour : n / 60 < 24 := by omega
  have hminute : ∀ m < 60, readMinute (padded 2 m) = some (m, []) := by decide +kernel
  simp only [readDayMinute, dayText, String.toList_ofList, readHour_padded hhour,
    hminute _ (Nat.mod_lt n (by decide))]
  congr 1
  omega

theorem lt_of_digitValue? {c : Char} {cs rest : List Char} {n : Nat}
    (h : (Text.digitValue? c).map (fun d => (d, cs)) = some (n, rest)) : n < 10 := by
  obtain ⟨d, hd, heq⟩ := Option.map_eq_some_iff.1 h
  cases heq
  exact Text.digitValue?_lt hd

theorem toNat_le_of_le {c d : Char} (h : decide (c ≤ d) = true) : c.toNat ≤ d.toNat :=
  UInt32.le_iff_toNat_le.1 (of_decide_eq_true h)

theorem readHour_lt {cs rest : List Char} {hour : Nat} (h : readHour cs = some (hour, rest)) :
    hour < 24 := by
  unfold readHour at h
  split at h
  · split at h
    · rename_i hrange
      have hdigit := toNat_le_of_le (Bool.and_eq_true_iff.1 hrange).2
      have hthree : '3'.toNat = 51 := rfl
      cases h
      omega
    · cases h
      decide
  · split at h
    · rename_i hteen hvalue
      have hdigit := Text.digitValue?_lt hvalue
      have hzero : '0'.toNat = 48 := rfl
      have hone : '1'.toNat = 49 := rfl
      cases h
      obtain rfl | rfl : _ = '0' ∨ _ = '1' := by simpa using hteen
      · omega
      · omega
    · exact (lt_of_digitValue? h).trans (by decide)
  · exact (lt_of_digitValue? h).trans (by decide)
  · cases h

theorem readMinute_lt {cs rest : List Char} {minute : Nat} (h : readMinute cs = some (minute, rest)) :
    minute < 60 := by
  unfold readMinute at h
  split at h
  · split at h
    · rename_i hrange hvalue
      have htens := toNat_le_of_le (Bool.and_eq_true_iff.1 hrange).2
      have hfive : '5'.toNat = 53 := rfl
      have hdigit := Text.digitValue?_lt hvalue
      cases h
      omega
    · exact (lt_of_digitValue? h).trans (by decide)
  · exact (lt_of_digitValue? h).trans (by decide)
  · cases h

theorem readDayMinute_lt {s : String} {n : Nat} (h : readDayMinute s = some n) : n < 1440 := by
  unfold readDayMinute at h
  split at h
  · rename_i hour rest hhour
    have hlast := readHour_lt hhour
    split at h
    · rename_i minute hminute
      have hlast := readMinute_lt hminute
      cases h
      omega
    · cases h
  · cases h

/-! ## Moments -/

theorem valid_of_readTime {cs : List Char} {c : Clock} {offset : Option Int}
    (h : readTime cs = some (c, offset)) : c.valid = true := by
  simp only [readTime, bind, Option.bind_eq_some_iff] at h
  obtain ⟨⟨clock, leftover⟩, -, h⟩ := h
  split at h
  · cases h
  · rename_i hvalid
    -- an offset, or none, is read behind the time and leaves it as it is
    suffices hclock : clock = c by simpa [hclock] using hvalid
    split at h
    · split at h <;> cases h
      rfl
    · cases h
      rfl
    · cases h
    · obtain ⟨shift, -, h⟩ := Option.bind_eq_some_iff.1 h
      split at h <;> cases h
      rfl

theorem Moment.valid_of_parseChars? {cs : List Char} {m : Moment} (h : Moment.parseChars? cs = some m) :
    m.clock.valid = true := by
  unfold Moment.parseChars? at h
  split at h
  · cases h
  · simp only [bind, Option.bind_eq_some_iff] at h
    obtain ⟨n, -, date, -, h⟩ := h
    split at h
    · cases h
      rfl
    · obtain ⟨⟨clock, offset⟩, htime, h⟩ := Option.bind_eq_some_iff.1 h
      cases h
      exact valid_of_readTime htime

theorem Clock.minuteOfDay_lt {c : Clock} (hc : c.valid = true) : c.minuteOfDay < 1440 := by
  simp only [Clock.valid, Bool.and_eq_true, decide_eq_true_eq] at hc
  rw [Clock.minuteOfDay]
  omega

/-! ## Windows -/

section Windows

variable {s e m : Nat} (hs : s < 1440) (he : e < 1440) (hm : m < 1440)
include hs he hm

theorem windowHolds_eq : windowHolds (some s) (some e) m =
    decide (((m : Int) - s) % 1440 ≤ ((e : Int) - s) % 1440) := by
  unfold windowHolds
  dsimp only
  split
  · rw [Bool.eq_iff_iff]
    simp only [Bool.and_eq_true, decide_eq_true_eq]
    omega
  · rw [Bool.eq_iff_iff]
    simp only [Bool.or_eq_true, decide_eq_true_eq]
    omega

/-- The window from behind the end up to before the start holds what the window does not, unless nothing
lies there: then both hold all minutes. -/
theorem windowHolds_rest :
    windowHolds (some ((e + 1) % 1440)) (some ((s + 1439) % 1440)) m =
      (decide ((e + 1) % 1440 = s) || !windowHolds (some s) (some e) m) := by
  rw [windowHolds_eq (by omega) (by omega) hm, windowHolds_eq hs he hm, Bool.eq_iff_iff]
  simp only [decide_eq_true_eq, Bool.or_eq_true, Bool.not_eq_true', decide_eq_false_iff_not]
  omega

end Windows

end Time

/-! ## Events -/

open Time

theorem Event.minuteOfDay_lt {e : Event} {m : Moment} (h : e.moment? = some m) :
    m.clock.minuteOfDay < 1440 := Clock.minuteOfDay_lt (Moment.valid_of_parseChars? h)

theorem dayMinute?_of_read {s : String} {n : Nat} (h : readDayMinute s = some n) :
    dayMinute? (some s) = .ok (some n) := by
  have hne : s.isEmpty = false := by
    rw [Bool.eq_false_iff]
    intro hempty
    rw [String.isEmpty_iff.1 hempty] at h
    cases h
  simp only [dayMinute?, hne, Bool.false_eq_true, ↓reduceIte, h]

/-- The end of a window is not given, or empty. -/
def IsOpenEnd (s? : Option String) : Prop := s?.getD "" = ""

theorem dayMinute?_of_isOpenEnd {s? : Option String} (h : IsOpenEnd s?) : dayMinute? s? = .ok none := by
  cases s? with
  | none => rfl
  | some s =>
    obtain rfl : s = "" := h
    rfl

/-- The window between the ends, once they are read. -/
theorem TimeRange.holds_eq {start stop : Option String} {s t : Option Nat} {e : Event} {m : Moment}
    (hm : e.moment? = some m) (hs : dayMinute? start = .ok s) (ht : dayMinute? stop = .ok t) :
    TimeRange.holds ⟨start, stop⟩ e = .ok (windowHolds s t m.clock.minuteOfDay) := by
  simp only [TimeRange.holds, hm, hs, ht]
  rfl

/-- Conditions of a window alone. -/
def RuleConditions.during (window : TimeRange) : RuleConditions := ⟨none, none, none, some window, none⟩

theorem RuleConditions.matchesEvent_during (ask : String → Value → Except Fault Value)
    (window : TimeRange) (e : Event) : (during window).matchesEvent ask e = window.holds e := by
  rw [matchesEvent_eq]
  change (window.holds e >>= fun holds => if holds then .ok true else .ok false) = _
  cases window.holds e with
  | error fault => rfl
  | ok holds => cases holds <;> rfl

/-- Which windows hold a minute of the day: a window between two times is an arc of the clock, and an open
end leaves its side of the day open. -/
structure AroundTheClock (holds : TimeRange → Except Fault Bool) (minute : Nat) : Prop where
  /-- The minute is held if it is no further behind the start than the end is. -/
  arc {start stop : String} {s t : Nat} (hs : readDayMinute start = some s)
    (ht : readDayMinute stop = some t) : holds ⟨some start, some stop⟩ =
      .ok (decide (((minute : Int) - s) % 1440 ≤ ((t : Int) - s) % 1440))
  /-- The window from behind the end up to before the start holds it if the window does not, unless
  nothing lies there. -/
  rest {start stop behind before : String} {s t : Nat} (hs : readDayMinute start = some s)
    (ht : readDayMinute stop = some t) (hbehind : readDayMinute behind = some ((t + 1) % 1440))
    (hbefore : readDayMinute before = some ((s + 1439) % 1440)) :
    ∃ held, holds ⟨some start, some stop⟩ = .ok held ∧
      holds ⟨some behind, some before⟩ = .ok (decide ((t + 1) % 1440 = s) || !held)
  since {start : String} {stop : Option String} {s : Nat} (hs : readDayMinute start = some s)
    (ht : IsOpenEnd stop) : holds ⟨some start, stop⟩ = .ok (decide (s ≤ minute))
  upTo {start : Option String} {stop : String} {t : Nat} (hs : IsOpenEnd start)
    (ht : readDayMinute stop = some t) : holds ⟨start, some stop⟩ = .ok (decide (minute ≤ t))
  always {start stop : Option String} (hs : IsOpenEnd start) (ht : IsOpenEnd stop) :
    holds ⟨start, stop⟩ = .ok true

theorem TimeRange.aroundTheClock {e : Event} {m : Moment} (hm : e.moment? = some m) :
    AroundTheClock (TimeRange.holds · e) m.clock.minuteOfDay where
  arc hs ht := by
    rw [holds_eq hm (dayMinute?_of_read hs) (dayMinute?_of_read ht),
      windowHolds_eq (readDayMinute_lt hs) (readDayMinute_lt ht) (e.minuteOfDay_lt hm)]
  rest hs ht hbehind hbefore := by
    refine ⟨_, holds_eq hm (dayMinute?_of_read hs) (dayMinute?_of_read ht), ?_⟩
    rw [holds_eq hm (dayMinute?_of_read hbehind) (dayMinute?_of_read hbefore),
      windowHolds_rest (readDayMinute_lt hs) (readDayMinute_lt ht) (e.minuteOfDay_lt hm)]
  since hs ht := holds_eq hm (dayMinute?_of_read hs) (dayMinute?_of_isOpenEnd ht)
  upTo hs ht := holds_eq hm (dayMinute?_of_isOpenEnd hs) (dayMinute?_of_read ht)
  always hs ht := holds_eq hm (dayMinute?_of_isOpenEnd hs) (dayMinute?_of_isOpenEnd ht)

/-- The times of day are the minutes below 1440. An event matches a window around the clock, at the minute
that its timestamp has where it was written, and one whose timestamp cannot be read matches no window. -/
theorem TimeRange.holds_aroundTheClock (ask : String → Value → Except Fault Value) (e : Event) :
    (∀ n, n < 1440 ↔ ∃ s, readDayMinute s = some n) ∧
    (∀ m, e.moment? = some m → m.clock.minuteOfDay < 1440 ∧
      AroundTheClock (fun window => matchesEvent ask (some (.during window)) e) m.clock.minuteOfDay) ∧
    (e.moment? = none → ∀ window, matchesEvent ask (some (.during window)) e = .ok false) := by
  have hjudge : (fun window => matchesEvent ask (some (.during window)) e) = (TimeRange.holds · e) :=
    funext fun window => RuleConditions.matchesEvent_during ask window e
  refine ⟨fun n => ⟨fun h => ⟨dayText n, readDayMinute_dayText h⟩, fun ⟨_, h⟩ => readDayMinute_lt h⟩,
    fun m hm => ⟨e.minuteOfDay_lt hm, ?_⟩, fun hm window => ?_⟩
  · rw [hjudge]
    exact TimeRange.aroundTheClock hm
  · rw [congrFun hjudge window, TimeRange.holds, hm]

/-- An event without data. -/
def eventAt (timestamp : String) : Event := ⟨"e1", "seen", "probe", timestamp, [], []⟩

/-- Does an event of the timestamp match the window, where functions give what they are given? -/
def judgeAt (timestamp : String) (window : TimeRange) : Except Fault Bool :=
  matchesEvent (fun _ v => .ok v) (some (.during window)) (eventAt timestamp)

/-- A window over midnight holds an event at half past eleven, wherever its clock is, and the rest of the day
does not; an event of no time is in neither. -/
theorem TimeRange.holds_aroundTheClock_night :
    judgeAt "2024-01-01T23:30:45+05:00" ⟨some "22:00", some "06:00"⟩ = .ok true ∧
    judgeAt "2024-01-01T23:30:45+05:00" ⟨some "06:01", some "21:59"⟩ = .ok false ∧
    judgeAt "2024-01-01T23:30:45+05:00" ⟨some "22:00", none⟩ = .ok true ∧
    judgeAt "tonight" ⟨some "22:00", some "06:00"⟩ = .ok false := by
  have hm : (eventAt "2024-01-01T23:30:45+05:00").moment? =
      some ⟨2024, 1, 1, ⟨23, 30, 45, 0⟩, some 18000000000⟩ := by decide +kernel
  have hclock := ((TimeRange.holds_aroundTheClock (fun _ v => .ok v) _).2.1 _ hm).2
  have hnone : (eventAt "tonight").moment? = none := by decide +kernel
  refine ⟨?_, ?_, ?_, (TimeRange.holds_aroundTheClock (fun _ v => .ok v) _).2.2 hnone _⟩
  · exact hclock.arc (s := 1320) (t := 360) (by decide +kernel) (by decide +kernel)
  · exact hclock.arc (s := 361) (t := 1319) (by decide +kernel) (by decide +kernel)
  · exact hclock.since (s := 1320) (by decide +kernel) rfl

end EventHub
