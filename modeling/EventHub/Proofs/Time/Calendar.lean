import EventHub.Time.Span
import Mathlib.Tactic.ByContra

/-!
# Days and moments, there and back

The number of a day determines its date, so a moment can be moved back by a span of time.

* `dayNumber_dateOfNumber`: the date of a day number has that number.
* `validDate_dateOfNumber`: it is a date of the years 1 to 9999 when the number is one of theirs.
* `Moment.earlier`: the moment that lies a span before another, with the same offset.
* `instantBefore_earlier`: what reaches so far back is the instant of that moment.
* `spanOf_seconds`: the seconds between two dates are a span.
-/

namespace EventHub.Time

/-! ## Years -/

/-- The year of a day number is the guessed one or a neighbour of it. -/
theorem daysBeforeYear_guess {n : Nat} (hn : 1 ≤ n) :
    daysBeforeYear (n * 400 / 146097) < n ∧ n ≤ daysBeforeYear (n * 400 / 146097 + 3) := by
  simp only [daysBeforeYear]
  constructor <;> omega

/-- The year of a day number. -/
def yearOfNumber (n : Nat) : Nat :=
  let guess := n * 400 / 146097 + 1
  if n ≤ daysBeforeYear guess then guess - 1
  else if daysBeforeYear (guess + 1) < n then guess + 1 else guess

theorem yearOfNumber_spec {n : Nat} (hn : 1 ≤ n) :
    daysBeforeYear (yearOfNumber n) < n ∧ n ≤ daysBeforeYear (yearOfNumber n + 1) := by
  obtain ⟨hlow, hhigh⟩ := daysBeforeYear_guess hn
  simp only [yearOfNumber]
  generalize n * 400 / 146097 = guess at hlow hhigh ⊢
  split
  case isTrue hbefore => exact ⟨hlow, hbefore⟩
  case isFalse hafter =>
    split
    case isTrue hlate => exact ⟨hlate, hhigh⟩
    case isFalse hearly => exact ⟨by omega, by omega⟩

/-- A year has its 365 days and the leap day. -/
theorem daysBeforeYear_succ {y : Nat} (hy : 1 ≤ y) :
    daysBeforeYear (y + 1) = daysBeforeYear y + if isLeap y then 366 else 365 := by
  obtain ⟨z, rfl⟩ : ∃ z, y = z + 1 := ⟨y - 1, by omega⟩
  simp only [daysBeforeYear, isLeap, Bool.and_eq_true, Bool.or_eq_true, beq_iff_eq, bne_iff_ne,
    Nat.add_sub_cancel]
  by_cases hfour : (z + 1) % 4 = 0
  · by_cases hhundred : (z + 1) % 100 = 0
    · by_cases hall : (z + 1) % 400 = 0
      · rw [if_pos ⟨hfour, .inr hall⟩]; omega
      · rw [if_neg (fun h => h.2.elim (· hhundred) hall)]; omega
    · rw [if_pos ⟨hfour, .inl hhundred⟩]; omega
  · have h4 : (z + 1) / 4 = z / 4 := by omega
    have h100 : (z + 1) / 100 = z / 100 := by omega
    have h400 : (z + 1) / 400 = z / 400 := by omega
    rw [if_neg (fun h => hfour h.1), h4, h100, h400]
    omega

theorem daysBeforeYear_mono {y z : Nat} (h : y ≤ z) : daysBeforeYear y ≤ daysBeforeYear z := by
  induction h with
  | refl => exact Nat.le_refl _
  | @step z hyz ih =>
    rcases Nat.eq_zero_or_pos z with rfl | hz
    · exact ih
    · rw [Nat.succ_eq_add_one, daysBeforeYear_succ hz]
      omega

/-! ## Months -/

theorem daysBeforeMonth_succ (year : Nat) {month : Nat} (h : 1 ≤ month) :
    daysBeforeMonth year (month + 1) = daysBeforeMonth year month + daysInMonth year month := by
  obtain ⟨m, rfl⟩ : ∃ m, month = m + 1 := ⟨month - 1, by omega⟩
  simp only [daysBeforeMonth, Nat.add_sub_cancel, List.range_succ, List.foldl_append,
    List.foldl_cons, List.foldl_nil]

/-- The months of a year are its days. -/
theorem daysBeforeMonth_year (year : Nat) :
    daysBeforeMonth year 13 = if isLeap year then 366 else 365 := by
  by_cases hleap : isLeap year <;>
    simp [daysBeforeMonth, List.range_succ, daysInMonth, hleap]

/-- The month and the day stand for as many days as were given. -/
theorem daysBeforeMonth_monthDay (year fuel : Nat) {month : Nat} (hm : 1 ≤ month) (n : Nat) :
    daysBeforeMonth year (monthDay year fuel month n).1 + (monthDay year fuel month n).2 =
      daysBeforeMonth year month + n := by
  induction fuel generalizing month n with
  | zero => rfl
  | succ fuel ih =>
    rw [monthDay]
    split
    · rfl
    · rw [ih (by omega), daysBeforeMonth_succ year hm]
      omega

/-- Where the months that are left have the day, it is found in one of them. -/
theorem monthDay_valid (year fuel month n : Nat) (hm : 1 ≤ month) (hn : 1 ≤ n)
    (hroom : daysBeforeMonth year month + n ≤ daysBeforeMonth year (month + fuel)) :
    1 ≤ (monthDay year fuel month n).1 ∧ (monthDay year fuel month n).1 < month + fuel ∧
      1 ≤ (monthDay year fuel month n).2 ∧
      (monthDay year fuel month n).2 ≤ daysInMonth year (monthDay year fuel month n).1 := by
  induction fuel generalizing month n with
  | zero => simp only [Nat.add_zero] at hroom; omega
  | succ fuel ih =>
    rw [monthDay]
    split
    case isTrue hfits => exact ⟨hm, by omega, hn, hfits⟩
    case isFalse hlater =>
      have hnext : month + 1 + fuel = month + (fuel + 1) := by omega
      have hfound := ih (month + 1) (n - daysInMonth year month) (by omega) (by omega)
        (by rw [daysBeforeMonth_succ year hm, hnext]; omega)
      rwa [hnext] at hfound

/-! ## Dates -/

theorem dateOfNumber_eq (n : Nat) :
    dateOfNumber n = (yearOfNumber n,
      (monthDay (yearOfNumber n) 12 1 (n - daysBeforeYear (yearOfNumber n))).1,
      (monthDay (yearOfNumber n) 12 1 (n - daysBeforeYear (yearOfNumber n))).2) := rfl

theorem dayNumber_dateOfNumber {n : Nat} (hn : 1 ≤ n) :
    dayNumber (dateOfNumber n).1 (dateOfNumber n).2.1 (dateOfNumber n).2.2 = n := by
  have hyear := yearOfNumber_spec hn
  have hmonth := daysBeforeMonth_monthDay (yearOfNumber n) 12 (Nat.le_refl 1)
    (n - daysBeforeYear (yearOfNumber n))
  have hfirst : daysBeforeMonth (yearOfNumber n) 1 = 0 := rfl
  simp only [dateOfNumber_eq, dayNumber]
  omega

/-- The last day of the last year. -/
theorem dayNumber_last : dayNumber 9999 12 31 = daysBeforeYear 10000 := by decide

theorem validDate_dateOfNumber {n : Nat} (hn : 1 ≤ n) (hlast : n ≤ dayNumber 9999 12 31) :
    validDate (dateOfNumber n).1 (dateOfNumber n).2.1 (dateOfNumber n).2.2 = true := by
  obtain ⟨hlow, hhigh⟩ := yearOfNumber_spec hn
  rw [dayNumber_last] at hlast
  have hpos : 1 ≤ yearOfNumber n := by
    by_contra hzero
    have h0 : yearOfNumber n = 0 := by omega
    rw [h0] at hhigh
    have : daysBeforeYear (0 + 1) = 0 := rfl
    omega
  have hyear : yearOfNumber n ≤ 9999 := by
    by_contra hbig
    have := daysBeforeYear_mono (y := 10000) (z := yearOfNumber n) (by omega)
    omega
  have hdays := daysBeforeYear_succ hpos
  have hmonths := daysBeforeMonth_year (yearOfNumber n)
  have hfirst : daysBeforeMonth (yearOfNumber n) 1 = 0 := rfl
  have hfound := monthDay_valid (yearOfNumber n) 12 1 (n - daysBeforeYear (yearOfNumber n))
    (Nat.le_refl 1) (by omega)
    (by rw [hfirst, hmonths]; omega)
  simp only [validDate, Bool.and_eq_true, decide_eq_true_eq]
  simp only [dateOfNumber_eq]
  omega

/-! ## Moments -/

theorem Clock.valid_iff (c : Clock) :
    c.valid = true ↔ c.hour < 24 ∧ c.minute < 60 ∧ c.second < 60 ∧ c.micro < 1000000 := by
  simp only [Clock.valid, Bool.and_eq_true, decide_eq_true_eq, and_assoc]

theorem Clock.valid_ofMicros {n : Nat} (h : n < dayMicros) : (Clock.ofMicros n).valid = true := by
  simp only [dayMicros] at h
  simp only [Clock.valid_iff, Clock.ofMicros]
  omega

/-- The microseconds from the first day of the year 1 up to the last of the year 9999. -/
theorem representable_iff (i : Int) :
    representable i = true ↔ 86400000000 ≤ i ∧ i < 315537984000000000 := by
  have hlast : dayNumber 9999 12 31 = 3652059 := by decide
  simp only [representable, Bool.and_eq_true, decide_eq_true_eq]
  rw [hlast, dayMicros]
  omega

/-- The moment so many microseconds before, with the same offset. -/
def Moment.earlier (m : Moment) (micros : Int) : Moment :=
  let written := (m.localMicros - micros).toNat
  let (year, month, day) := dateOfNumber (written / dayMicros)
  { year, month, day, clock := .ofMicros (written % dayMicros), offset := m.offset }

/-- The written microseconds of a representable instant and the number of its day. -/
theorem representable_toNat {i : Int} (h : representable i = true) :
    (i.toNat : Int) = i ∧ 1 ≤ i.toNat / dayMicros ∧ i.toNat / dayMicros ≤ dayNumber 9999 12 31 := by
  have hlast : dayNumber 9999 12 31 = 3652059 := by decide
  rw [representable_iff] at h
  rw [hlast, dayMicros]
  omega

theorem Moment.localMicros_earlier {m : Moment} {micros : Int}
    (h : representable (m.localMicros - micros) = true) :
    (m.earlier micros).localMicros = m.localMicros - micros := by
  obtain ⟨hwritten, hday, -⟩ := representable_toNat h
  have hdate := dayNumber_dateOfNumber hday
  have hsplit := Nat.div_add_mod (m.localMicros - micros).toNat dayMicros
  calc (m.earlier micros).localMicros
      = ((m.localMicros - micros).toNat / dayMicros : Nat) * dayMicros +
          ((m.localMicros - micros).toNat % dayMicros : Nat) := by
        rw [Moment.localMicros, ← hdate, ← Clock.micros_ofMicros (_ % _)]
        rfl
    _ = m.localMicros - micros := by
        simp only [dayMicros] at hsplit ⊢
        omega

/-- A moment before is so many microseconds before. -/
theorem Moment.instant_earlier {m : Moment} {micros : Int}
    (h : representable (m.localMicros - micros) = true) :
    (m.earlier micros).instant = m.instant - micros := by
  have hlocal := Moment.localMicros_earlier h
  have hoffset : (m.earlier micros).offset = m.offset := rfl
  simp only [Moment.instant, hlocal, hoffset]
  omega

/-- A moment before, while it is representable, has a date and a time of day. -/
theorem Moment.earlier_valid {m : Moment} {micros : Int}
    (h : representable (m.localMicros - micros) = true) :
    validDate (m.earlier micros).year (m.earlier micros).month (m.earlier micros).day = true ∧
      (m.earlier micros).clock.valid = true := by
  obtain ⟨-, hday, hlast⟩ := representable_toNat h
  exact ⟨validDate_dateOfNumber hday hlast, Clock.valid_ofMicros (Nat.mod_lt _ (by decide))⟩

theorem instantBefore_earlier {m : Moment} {micros : Int}
    (h : representable (m.localMicros - micros) = true) :
    instantBefore m micros = .ok (m.earlier micros).instant := by
  rw [instantBefore, if_pos h, Moment.instant_earlier h]

/-! ## Spans -/

/-- The seconds that lead from one date to another are a span. -/
theorem spanOf_seconds {m : Moment} {seconds : Int} (hm : representable m.localMicros = true)
    (h : representable (m.localMicros - seconds * 1000000) = true) :
    spanOf (.int seconds) = .ok (seconds * 1000000) := by
  rw [representable_iff] at hm h
  have hdays : ((seconds * 1000000).fdiv (dayMicros : Int)).natAbs ≤ maxSpanDays := by
    rw [Int.fdiv_eq_ediv_of_nonneg _ (by decide)]
    simp only [dayMicros, maxSpanDays]
    omega
  simp only [spanOf, bind, Except.bind, if_pos hdays]

end EventHub.Time
