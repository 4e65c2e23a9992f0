import EventHub.Proofs.Record.Flow
import Mathlib.Data.List.TakeWhile

/-!
# Moments, written and read

A moment is read from what it is written as: the date, the time of day, and the offset if it has one, each
of which is as long as it needs to be.

* **Digits** (`takeDigits_padded`): a number with its leading zeros.
* **Times of day** (`Clock.readClock_text`, `readClock_offsetText`): with seconds, as those of a clock have
  them, or without, as offsets may be written.
* **Times with an offset** (`readTime_text`): the sign divides the two.
* **Dates** (`readDate_dateText`, `dateLength_dateText`)
* **Moments** (`Moment.Valid.parse?_text`): those of the calendar whose offset is made of whole seconds.
* **Timestamps** (`timestamp_roundTrip`): an event that was given a moment has it as its time.
-/

namespace EventHub

namespace Time

/-! ## Digits -/

theorem asciiDigit?_of_isDigit {c : Char} (hc : c.isDigit = true) :
    asciiDigit? c = some (c.toNat - 48) := by
  have hrange : ('0' ≤ c && c ≤ '9') = true := hc
  rw [asciiDigit?, if_pos hrange]

/-- Digits are read as the number that they write behind those that were read. -/
theorem takeDigits_digits {ds : List Char} (hd : ∀ c ∈ ds, c.isDigit = true) (value : Nat)
    (rest : List Char) :
    takeDigits ds.length value (ds ++ rest) = some (Nat.ofDigitChars 10 ds value, rest) := by
  induction ds generalizing value with
  | nil => rfl
  | cons c ds ih =>
    rw [List.length_cons, List.cons_append, takeDigits, asciiDigit?_of_isDigit (hd c List.mem_cons_self),
      Option.bind_some, ih (fun c hc => hd c (List.mem_cons_of_mem _ hc)), Nat.ofDigitChars_cons]
    rfl

theorem isDigit_of_mem_padded {w n : Nat} {c : Char} (hc : c ∈ padded w n) :
    c.isDigit = true := by
  rcases List.mem_append.1 hc with hzero | hdigit
  · rw [List.eq_of_mem_replicate hzero]
    decide
  · exact Nat.isDigit_of_mem_toDigits (by decide) (by decide) hdigit

section Padded

variable {w n : Nat} (hw : 0 < w) (hn : n < Nat.pow 10 w)
include hw hn

theorem length_padded : (padded w n).length = w := by
  have hlength : (Nat.toDigits 10 n).length ≤ w :=
    (Nat.length_toDigits_le_iff (by decide) hw).2 hn
  rw [padded, List.length_append, List.length_replicate]
  omega

theorem padded_ne_nil : padded w n ≠ [] :=
  List.ne_nil_of_length_pos (by rw [length_padded hw hn]; exact hw)

/-- A number that fits its w is read back. -/
theorem takeDigits_padded (rest : List Char) :
    takeDigits w 0 (padded w n ++ rest) = some (n, rest) := by
  have hzeros (k : Nat) : Nat.ofDigitChars 10 (List.replicate k '0') 0 = 0 := by
    induction k with
    | zero => rfl
    | succ k ih => rw [List.replicate_succ, Nat.ofDigitChars_cons]; exact ih
  have hvalue : Nat.ofDigitChars 10 (padded w n) 0 = n := by
    rw [padded, Nat.ofDigitChars_append, hzeros, Nat.ofDigitChars_toDigits (by decide) (by decide)]
  have hread := takeDigits_digits (fun _ hc => isDigit_of_mem_padded (w := w) (n := n) hc) 0 rest
  rwa [length_padded hw hn, hvalue] at hread

end Padded

theorem takeDigits_pair {n : Nat} (hn : n < 100) (rest : List Char) :
    takeDigits 2 0 (padded 2 n ++ rest) = some (n, rest) := takeDigits_padded (by decide) hn rest

/-! ## Times of day -/

theorem afterPair_colon {rest : List Char} (h : rest ≠ []) :
    afterPair true (':' :: rest) = .pair rest := by
  cases rest with
  | nil => contradiction
  | cons c rest => rfl

theorem afterPair_dot {rest : List Char} (h : rest ≠ []) :
    afterPair true ('.' :: rest) = .fraction rest := by
  cases rest with
  | nil => contradiction
  | cons c rest => rfl

theorem readFraction_padded {micro : Nat} (h : micro < 1000000) :
    readFraction (padded 6 micro) = some (micro, false) := by
  have hread := takeDigits_padded (w := 6) (by decide) h []
  rw [List.append_nil] at hread
  unfold readFraction
  rw [length_padded (by decide) h, Nat.min_self]
  dsimp only
  rw [hread]
  simp

section Pairs

variable {hour minute second micro : Nat} (hh : hour < 100) (hm : minute < 100) (hs : second < 100)
  (hu : micro < 1000000)

/-- What is read behind the minutes of a time whose parts have colons between them. -/
def readSeconds (hour minute : Nat) (cs : List Char) : Option (Clock × Bool) :=
  match afterPair true cs with
  | .malformed => none
  | .finished leftover => some (⟨hour, minute, 0, 0⟩, leftover)
  | .fraction rest => (readFraction rest).map fun (micro, leftover) =>
      (⟨hour, minute, 0, micro⟩, leftover)
  | .pair rest => (takeDigits 2 0 rest).bind fun (second, rest) =>
      match afterPair true rest with
      | .malformed => none
      | .finished leftover => some (⟨hour, minute, second, 0⟩, leftover)
      | .fraction rest | .pair rest => (readFraction rest).map fun (micro, leftover) =>
          (⟨hour, minute, second, micro⟩, leftover)

include hh hm in
theorem readClock_padded (tail : List Char) :
    readClock (padded 2 hour ++ ':' :: (padded 2 minute ++ tail)) = readSeconds hour minute tail := by
  have hne : padded 2 minute ++ tail ≠ [] :=
    List.append_ne_nil_of_left_ne_nil (padded_ne_nil (by decide) hm) tail
  have hcolons : ((':' :: (padded 2 minute ++ tail)).head? == some ':') = true := rfl
  simp only [readClock, takeDigits_pair hh, bind, Option.bind_some, hcolons, afterPair_colon hne,
    takeDigits_pair hm]
  rfl

include hs in
theorem readSeconds_padded (tail : List Char) :
    readSeconds hour minute (':' :: (padded 2 second ++ tail)) =
      match afterPair true tail with
      | .malformed => none
      | .finished leftover => some (⟨hour, minute, second, 0⟩, leftover)
      | .fraction rest | .pair rest => (readFraction rest).map fun (micro, leftover) =>
          (⟨hour, minute, second, micro⟩, leftover) := by
  have hne : padded 2 second ++ tail ≠ [] :=
    List.append_ne_nil_of_left_ne_nil (padded_ne_nil (by decide) hs) tail
  simp only [readSeconds, afterPair_colon hne, takeDigits_pair hs, Option.bind_some]

include hs hu in
theorem readSeconds_micros :
    readSeconds hour minute (':' :: (padded 2 second ++ '.' :: padded 6 micro)) =
      some (⟨hour, minute, second, micro⟩, false) := by
  rw [readSeconds_padded hs, afterPair_dot (padded_ne_nil (by decide) hu)]
  dsimp only
  rw [readFraction_padded hu]
  rfl

end Pairs

theorem Clock.readClock_text {c : Clock} (hc : c.valid = true) :
    readClock c.text = some (c, false) := by
  simp only [Clock.valid, Bool.and_eq_true, decide_eq_true_eq] at hc
  obtain ⟨⟨⟨hh, hm⟩, hs⟩, hu⟩ := hc
  obtain ⟨hour, minute, second, micro⟩ := c
  dsimp only at hh hm hs hu
  have hshape (tail : List Char) :
      padded 2 hour ++ ':' :: padded 2 minute ++ ':' :: padded 2 second ++ tail =
        padded 2 hour ++ ':' :: (padded 2 minute ++ ':' :: (padded 2 second ++ tail)) := by simp
  rw [Clock.text, hshape, readClock_padded (by omega) (by omega)]
  dsimp only
  split
  · rename_i hzero
    rw [readSeconds_padded (by omega), beq_iff_eq.1 hzero]
    rfl
  · exact readSeconds_micros (by omega) hu

/-- The sign of an offset and the time of day that stands behind it. -/
theorem readClock_offsetText (offset : Int) (h : offset.natAbs < dayMicros) :
    ∃ text shift, offsetText offset = (if offset < 0 then '-' else '+') :: text ∧
      readClock text = some (shift, false) ∧ shift.micros = offset.natAbs := by
  unfold offsetText
  generalize offset.natAbs = total at h
  simp only [dayMicros] at h
  refine ⟨_, ⟨total / 1000000 / 3600, total / 1000000 / 60 % 60, total / 1000000 % 60,
    total % 1000000⟩, rfl, ?_, ?_⟩
  · rw [List.append_assoc, List.cons_append, readClock_padded (by omega) (by omega)]
    split
    · rw [List.cons_append]
      exact readSeconds_micros (by omega) (by omega)
    · rename_i hwhole
      have hmicro : total % 1000000 = 0 := by simpa using hwhole
      rw [hmicro]
      split
      · rw [← List.append_nil (padded 2 _), readSeconds_padded (by omega)]
        rfl
      · rename_i hminute
        have hsecond : total / 1000000 % 60 = 0 := by simpa using hminute
        rw [hsecond]
        rfl
  · simp only [Clock.micros]
    omega

/-! ## Characters -/

variable {m : Moment}

theorem mem_clockText {c : Clock} {x : Char} (hx : x ∈ c.text) :
    x.isDigit = true ∨ x = ':' ∨ x = '.' := by
  have hd {width n : Nat} (h : x ∈ padded width n) : x.isDigit = true := isDigit_of_mem_padded h
  unfold Clock.text at hx
  grind

theorem mem_offsetText {offset : Int} {x : Char} (hx : x ∈ offsetText offset) :
    x.isDigit = true ∨ x = ':' ∨ x = '.' ∨ x = '+' ∨ x = '-' := by
  have hd {width n : Nat} (h : x ∈ padded width n) : x.isDigit = true := isDigit_of_mem_padded h
  unfold offsetText at hx
  grind

theorem mem_dateText {x : Char} (hx : x ∈ m.dateText) : x.isDigit = true ∨ x = '-' := by
  have hd {width n : Nat} (h : x ∈ padded width n) : x.isDigit = true := isDigit_of_mem_padded h
  unfold Moment.dateText at hx
  grind

/-- No sign of an offset stands in a time of day. -/
theorem isSign_of_mem_text {c : Clock} {x : Char} (hx : x ∈ c.text) :
    (x == '+' || x == '-' || x == 'Z') = false := by
  rcases mem_clockText hx with hdigit | rfl | rfl
  · have hne (sign : Char) (hs : sign.isDigit = false) : x ≠ sign := by
      rintro rfl
      rw [hs] at hdigit
      cases hdigit
    simp [hne '+' rfl, hne '-' rfl, hne 'Z' rfl]
  · rfl
  · rfl

/-! ## Times with an offset -/

/-- A time of day and an offset are divided at the sign. -/
theorem readTime_signed {front text : List Char} {sign : Char} {clock shift : Clock}
    (hfront : ∀ x ∈ front, (x == '+' || x == '-' || x == 'Z') = false)
    (hsign : sign = '+' ∨ sign = '-') (hclock : readClock front = some (clock, false))
    (hvalid : clock.valid = true) (hshift : readClock text = some (shift, false))
    (hshort : shift.micros < dayMicros) (hwhole : shift.micros = 0 ∨ 1000000 ≤ shift.micros) :
    readTime (front ++ sign :: text) =
      some (clock, some (if sign == '-' then -(shift.micros : Int) else shift.micros)) := by
  have hkept : ∀ x ∈ front, (!(x == '+' || x == '-' || x == 'Z')) = true := fun x hx => by
    rw [hfront x hx]
    rfl
  have hends : (!(sign == '+' || sign == '-' || sign == 'Z')) = false := by
    rcases hsign with rfl | rfl <;> rfl
  have hlong : ¬ dayMicros ≤ shift.micros := by omega
  have hoffset : (if shift.micros < 1000000 then 0 else (shift.micros : Int)) = shift.micros := by
    split <;> omega
  unfold readTime
  dsimp only
  rw [List.takeWhile_append_of_pos hkept, List.dropWhile_append_of_pos hkept,
    List.takeWhile_cons_of_neg (by simp [hends]), List.dropWhile_cons_of_neg (by simp [hends]),
    List.append_nil, hclock]
  simp only [bind, Option.bind_some, hvalid, Bool.not_true, Bool.false_eq_true, if_false]
  rcases hsign with rfl | rfl
  · change (readClock text).bind _ = _
    rw [hshift, Option.bind_some, decide_eq_false hlong, hoffset]
    rfl
  · change (readClock text).bind _ = _
    rw [hshift, Option.bind_some, decide_eq_false hlong, hoffset]
    rfl

theorem readTime_bare {c : Clock} (hc : c.valid = true) : readTime c.text = some (c, none) := by
  have hkept : ∀ x ∈ c.text, (!(x == '+' || x == '-' || x == 'Z')) = true := fun x hx => by
    rw [isSign_of_mem_text hx]
    rfl
  unfold readTime
  dsimp only
  rw [List.takeWhile_eq_self_iff.2 hkept, List.dropWhile_eq_nil_iff.2 hkept, Clock.readClock_text hc]
  simp [hc]

theorem readTime_text {c : Clock} (hc : c.valid = true) {offset : Int}
    (hwhole : (1000000 : Int) ∣ offset) (hshort : offset.natAbs < dayMicros) :
    readTime (c.text ++ offsetText offset) = some (c, some offset) := by
  obtain ⟨text, shift, htext, hread, hmicros⟩ := readClock_offsetText offset hshort
  have hsign : (if offset < 0 then '-' else '+') = '+' ∨ (if offset < 0 then '-' else '+') = '-' := by
    split <;> simp
  rw [htext, readTime_signed (fun _ hx => isSign_of_mem_text hx) hsign (Clock.readClock_text hc) hc hread
    (by omega) (by omega), hmicros]
  congr 3
  split
  · rw [if_pos (by decide)]
    omega
  · rw [if_neg (by decide)]
    omega

/-! ## Dates -/

theorem length_dateText (hm : validDate m.year m.month m.day = true) : m.dateText.length = 10 := by
  simp only [validDate, Bool.and_eq_true, decide_eq_true_eq] at hm
  have hdays := daysInMonth_le m.year m.month
  simp [Moment.dateText, length_padded (w := 4) (by decide) (show m.year < 10000 by omega),
    length_padded (w := 2) (by decide) (show m.month < 100 by omega),
    length_padded (w := 2) (by decide) (show m.day < 100 by omega)]

theorem readDate_dateText (hm : validDate m.year m.month m.day = true) :
    readDate m.dateText = some (m.year, m.month, m.day) := by
  have hrange := hm
  simp only [validDate, Bool.and_eq_true, decide_eq_true_eq] at hrange
  have hdays := daysInMonth_le m.year m.month
  have hyear : takeDigits 4 0 m.dateText =
      some (m.year, '-' :: (padded 2 m.month ++ '-' :: padded 2 m.day)) := by
    rw [Moment.dateText, List.append_assoc,
      takeDigits_padded (by decide) (show m.year < 10000 by omega)]
    rfl
  have hday := takeDigits_pair (n := m.day) (by omega) []
  rw [List.append_nil] at hday
  unfold readDate
  rw [hyear]
  simp only [bind, Option.bind_some, List.head?_cons, List.drop_one, List.tail_cons,
    beq_self_eq_true, if_true]
  split
  · -- A week date has a letter where the month begins.
    rename_i rest hweek
    have hne := padded_ne_nil (w := 2) (by decide) (show m.month < 100 by omega)
    obtain ⟨c, month, hc⟩ := List.exists_cons_of_ne_nil hne
    rw [hc, List.cons_append, List.cons.injEq] at hweek
    have hdigit : c.isDigit = true :=
      isDigit_of_mem_padded (w := 2) (n := m.month) (hc ▸ List.mem_cons_self)
    rw [hweek.1] at hdigit
    cases hdigit
  · rw [takeDigits_pair (by omega)]
    simp [hday, hm]

/-- A date with dashes and without a week has ten characters. -/
theorem dateLength_dateText (hm : validDate m.year m.month m.day = true) (rest : List Char) :
    dateLength (m.dateText ++ rest) = some 10 := by
  have hlength := length_dateText hm
  have hlong : ((m.dateText ++ rest).length == 7) = false := by
    rw [List.length_append, beq_eq_false_iff_ne]
    omega
  have hyear : (padded 4 m.year).length = 4 := by
    simp only [validDate, Bool.and_eq_true, decide_eq_true_eq] at hm
    exact length_padded (by decide) (show m.year < 10000 by omega)
  have hdash : (m.dateText ++ rest)[4]? = some '-' := by
    rw [List.getElem?_append_left (by omega), Moment.dateText, List.append_assoc,
      List.getElem?_append_right (by omega), hyear]
    rfl
  have hweek : ((m.dateText ++ rest)[5]? == some 'W') = false := by
    rw [beq_eq_false_iff_ne, List.getElem?_append_left (by omega)]
    intro hw
    rcases mem_dateText (List.mem_of_getElem? hw) with hdigit | hdash
    · cases hdigit
    · cases hdash
  unfold dateLength
  dsimp only
  rw [hlong, hdash, hweek]
  rfl

/-! ## Moments -/

/-- A moment of the calendar, whose offset is made of whole seconds and less than a day. -/
structure Moment.Valid (m : Moment) : Prop where
  date : validDate m.year m.month m.day = true
  clock : m.clock.valid = true
  whole : ∀ offset ∈ m.offset, (1000000 : Int) ∣ offset
  short : ∀ offset ∈ m.offset, offset.natAbs < dayMicros

instance (m : Moment) : Decidable m.Valid :=
  decidable_of_iff (validDate m.year m.month m.day = true ∧ m.clock.valid = true ∧
      (∀ offset ∈ m.offset, (1000000 : Int) ∣ offset) ∧
      ∀ offset ∈ m.offset, offset.natAbs < dayMicros)
    ⟨fun ⟨hd, hc, hw, hs⟩ => ⟨hd, hc, hw, hs⟩, fun h => ⟨h.1, h.2, h.3, h.4⟩⟩

/-- What is written is read back. -/
theorem Moment.Valid.parse?_text (hm : m.Valid) : Moment.parse? m.text = some m := by
  have hdate := hm.date
  have hlength := length_dateText hdate
  have htext (offset : List Char) : m.dateText ++ 'T' :: m.clock.text ++ offset =
      m.dateText ++ 'T' :: (m.clock.text ++ offset) := by simp
  have hread (time : List Char) : Moment.parseChars? (m.dateText ++ 'T' :: time) =
      (readTime time).map fun p => ⟨m.year, m.month, m.day, p.1, p.2⟩ := by
    have hlong : ¬ (m.dateText ++ 'T' :: time).length < 7 := by
      rw [List.length_append]
      omega
    unfold Moment.parseChars?
    rw [if_neg hlong, dateLength_dateText hdate]
    simp only [bind, Option.bind_some, List.take_left' hlength, List.drop_left' hlength,
      readDate_dateText hdate]
    cases readTime time <;> rfl
  unfold Moment.parse? Moment.text Moment.textWith
  rw [String.toList_ofList, htext, hread]
  obtain ⟨year, month, day, clock, offset⟩ := m
  cases offset with
  | none =>
    dsimp only
    rw [List.append_nil, readTime_bare hm.clock]
    rfl
  | some offset =>
    dsimp only
    rw [readTime_text hm.clock (hm.whole offset rfl) (hm.short offset rfl)]
    rfl

/-- What is written does not end in the letter of universal time. -/
theorem Moment.zuluAsOffset_text (m : Moment) : zuluAsOffset m.text.toList = m.text.toList := by
  -- The text is made of digits and marks, so it does not end in a letter.
  have hletter {x : Char} (hx : x ∈ m.text.toList) : x ≠ 'Z' := by
    have hdigit (hd : x.isDigit = true) : x ≠ 'Z' := by
      rintro rfl
      cases hd
    unfold Moment.text Moment.textWith at hx
    rw [String.toList_ofList] at hx
    simp only [List.mem_append, List.mem_cons] at hx
    rcases hx with (hdate | rfl | hclock) | hoffset
    · rcases mem_dateText hdate with hd | rfl
      · exact hdigit hd
      · decide
    · decide
    · rcases mem_clockText hclock with hd | rfl | rfl
      · exact hdigit hd
      · decide
      · decide
    · split at hoffset
      · cases hoffset
      · rcases mem_offsetText hoffset with hd | rfl | rfl | rfl | rfl
        · exact hdigit hd
        all_goals decide
  unfold zuluAsOffset
  rw [if_neg]
  rw [beq_iff_eq]
  exact fun hlast => hletter (List.mem_of_getLast? hlast) rfl

theorem Moment.Valid.asUtc (hm : m.Valid) : m.asUtc.Valid := by
  unfold Moment.asUtc
  split
  · refine ⟨hm.date, hm.clock, ?_, ?_⟩
    · rintro offset ⟨⟩
      exact Int.dvd_zero _
    · rintro offset ⟨⟩
      decide
  · exact hm

theorem Moment.Valid.readTimestamp_text (hm : m.Valid) : readTimestamp m.text = some m := by
  rw [readTimestamp, Moment.zuluAsOffset_text]
  exact hm.parse?_text

theorem Moment.asUtc_eq (m : Moment) : m.asUtc = { m with offset := some (m.offset.getD 0) } := by
  obtain ⟨year, month, day, clock, offset⟩ := m
  cases offset <;> rfl

theorem Moment.text_ne_empty (m : Moment) : m.text ≠ "" := by
  unfold text textWith
  intro h
  have := congrArg String.toList h
  simp at this

end Time

open Time

/-! ## Timestamps -/

/-- A moment is written as the timestamp of an event. -/
theorem checkTimestamp_moment (m : Moment) : checkTimestamp (.moment m) = .ok m.asUtc.text := by
  rw [checkTimestamp]
  exact checkName_text m.asUtc.text_ne_empty

/-- The event was made at the moment: its timestamp writes the moment and is read as it, with the offset of
universal time where the moment has none. -/
structure Event.MadeAt (m : Moment) (e : Event) : Prop where
  written : e.timestamp = m.asUtc.text
  read : e.moment? = some { m with offset := some (m.offset.getD 0) }

theorem Event.MadeAt.of_timestamp {m : Moment} (hm : m.Valid) {e : Event}
    (h : checkTimestamp (.moment m) = .ok e.timestamp) : e.MadeAt m := by
  rw [checkTimestamp_moment] at h
  have hwritten : e.timestamp = m.asUtc.text := (Except.ok.inj h).symm
  refine ⟨hwritten, ?_⟩
  rw [Event.moment?, hwritten, hm.asUtc.readTimestamp_text, Moment.asUtc_eq]

/-- An event that was given a moment as its timestamp was made at it. Whatever entries describe an event, with
the moment in place of their timestamp they describe the same one, made at the moment. -/
theorem timestamp_roundTrip {m : Moment} (hm : m.Valid) (freshId : String) (fields : Fields) :
    (∀ given e, field fields "timestamp" = some (given, .moment m) →
      Event.check freshId (.map fields) = .ok e → e.MadeAt m) ∧
    ∀ e, Event.check freshId (.map fields) = .ok e →
      ∃ e', Event.check freshId (.map (Assoc.put fields "timestamp" (.moment m))) = .ok e' ∧
        e' = { e with timestamp := m.asUtc.text } ∧ e'.MadeAt m := by
  constructor
  · intro given e hf he
    obtain ⟨-, -, -, htime, -, -⟩ := Event.ofFields_eq_ok.1 he
    obtain ⟨given', v, hg, hv⟩ := required_eq_ok.1 htime
    rw [hf] at hg
    cases hg
    exact .of_timestamp hm hv
  · intro e he
    have hself : field (Assoc.put fields "timestamp" (.moment m)) "timestamp" =
        some ("timestamp", .moment m) := by
      have hwire : camelCase "timestamp" = "timestamp" := by decide
      rw [field, hwire, Assoc.get?_put_self]
    obtain ⟨hid, htype, hsource, -, hdata, hmeta⟩ := Event.ofFields_eq_ok.1 he
    have htime := checkTimestamp_moment m
    refine ⟨{ e with timestamp := m.asUtc.text }, Event.ofFields_eq_ok.2
      ⟨(defaulted_put_of_ne ?_ ?_ _ _).trans hid, (required_put_of_ne ?_ ?_ _).trans htype,
        (required_put_of_ne ?_ ?_ _).trans hsource, required_eq_ok.2 ⟨_, _, hself, htime⟩,
        (defaulted_put_of_ne ?_ ?_ _ _).trans hdata, (defaulted_put_of_ne ?_ ?_ _ _).trans hmeta⟩,
      rfl, .of_timestamp hm htime⟩
    all_goals decide

/-- The first second of the calendar, in a zone that lies one second west of universal time. -/
def firstSecond : Moment := ⟨1, 1, 1, ⟨0, 0, 0, 7⟩, some (-1000000)⟩

/-- The last moment of the calendar, in no zone. -/
def lastMoment : Moment := ⟨9999, 12, 31, ⟨23, 59, 59, 999999⟩, none⟩

/-- What describes an event whose timestamp cannot be read. -/
def probeFields : Fields :=
  [("type", .text "tick"), ("source", .text "probe"), ("timestamp", .text "noon")]

theorem timestamp_roundTrip_ends :
    (∃ e, Event.check "e1" (.map (Assoc.put probeFields "timestamp" (.moment firstSecond))) = .ok e ∧
      e.timestamp = "0001-01-01T00:00:00.000007-00:00:01" ∧ e.MadeAt firstSecond) ∧
    ∃ e, Event.check "e1" (.map (Assoc.put probeFields "timestamp" (.moment lastMoment))) = .ok e ∧
      e.timestamp = "9999-12-31T23:59:59.999999+00:00" ∧ e.MadeAt lastMoment := by
  have hprobe : Event.check "e1" (.map probeFields) =
    .ok ⟨"e1", "tick", "probe", "noon", [], []⟩ := rfl
  have hfirst : firstSecond.Valid := by decide
  have hlast : lastMoment.Valid := by decide
  obtain ⟨e, he, -, hmade⟩ := (timestamp_roundTrip hfirst "e1" probeFields).2 _ hprobe
  obtain ⟨e', he', -, hmade'⟩ := (timestamp_roundTrip hlast "e1" probeFields).2 _ hprobe
  refine ⟨⟨e, he, hmade.written.trans ?_, hmade⟩, e', he', hmade'.written.trans ?_, hmade'⟩
  · decide +kernel
  · decide +kernel

end EventHub
