import EventHub.Number.Text
import Mathlib.Data.List.TakeWhile

/-!
# Integers written in digits

What a text of digits is read as. The decimal digits of all scripts stand for those of ASCII, and the
first digit that is not decimal ends the text.

* **Digits** (`Text.asciiDigit_eq`, `Text.isSome_readDigits`): the ASCII digits among those of all
  scripts, and the rows that write a number.
* **In ASCII** (`Number.asciiForm_digits`): the digits of a text as they are read.
* **Reading** (`Number.readInt_digits`): a text of digits is read as a number exactly when all of them
  are decimal and no more than can be read.
-/

namespace EventHub

/-! ## Digits -/

namespace Text

theorem isDecimal_of_digitValue? {c : Char} {d : Nat} (h : digitValue? c = some d) :
    isDecimal c = true := by
  simp [isDecimal, h]

/-- No blank is a digit. -/
theorem isDigit_of_isBlank {c : Char} (hc : isBlank c = true) : isDigit c = false := by
  have hall : ∀ n ∈ blankCodes, isDigit (Char.ofNat n) = false := by decide +kernel
  have := hall c.toNat (List.contains_iff_mem.1 hc)
  rwa [Char.ofNat_toNat] at this

/-- Within ASCII a digit is the one of its value. -/
theorem asciiDigit_eq {c : Char} (hc : isDigit c = true) (hlow : c.toNat < 128) :
    (digitValue? c).map Nat.digitChar = some c := by
  have hall : ∀ n < 128, isDigit (Char.ofNat n) = true →
      (digitValue? (Char.ofNat n)).map Nat.digitChar = some (Char.ofNat n) := by decide +kernel
  have := hall c.toNat hlow
  rw [Char.ofNat_toNat] at this
  exact this hc

theorem isSome_readDigits {cs : List Char} (n : Nat) :
    (readDigits n cs).isSome = cs.all isDecimal := by
  induction cs generalizing n with
  | nil => rfl
  | cons c rest ih =>
    rw [readDigits, List.all_cons, isDecimal]
    cases digitValue? c with
    | none => rfl
    | some d => exact (ih _).trans (Bool.true_and _).symm

theorem digits?_of_ne_nil {cs : List Char} (h : cs ≠ []) : digits? cs = readDigits 0 cs := by
  unfold digits?
  split
  · contradiction
  · rfl

end Text

open Text

namespace Number

/-! ## In ASCII -/

/-- The ASCII digit of a decimal digit. -/
def asciiOf (c : Char) : Char := Nat.digitChar ((digitValue? c).getD 0)

theorem asciiOf_mem (c : Char) : asciiOf c ∈ "0123456789".toList := by
  have hall : ∀ d < 10, Nat.digitChar d ∈ "0123456789".toList := by decide
  unfold asciiOf
  cases h : digitValue? c with
  | none => decide
  | some d => exact hall d (digitValue?_lt h)

theorem asciiDigit_asciiOf {c : Char} {d : Nat} (h : digitValue? c = some d) :
    asciiDigit (asciiOf c) = d := by
  have hall : ∀ d < 10, asciiDigit (Nat.digitChar d) = d := by decide
  rw [asciiOf, h]
  exact hall d (digitValue?_lt h)

theorem asciiFormOf_digits {cs : List Char} (hd : ∀ c ∈ cs, isDigit c = true) :
    asciiFormOf cs = (cs.takeWhile isDecimal).map asciiOf ++
      if cs.all isDecimal then [] else ['?'] := by
  induction cs with
  | nil => rfl
  | cons c rest ih =>
    have hc := hd c List.mem_cons_self
    have ih := ih fun d hmem => hd d (List.mem_cons_of_mem c hmem)
    by_cases hlow : c.toNat < 127
    · obtain ⟨d, hvalue, hchar⟩ := Option.map_eq_some_iff.1 (asciiDigit_eq hc (by omega))
      have hdecimal := isDecimal_of_digitValue? hvalue
      rw [asciiFormOf, if_pos hlow, ih, List.takeWhile_cons_of_pos hdecimal, List.all_cons, hdecimal]
      simp [asciiOf, hvalue, hchar]
    · have hblank : isBlank c = false := by
        cases hb : isBlank c with
        | false => rfl
        | true => rw [isDigit_of_isBlank hb] at hc; cases hc
      rw [asciiFormOf, if_neg hlow, hblank]
      cases hvalue : digitValue? c with
      | none =>
        have hother : isDecimal c = false := by simp [isDecimal, hvalue]
        simp [hother]
      | some d =>
        have hdecimal := isDecimal_of_digitValue? hvalue
        simp [hdecimal, ih, asciiOf, hvalue]

/-- The decimal digits of a text in ASCII, up to the first digit that is none. -/
theorem asciiForm_digits {cs : List Char} (hd : ∀ c ∈ cs, isDigit c = true) :
    asciiForm cs = (cs.takeWhile isDecimal).map asciiOf ++
      if cs.all isDecimal then [] else ['?'] := by
  unfold asciiForm
  split
  · rename_i hlow
    have hlow : ∀ c ∈ cs, c.toNat < 128 := by simpa using hlow
    have hvalue (c : Char) (hc : c ∈ cs) : ∃ d, digitValue? c = some d ∧ Nat.digitChar d = c :=
      Option.map_eq_some_iff.1 (asciiDigit_eq (hd c hc) (hlow c hc))
    have hall : ∀ c ∈ cs, isDecimal c = true := fun c hc =>
      isDecimal_of_digitValue? (hvalue c hc).choose_spec.1
    have hself : cs.map asciiOf = cs := by
      refine (List.map_congr_left fun c hc => ?_).trans (List.map_id cs)
      obtain ⟨d, hd, hchar⟩ := hvalue c hc
      simp [asciiOf, hd, hchar]
    rw [List.takeWhile_eq_self_iff.2 hall, hself, if_pos (List.all_eq_true.2 hall), List.append_nil]
  · exact asciiFormOf_digits hd

/-! ## Reading -/

/-- What the ASCII digits, and the mark that ends a text, are to a reader of integers. -/
theorem digits_classes : (∀ c ∈ "0123456789".toList, isAsciiDigit c = true ∧ c ≠ '_') ∧
    ∀ c ∈ "0123456789?".toList, isAsciiBlank c = false ∧ c ≠ '-' ∧ c ≠ '+' := by
  simp [isAsciiDigit, isAsciiBlank]

theorem underscoresBetween_digits {ds : List Char} (hd : ∀ c ∈ ds, c ∈ "0123456789".toList)
    (before : Bool) : underscoresBetween isAsciiDigit before ds = true := by
  induction ds generalizing before with
  | nil => rfl
  | cons c rest ih =>
    have hc := (digits_classes.1 c (hd c List.mem_cons_self)).2
    rw [underscoresBetween]
    · exact ih (fun d hmem => hd d (List.mem_cons_of_mem c hmem)) _
    · exact fun h => hc h

/-- A row of digits and marks has neither a blank nor a sign before it. -/
theorem splitSign_row {cs : List Char} (hne : cs ≠ []) (hcs : ∀ c ∈ cs, c ∈ "0123456789?".toList) :
    splitSign (cs.dropWhile isAsciiBlank) = (false, cs) := by
  cases cs with
  | nil => exact absurd rfl hne
  | cons c rest =>
    obtain ⟨hblank, hminus, hplus⟩ := digits_classes.2 c (hcs c List.mem_cons_self)
    rw [List.dropWhile_cons_of_neg (by simp [hblank])]
    unfold splitSign
    split <;> simp_all

/-- A row of ASCII digits that is the `whole` text, or that the mark ends. -/
theorem readAsciiInt_digits {ds : List Char} (hd : ∀ c ∈ ds, c ∈ "0123456789".toList) (whole : Bool)
    (hne : whole = true → ds ≠ []) :
    readAsciiInt (ds ++ if whole then [] else ['?']) =
      if maxIntDigits < ds.length then .error (.tooLong ds.length)
      else if whole then .ok (ofDigits ds) else .error .malformed := by
  have hdigits : ds.filter isAsciiDigit = ds :=
    List.filter_eq_self.2 fun c hc => (digits_classes.1 c (hd c hc)).1
  have hmark : isAsciiDigit '?' = false ∧ isAsciiBlank '?' = false := by decide
  have hrun : ∀ tail, (ds ++ tail).takeWhile (fun c => isAsciiDigit c || c == '_') =
      ds ++ tail.takeWhile fun c => isAsciiDigit c || c == '_' := fun tail =>
    List.takeWhile_append_of_pos fun c hc => by simp [(digits_classes.1 c (hd c hc)).1]
  have hrow : ∀ c ∈ ds, c ∈ "0123456789?".toList := fun c hc => List.mem_append_left ['?'] (hd c hc)
  unfold readAsciiInt
  cases whole with
  | true =>
    have hsign := splitSign_row (hne rfl) hrow
    have hrun := hrun []
    rw [List.append_nil] at hrun
    simp [hsign, hrun, hdigits, underscoresBetween_digits hd, hne rfl]
  | false =>
    have hmarked : ∀ c ∈ ds ++ ['?'], c ∈ "0123456789?".toList :=
      List.forall_mem_append.2 ⟨hrow, by simp⟩
    have hsign := splitSign_row (by simp) hmarked
    simp [hsign, hrun, hdigits, underscoresBetween_digits hd, hmark]

theorem foldl_asciiDigit {cs : List Char} {n k : Nat} (h : readDigits k cs = some n) :
    (cs.map asciiOf).foldl (fun n c => 10 * n + asciiDigit c) k = n := by
  induction cs generalizing k with
  | nil => exact Option.some.inj h
  | cons c rest ih =>
    obtain ⟨d, hd, h⟩ := Option.bind_eq_some_iff.1 h
    rw [List.map_cons, List.foldl_cons, asciiDigit_asciiOf hd]
    exact ih h

/-- A text of digits is read as a number if all of them are decimal, and no more than can be read. Only
the digits before the first that is not decimal are counted. -/
theorem readInt_digits {s : String} (hne : s ≠ "") (hd : ∀ c ∈ s.toList, isDigit c = true) :
    readInt s =
      if maxIntDigits < (s.toList.takeWhile isDecimal).length then
        .error (.tooLong (s.toList.takeWhile isDecimal).length)
      else match digits? s.toList with
        | some n => .ok n
        | none => .error .malformed := by
  have hlist : s.toList ≠ [] := by simpa using hne
  have hascii : ∀ c ∈ (s.toList.takeWhile isDecimal).map asciiOf, c ∈ "0123456789".toList := by
    intro c hc
    obtain ⟨d, -, rfl⟩ := List.mem_map.1 hc
    exact asciiOf_mem d
  have hself (hwhole : s.toList.all isDecimal = true) : s.toList.takeWhile isDecimal = s.toList :=
    List.takeWhile_eq_self_iff.2 (List.all_eq_true.1 hwhole)
  rw [readInt, asciiForm_digits hd, readAsciiInt_digits hascii _ fun hwhole => by
    simpa [hself hwhole] using hlist, List.length_map, digits?_of_ne_nil hlist]
  have hread : (readDigits 0 s.toList).isSome = s.toList.all isDecimal := isSome_readDigits 0
  cases hvalue : readDigits 0 s.toList with
  | none => simp [← hread, hvalue]
  | some n =>
    have hwhole : s.toList.all isDecimal = true := by rw [← hread, hvalue, Option.isSome_some]
    rw [hwhole, hself hwhole, ofDigits, foldl_asciiDigit hvalue]
    simp

end Number

end EventHub
