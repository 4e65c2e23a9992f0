import EventHub.Json.Read
import Mathlib.Data.List.TakeWhile

/-!
# Texts and integers in JSON

What the writer makes of a text or an integer is read back as it was, whatever follows it.

* **Hexadecimal digits** (`hex4?_hexText`): the four digits of an escape.
* **Texts** (`readBody_escapeChar`, `readBody_textChars`): characters that stand for themselves, the short
  escapes, and the escapes of one or two UTF-16 units.
* **Integers** (`readNumber_digits`, `readScalar_int`): an integer is read up to a character that cannot
  continue it (`Closes`), if it has no more digits than can be read.
* **ASCII** (`isAscii_textChars`, `isAscii_intText`): all other characters are escaped.
-/

namespace EventHub.Json

/-! ## Hexadecimal digits -/

/-- The last digit of a hexadecimal number comes off its end. -/
theorem hexText_succ {w : Nat} (hw : 0 < w) (n : Nat) :
    Text.hexText (w + 1) n = Text.hexText w (n / 16) ++ [(n % 16).digitChar] := by
  unfold Text.hexText
  obtain ⟨w, rfl⟩ := Nat.exists_eq_succ_of_ne_zero hw.ne'
  rcases Nat.lt_or_ge n 16 with hn | hn
  · rw [Nat.div_eq_of_lt hn, Nat.mod_eq_of_lt hn, Nat.toDigits_of_lt_base hn, Nat.toDigits_zero]
    simp [List.replicate_succ']
  · rw [Nat.toDigits_of_base_le (by decide) hn]
    simp [Nat.add_sub_add_right]

theorem hex4?_hexText {n : Nat} (hn : n < 65536) :
    ∃ a b c d, Text.hexText 4 n = [a, b, c, d] ∧ hex4? a b c d = some n := by
  have hdigit : ∀ d < 16, hexDigit? d.digitChar = some d := by decide
  have htop : Text.hexText 1 (n / 16 / 16 / 16) = [(n / 16 / 16 / 16).digitChar] := by
    rw [Text.hexText, Nat.toDigits_of_lt_base (by omega)]
    rfl
  refine ⟨_, _, _, _, by rw [hexText_succ (by decide), hexText_succ (by decide), hexText_succ (by decide), htop]; rfl, ?_⟩
  simp only [hex4?, hdigit _ (Nat.mod_lt _ (by decide : 16 > 0)), hdigit (n / 16 / 16 / 16) (by omega),
    Option.bind_eq_bind, Option.bind_some]
  congr 1
  omega

/-! ## Texts -/

section Body

variable {start rest cs tail : List Char}

theorem readBody_plain {c : Char} (hquote : c ≠ '"') (hslash : c ≠ '\\') (hlow : 32 ≤ c.toNat)
    (h : readBody start rest = .ok (cs, tail)) : readBody start (c :: rest) = .ok (c :: cs, tail) := by
  rw [readBody, if_neg (by omega), h]
  · rfl
  all_goals simp [hquote, hslash]

theorem readBody_letter {e c : Char} (he : escapeLetter? e = some c)
    (h : readBody start rest = .ok (cs, tail)) :
    readBody start ('\\' :: e :: rest) = .ok (c :: cs, tail) := by
  have hu : e ≠ 'u' := by
    rintro rfl
    cases he
  rw [readBody, he]
  · dsimp only
    rw [h]
    rfl
  all_goals simp [hu]

/-- A unit that does not open a pair. -/
theorem readBody_unit {n : Nat} (hn : n < 65536) (hopens : ¬ (0xd800 ≤ n ∧ n < 0xdc00))
    (h : readBody start rest = .ok (cs, tail)) :
    readBody start (escapeUnit n ++ rest) = .ok (charOfUnit n :: cs, tail) := by
  obtain ⟨a, b, c, d, htext, hvalue⟩ := hex4?_hexText hn
  rw [escapeUnit, htext]
  by_cases hnext : ∃ e f g h i after, rest = '\\' :: 'u' :: e :: f :: g :: h :: i :: after
  · obtain ⟨e, f, g, k, i, after, rfl⟩ := hnext
    change readBody start ('\\' :: 'u' :: a :: b :: c :: d :: '\\' :: 'u' :: e :: f :: g :: k :: i :: after) = _
    rw [readBody.eq_5 _ _ _ _ _ _ _ _ _ _ _ _ hvalue, if_neg (by simpa using hopens), h]
    rfl
  · change readBody start ('\\' :: 'u' :: a :: b :: c :: d :: rest) = _
    rw [readBody.eq_6 _ _ _ _ _ _ _ hvalue (ne_nil_of_readBody h)
      (fun e f g k i after heq => hnext ⟨e, f, g, k, i, after, heq⟩), h]
    rfl

/-- The two units of a character beyond the first plane. -/
theorem readBody_pair {m : Nat} (hm : m < 1048576) (h : readBody start rest = .ok (cs, tail)) :
    readBody start (escapeUnit (0xd800 + m / 1024) ++ escapeUnit (0xdc00 + m % 1024) ++ rest) =
      .ok (Char.ofNat (0x10000 + m) :: cs, tail) := by
  obtain ⟨a, b, c, d, hhigh, hhighValue⟩ := hex4?_hexText (n := 0xd800 + m / 1024) (by omega)
  obtain ⟨e, f, g, k, hlow, hlowValue⟩ := hex4?_hexText (n := 0xdc00 + m % 1024) (by omega)
  obtain ⟨i, after, rfl⟩ := List.exists_cons_of_ne_nil (ne_nil_of_readBody h)
  rw [escapeUnit, escapeUnit, hhigh, hlow]
  change readBody start ('\\' :: 'u' :: a :: b :: c :: d :: '\\' :: 'u' :: e :: f :: g :: k :: i :: after) = _
  rw [readBody.eq_5 _ _ _ _ _ _ _ _ _ _ _ _ hhighValue,
    if_pos (by simp only [Bool.and_eq_true, decide_eq_true_eq]; omega), hlowValue]
  dsimp only
  rw [if_pos (by simp only [Bool.and_eq_true, decide_eq_true_eq]; omega), h]
  have hvalue : 65536 + (0xd800 + m / 1024 - 55296) * 1024 + (0xdc00 + m % 1024 - 56320) = 0x10000 + m := by omega
  rw [hvalue]
  rfl

/-- A character is read back from what is written for it. -/
theorem readBody_escapeChar (c : Char) (h : readBody start rest = .ok (cs, tail)) :
    readBody start (escapeChar c ++ rest) = .ok (c :: cs, tail) := by
  unfold escapeChar
  dsimp only
  -- The cases of `escapeChar` in its order: marks, printable characters, then the short escapes.
  split
  · rename_i hmark
    have hletter : escapeLetter? c = some c := by
      obtain rfl | rfl : c = '"' ∨ c = '\\' := by simpa using hmark
      all_goals rfl
    exact readBody_letter hletter h
  rename_i hmark
  obtain ⟨hquote, hslash⟩ : c ≠ '"' ∧ c ≠ '\\' := by simpa using hmark
  split
  · rename_i hprintable
    rw [Bool.and_eq_true, decide_eq_true_eq] at hprintable
    exact readBody_plain hquote hslash hprintable.1 h
  split
  · rename_i hc
    exact readBody_letter (eq_of_beq hc ▸ rfl) h
  split
  · rename_i hc
    exact readBody_letter (eq_of_beq hc ▸ rfl) h
  split
  · rename_i hc
    exact readBody_letter (eq_of_beq hc ▸ rfl) h
  split
  · rename_i hn
    have hc : Char.ofNat 8 = c := by rw [← eq_of_beq hn, Char.ofNat_toNat]
    exact readBody_letter (hc ▸ rfl) h
  split
  · rename_i hn
    have hc : Char.ofNat 12 = c := by rw [← eq_of_beq hn, Char.ofNat_toNat]
    exact readBody_letter (hc ▸ rfl) h
  -- What is left is written in UTF-16 units. No character has the code of a surrogate, so a single unit is
  -- no half of a pair.
  have hvalid : c.toNat < 0xd800 ∨ 0xdfff < c.toNat ∧ c.toNat < 0x110000 := c.valid
  split
  · rename_i hunit
    have hc : charOfUnit c.toNat = c := by
      rw [charOfUnit, if_neg (by simp only [Bool.and_eq_true, decide_eq_true_eq]; omega), Char.ofNat_toNat]
    have hread := readBody_unit hunit (by omega) h
    rwa [hc] at hread
  · rename_i hpair
    have hread := readBody_pair (m := c.toNat - 65536) (by omega) h
    rwa [Nat.add_sub_cancel' (by omega), Char.ofNat_toNat] at hread

/-- A text is read back up to its quote. -/
theorem readBody_flatMap (start cs rest : List Char) :
    readBody start (cs.flatMap escapeChar ++ '"' :: rest) = .ok (cs, rest) := by
  induction cs with
  | nil => rw [List.flatMap_nil, List.nil_append, readBody]
  | cons c cs ih =>
    rw [List.flatMap_cons, List.append_assoc]
    exact readBody_escapeChar c ih

end Body

/-! ## Integers -/

/-- What follows cannot continue a number: there is nothing, or what stands behind an item. -/
def Closes (rest : List Char) : Prop := ∀ c ∈ rest.head?, c = ',' ∨ c = ']' ∨ c = '\x7d'

theorem isAsciiDigit_of_mem_natText {n : Nat} {c : Char} (hc : c ∈ Number.natText n) :
    Number.isAsciiDigit c = true :=
  (Nat.isDigit_of_mem_toDigits (by decide) (by decide) hc : c.isDigit = true)

theorem natText_cons (n : Nat) : ∃ c ds, Number.natText n = c :: ds ∧ Number.isAsciiDigit c = true := by
  obtain ⟨c, ds, hds⟩ := List.exists_cons_of_ne_nil (Nat.toDigits_ne_nil (b := 10) (n := n))
  refine ⟨c, ds, hds, isAsciiDigit_of_mem_natText (n := n) ?_⟩
  rw [Number.natText, hds]
  exact List.mem_cons_self

theorem ofDigits_natText (n : Nat) : Number.ofDigits (Number.natText n) = n :=
  Nat.ofDigitChars_toDigits (by decide) (by decide)

/-- Only zero starts with a zero. -/
theorem natText_head {n : Nat} (hn : 0 < n) : ∃ c ds, Number.natText n = c :: ds ∧ c ≠ '0' := by
  have hdigit : ∀ d < 10, 0 < d → d.digitChar ≠ '0' := by decide
  induction n using Nat.strongRecOn with
  | ind n ih =>
    unfold Number.natText at ih ⊢
    rcases Nat.lt_or_ge n 10 with hlt | hge
    · exact ⟨n.digitChar, [], Nat.toDigits_of_lt_base hlt, hdigit n hlt hn⟩
    · obtain ⟨c, ds, hds, hc⟩ := ih (n / 10) (by omega) (by omega)
      exact ⟨c, ds ++ [(n % 10).digitChar], by rw [Nat.toDigits_of_base_le (by decide) hge, hds]; rfl, hc⟩

section Numbers

variable {rest : List Char}

theorem splitDigits_append {ds : List Char} (hd : ∀ c ∈ ds, Number.isAsciiDigit c = true) (hr : Closes rest) :
    splitDigits (ds ++ rest) = (ds, rest) := by
  have hstop : rest.takeWhile Number.isAsciiDigit = [] ∧ rest.dropWhile Number.isAsciiDigit = rest := by
    cases rest with
    | nil => exact ⟨rfl, rfl⟩
    | cons c rest => obtain rfl | rfl | rfl := hr c rfl <;> exact ⟨rfl, rfl⟩
  rw [splitDigits, List.takeWhile_append_of_pos hd, List.dropWhile_append_of_pos hd, hstop.1, hstop.2,
    List.append_nil]

theorem readWhole_natText (n : Nat) (hr : Closes rest) :
    readWhole (Number.natText n ++ rest) = some (Number.natText n, rest) := by
  rcases Nat.eq_zero_or_pos n with rfl | hn
  · rfl
  · obtain ⟨c, ds, hds, hc⟩ := natText_head hn
    have hsplit := splitDigits_append (fun _ => isAsciiDigit_of_mem_natText (n := n)) hr
    have hdigit := isAsciiDigit_of_mem_natText (n := n) (hds ▸ List.mem_cons_self)
    rw [hds] at hsplit ⊢
    rw [List.cons_append, readWhole, if_pos hdigit, ← List.cons_append, hsplit]
    exact hc

/-- Nothing that closes a number is a fraction or an exponent. -/
theorem readNumber_natText {start : List Char} {negative : Bool} {n : Nat}
    (hn : (Number.natText n).length ≤ Number.maxIntDigits) (hr : Closes rest) :
    readNumber start negative (Number.natText n ++ rest) =
      .ok (.int (if negative then -n else n), rest) := by
  have hfraction : readFractionDigits rest = none := by
    cases rest with
    | nil => rfl
    | cons c rest => obtain rfl | rfl | rfl := hr c rfl <;> rfl
  have hexponent : readExponentPart rest = none := by
    cases rest with
    | nil => rfl
    | cons c rest => obtain rfl | rfl | rfl := hr c rfl <;> rfl
  unfold readNumber
  rw [readWhole_natText n hr]
  dsimp only
  rw [hfraction]
  dsimp only
  rw [hexponent]
  dsimp only
  rw [if_neg (by omega), ofDigits_natText]

theorem word?_append (word : String) (rest : List Char) : word? word (word.toList ++ rest) = some rest := by
  rw [word?, if_pos (List.isPrefixOf_iff_prefix.2 (List.prefix_append _ _)), ← String.length_toList,
    List.drop_left]

theorem word?_eq_none {word : String} {w c : Char} {ws cs : List Char} (hw : word.toList = w :: ws)
    (hne : c ≠ w) : word? word (c :: cs) = none := by
  rw [word?, hw, List.isPrefixOf, beq_false_of_ne hne.symm]
  rfl

theorem intText_toList (n : Int) : (Number.intText n).toList =
    if n < 0 then '-' :: Number.natText n.natAbs else Number.natText n.natAbs := by
  unfold Number.intText
  split
  · exact (String.toList_append).trans (congrArg ('-' :: ·) String.toList_ofList)
  · exact String.toList_ofList

/-- An integer with no more digits than can be read is read back. -/
theorem readScalar_int {n : Int} (hn : (Number.natText n.natAbs).length ≤ Number.maxIntDigits)
    (hr : Closes rest) : readScalar ((Number.intText n).toList ++ rest) = .ok (.int n, rest) := by
  obtain ⟨c, ds, hds, hdigit⟩ := natText_cons n.natAbs
  have hother (d : Char) (hd : Number.isAsciiDigit d = false) : c ≠ d := by
    rintro rfl
    rw [hd] at hdigit
    cases hdigit
  have hread (start : List Char) (negative : Bool) : readNumber start negative (Number.natText n.natAbs ++ rest) =
      .ok (.int (if negative then -n.natAbs else n.natAbs), rest) := readNumber_natText hn hr
  rw [hds] at hread
  rw [intText_toList, hds]
  -- A minus could also begin `-Infinity`, and a digit begins no word at all.
  split
  · rename_i hneg
    have hword : word? "-Infinity" ('-' :: c :: (ds ++ rest)) = none := by
      rw [word?]
      simp [List.isPrefixOf, (hother 'I' rfl).symm]
    rw [List.cons_append, List.cons_append, readScalar, word?_eq_none (w := 'n') rfl (by decide),
      word?_eq_none (w := 't') rfl (by decide), word?_eq_none (w := 'f') rfl (by decide),
      word?_eq_none (w := 'N') rfl (by decide), word?_eq_none (w := 'I') rfl (by decide), hword]
    have hvalue : -(n.natAbs : Int) = n := by omega
    rw [← hvalue]
    exact hread _ true
  · rename_i hpos
    rw [List.cons_append, readScalar, word?_eq_none (w := 'n') rfl (hother _ rfl),
      word?_eq_none (w := 't') rfl (hother _ rfl), word?_eq_none (w := 'f') rfl (hother _ rfl),
      word?_eq_none (w := 'N') rfl (hother _ rfl), word?_eq_none (w := 'I') rfl (hother _ rfl),
      word?_eq_none (w := '-') rfl (hother _ rfl)]
    · have hvalue : (n.natAbs : Int) = n := by omega
      rw [← hvalue]
      exact hread _ false
    · exact fun _ heq => hother '-' rfl (List.cons.inj heq).1

/-- An integer starts with a digit or a minus. -/
theorem intText_head (n : Int) :
    ∃ c cs, (Number.intText n).toList = c :: cs ∧ (c = '-' ∨ Number.isAsciiDigit c = true) := by
  rw [intText_toList]
  split
  · exact ⟨_, _, rfl, .inl rfl⟩
  · obtain ⟨c, cs, hds, hc⟩ := natText_cons n.natAbs
    exact ⟨c, cs, hds, .inr hc⟩

theorem readScalar_null (rest : List Char) : readScalar ("null".toList ++ rest) = .ok (.null, rest) := by
  unfold readScalar
  rw [word?_append]

theorem readScalar_true (rest : List Char) : readScalar ("true".toList ++ rest) = .ok (.bool true, rest) := by
  unfold readScalar
  rw [word?_append]
  rfl

theorem readScalar_false (rest : List Char) : readScalar ("false".toList ++ rest) = .ok (.bool false, rest) := by
  unfold readScalar
  rw [word?_append]
  rfl

end Numbers

/-! ## ASCII -/

/-- The text is one in ASCII. -/
def IsAscii (cs : List Char) : Prop := ∀ c ∈ cs, c.toNat < 0x80

theorem isAscii_of_all {cs : List Char} (hall : cs.all (·.toNat < 0x80) = true) : IsAscii cs :=
  fun c hc => of_decide_eq_true (List.all_eq_true.1 hall c hc)

theorem isAscii_toDigits (n : Nat) : IsAscii (Nat.toDigits 16 n) := by
  have hdigit : ∀ d < 16, d.digitChar.toNat < 0x80 := by decide
  induction n using Nat.strongRecOn with
  | ind n ih =>
    rcases Nat.lt_or_ge n 16 with hn | hn
    · rw [Nat.toDigits_of_lt_base hn]
      exact List.forall_mem_singleton.2 (hdigit n hn)
    · rw [Nat.toDigits_of_base_le (by decide) hn]
      exact List.forall_mem_append.2
        ⟨ih (n / 16) (by omega), List.forall_mem_singleton.2 (hdigit _ (Nat.mod_lt n (by decide)))⟩

theorem isAscii_escapeUnit (n : Nat) : IsAscii (escapeUnit n) := by
  have hzeros (k : Nat) : IsAscii (List.replicate k '0') := fun c hc => List.eq_of_mem_replicate hc ▸ by decide
  exact List.forall_mem_cons.2 ⟨by decide, List.forall_mem_cons.2 ⟨by decide,
    List.forall_mem_append.2 ⟨hzeros _, isAscii_toDigits n⟩⟩⟩

theorem isAscii_escapeChar (c : Char) : IsAscii (escapeChar c) := by
  have hpair (d : Char) (hd : d.toNat < 0x80) : IsAscii ['\\', d] :=
    List.forall_mem_cons.2 ⟨by decide, List.forall_mem_singleton.2 hd⟩
  unfold escapeChar
  dsimp only
  split
  · rename_i hmark
    obtain rfl | rfl : c = '"' ∨ c = '\\' := by simpa using hmark
    all_goals exact hpair _ (by decide)
  split
  · rename_i hprintable
    rw [Bool.and_eq_true, decide_eq_true_eq, decide_eq_true_eq] at hprintable
    exact List.forall_mem_singleton.2 (by omega)
  split
  · exact hpair 'n' (by decide)
  split
  · exact hpair 'r' (by decide)
  split
  · exact hpair 't' (by decide)
  split
  · exact hpair 'b' (by decide)
  split
  · exact hpair 'f' (by decide)
  split
  · exact isAscii_escapeUnit _
  · exact List.forall_mem_append.2 ⟨isAscii_escapeUnit _, isAscii_escapeUnit _⟩

theorem isAscii_textChars (s : String) : IsAscii (textChars s) := by
  refine List.forall_mem_append.2 ⟨List.forall_mem_cons.2 ⟨by decide, fun d hd => ?_⟩,
    List.forall_mem_singleton.2 (by decide)⟩
  obtain ⟨c, -, hc⟩ := List.mem_flatMap.1 hd
  exact isAscii_escapeChar c d hc

theorem isAscii_intText (n : Int) : IsAscii (Number.intText n).toList := by
  have hdigits : IsAscii (Number.natText n.natAbs) := by
    intro c hc
    have hdigit := isAsciiDigit_of_mem_natText hc
    rw [Number.isAsciiDigit, Bool.and_eq_true, decide_eq_true_eq, decide_eq_true_eq] at hdigit
    exact Nat.lt_of_le_of_lt hdigit.2 (by decide)
  rw [intText_toList]
  split
  · exact List.forall_mem_cons.2 ⟨by decide, hdigits⟩
  · exact hdigits

end EventHub.Json
