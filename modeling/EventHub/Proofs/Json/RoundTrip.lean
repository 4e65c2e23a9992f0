import EventHub.Proofs.Assoc
import EventHub.Proofs.Json.Atoms
import EventHub.Proofs.Value.Json
import Mathlib.Data.List.Nodup

/-!
# JSON read back

The reader gives back every value that was written, as long as the value is no deeper than the reader goes.

* **Carried values** (`Value.IsCarried`, `isAscii_chars`): what JSON carries from the writer to the reader, in
  ASCII.
* **Rows** (`readItems_separated`, `readMembers_separated`): the items of a list and the entries of an
  object, one behind the other, when each of them is read back (`ReadsBack`).
* `readsBack_of_isCarried`: every carried value is read back in front of whatever closes it.
* `readChars_chars`: a carried value is read back from its own text.
-/

namespace EventHub

/-- Values that JSON carries: null, truth values, integers with no more digits than can be read, texts, lists of
such values, and maps of such values with distinct keys. -/
inductive Value.IsCarried : Value → Prop
  | null : IsCarried null
  | bool (b : Bool) : IsCarried (bool b)
  | int {n : Int} (short : (Number.natText n.natAbs).length ≤ Number.maxIntDigits) : IsCarried (int n)
  | text (s : String) : IsCarried (text s)
  | list {items : List Value} (each : ∀ v ∈ items, v.IsCarried) : IsCarried (list items)
  | map {fields : Fields} (distinct : (Assoc.keys fields).Nodup) (each : ∀ e ∈ fields, e.2.IsCarried) :
    IsCarried (map fields)

theorem Value.IsCarried.isJson {v : Value} (hv : v.IsCarried) : v.isJson = true := by
  induction hv with
  | null | bool _ | int _ | text _ => rfl
  | list _ ih => exact isJsonItems_iff.2 ih
  | map _ _ ih => exact isJsonFields_iff.2 ih

namespace Json

/-! ## Written values -/

theorem separated_cons (part next : List Char) (rest : List (List Char)) :
    separated (part :: next :: rest) = part ++ ',' :: ' ' :: separated (next :: rest) := rfl

theorem itemChars_eq (items : List Value) : itemChars items = items.map chars := by
  induction items with
  | nil => rw [itemChars, List.map_nil]
  | cons v rest ih => rw [itemChars, ih, List.map_cons]

theorem fieldChars_eq (fields : Fields) :
    fieldChars fields = fields.map fun e => textChars e.1 ++ ':' :: ' ' :: chars e.2 := by
  induction fields with
  | nil => rw [fieldChars, List.map_nil]
  | cons e rest ih => rw [fieldChars, ih, List.map_cons]

theorem IsAscii.separated {parts : List (List Char)} (hall : ∀ part ∈ parts, IsAscii part) :
    IsAscii (separated parts) := by
  induction parts with
  | nil => exact nofun
  | cons part rest ih =>
    obtain ⟨hpart, hrest⟩ := List.forall_mem_cons.1 hall
    cases rest with
    | nil => exact hpart
    | cons next rest =>
      rw [separated_cons]
      exact List.forall_mem_append.2 ⟨hpart, List.forall_mem_cons.2 ⟨by decide,
        List.forall_mem_cons.2 ⟨by decide, ih hrest⟩⟩⟩

/-- Carried values are written in ASCII. -/
theorem isAscii_chars {v : Value} (hv : v.IsCarried) : IsAscii (chars v) := by
  induction hv with
  | null =>
    rw [chars]
    exact isAscii_of_all (by decide)
  | bool b =>
    rw [chars]
    cases b with
    | true => exact isAscii_of_all (by decide)
    | false => exact isAscii_of_all (by decide)
  | @int n _ =>
    rw [chars]
    exact isAscii_intText n
  | text s =>
    rw [chars]
    exact isAscii_textChars s
  | @list items _ ih =>
    -- The brackets and the separators are ASCII, and so are the parts by induction.
    have hparts : ∀ part ∈ itemChars items, IsAscii part := by
      rw [itemChars_eq]
      exact List.forall_mem_map.2 ih
    rw [chars]
    exact List.forall_mem_append.2 ⟨List.forall_mem_cons.2 ⟨by decide, IsAscii.separated hparts⟩,
      List.forall_mem_singleton.2 (by decide)⟩
  | @map fields _ _ ih =>
    have hparts : ∀ part ∈ fieldChars fields, IsAscii part := by
      rw [fieldChars_eq]
      exact List.forall_mem_map.2 fun e he => List.forall_mem_append.2 ⟨isAscii_textChars e.1,
        List.forall_mem_cons.2 ⟨by decide, List.forall_mem_cons.2 ⟨by decide, ih e he⟩⟩⟩
    rw [chars]
    exact List.forall_mem_append.2 ⟨List.forall_mem_cons.2 ⟨by decide, IsAscii.separated hparts⟩,
      List.forall_mem_singleton.2 (by decide)⟩

/-! ## Blanks -/

theorem skip_of_not_blank {c : Char} (hc : isJsonBlank c = false) (cs : List Char) :
    skip (c :: cs) = c :: cs := List.dropWhile_cons_of_neg (by simp [hc])

theorem skip_blank {c : Char} (hc : isJsonBlank c = false) (cs : List Char) :
    skip (' ' :: c :: cs) = c :: cs := skip_of_not_blank hc cs

/-! ## Rows -/

/-- The text of a value starts with a character that neither is a blank nor closes a list or an object. -/
def Starts (v : Value) : Prop :=
  ∃ c more, chars v = c :: more ∧ isJsonBlank c = false ∧ c ≠ ']' ∧ c ≠ '\x7d'

/-- The value is read back from its text, in front of what closes it, with fuel for twice the text and as many
levels as the value is deep. -/
structure ReadsBack (v : Value) : Prop where
  starts : Starts v
  reads : ∀ fuel levels rest, 2 * (chars v).length ≤ fuel + 1 → v.depth ≤ levels → Closes rest →
    readValue fuel levels (chars v ++ rest) = .ok (v, rest)

theorem closes_cons {c : Char} (hc : c = ',' ∨ c = ']' ∨ c = '\x7d') {rest : List Char} : Closes (c :: rest) := by
  intro d hd
  cases hd
  exact hc

/-- A row starts as its first part does. -/
theorem separated_head (c : Char) (part : List Char) (rest : List (List Char)) :
    ∃ more, separated ((c :: part) :: rest) = c :: more := by
  cases rest with
  | nil => exact ⟨part, rfl⟩
  | cons next rest => exact ⟨_, rfl⟩

/-- The items of a list are read up to its bracket. -/
theorem readItems_separated {items : List Value} (hne : items ≠ []) (hall : ∀ v ∈ items, ReadsBack v)
    {fuel levels : Nat} (hf : 2 * (separated (itemChars items)).length ≤ fuel)
    (hl : Value.depthItems items ≤ levels) (rest : List Char) :
    readItems fuel levels (separated (itemChars items) ++ ']' :: rest) = .ok (items, rest) := by
  induction items generalizing fuel with
  | nil => contradiction
  | cons v items ih =>
    obtain ⟨hv, hitems⟩ := List.forall_mem_cons.1 hall
    obtain ⟨c, part, hstart, hblank, -⟩ := hv.starts
    obtain ⟨hlv, hlitems⟩ := Nat.max_le.1 (Value.depthItems.eq_2 v items ▸ hl)
    have hlong : 0 < (chars v).length := by rw [hstart]; exact Nat.succ_pos _
    -- After the last item stands the bracket, after the others a comma and a blank.
    cases items with
    | nil =>
      rw [itemChars, itemChars, separated] at hf ⊢
      obtain ⟨fuel, rfl⟩ := Nat.exists_eq_succ_of_ne_zero (show fuel ≠ 0 by omega)
      have hread := hv.reads fuel levels (']' :: rest) (by omega) hlv (closes_cons (by decide))
      rw [readItems, hread]
      rfl
    | cons w items =>
      have hrow : separated (itemChars (v :: w :: items)) =
          chars v ++ ',' :: ' ' :: separated (itemChars (w :: items)) := by
        rw [itemChars, itemChars, separated_cons]
      rw [hrow] at hf ⊢
      rw [List.length_append, List.length_cons, List.length_cons] at hf
      obtain ⟨fuel, rfl⟩ := Nat.exists_eq_succ_of_ne_zero (show fuel ≠ 0 by omega)
      obtain ⟨d, next, hnext, hdblank, -⟩ := (hitems w List.mem_cons_self).starts
      obtain ⟨more, hmore⟩ := separated_head d next (itemChars items)
      have hread := hv.reads fuel levels (',' :: ' ' :: separated (itemChars (w :: items)) ++ ']' :: rest)
        (by omega) hlv (closes_cons (by decide))
      have hrest : readItems fuel levels (separated (itemChars (w :: items)) ++ ']' :: rest) =
          .ok (w :: items, rest) := ih (List.cons_ne_nil w items) hitems (by omega) hlitems
      -- The blank after the comma is skipped, and no more, since no item starts with a blank.
      have hskip : skip (' ' :: (separated (itemChars (w :: items)) ++ ']' :: rest)) =
          separated (itemChars (w :: items)) ++ ']' :: rest := by
        rw [itemChars, hnext, hmore]
        exact skip_blank hdblank _
      rw [List.append_assoc, readItems, hread]
      change (readItems fuel levels (skip (' ' :: (separated (itemChars (w :: items)) ++ ']' :: rest))) >>=
        fun r => .ok (v :: r.1, r.2)) = _
      rw [hskip, hrest]
      rfl

/-- One entry of an object is read, and what follows it decides how it goes on. -/
theorem readMembers_entry {v : Value} (hv : Starts v) (key : String) {fuel levels : Nat} {known : Fields}
    {rest : List Char} (hread : readValue fuel levels (chars v ++ rest) = .ok (v, rest)) :
    readMembers (fuel + 1) levels known (textChars key ++ ':' :: ' ' :: (chars v ++ rest)) =
      match skip rest with
      | '\x7d' :: tail => .ok (Assoc.put known key v, tail)
      | ',' :: more => readMembers fuel levels (Assoc.put known key v) (skip more)
      | other => stop .expectedComma other := by
  obtain ⟨c, part, hstart, hblank, -⟩ := hv
  have hskip : skip (' ' :: (chars v ++ rest)) = chars v ++ rest := by
    rw [hstart]
    exact skip_blank hblank _
  have htext : textChars key ++ ':' :: ' ' :: (chars v ++ rest) =
      '"' :: (key.toList.flatMap escapeChar ++ '"' :: ':' :: ' ' :: (chars v ++ rest)) := by
    simp [textChars]
  rw [htext, readMembers, readBody_flatMap]
  change (readValue fuel levels (skip (' ' :: (chars v ++ rest))) >>= fun r => _) = _
  rw [hskip, hread, String.ofList_toList]
  rfl

theorem separated_fields_head (e : String × Value) (fields : Fields) :
    ∃ more, separated (fieldChars (e :: fields)) = '"' :: more := by
  rw [fieldChars]
  exact separated_head '"' _ (fieldChars fields)

/-- The entries of an object are read up to its brace. -/
theorem readMembers_separated {fields : Fields} (hne : fields ≠ []) (hall : ∀ e ∈ fields, ReadsBack e.2)
    {known : Fields} (hd : (Assoc.keys (known ++ fields)).Nodup) {fuel levels : Nat}
    (hf : 2 * (separated (fieldChars fields)).length ≤ fuel) (hl : Value.depthFields fields ≤ levels)
    (rest : List Char) :
    readMembers fuel levels known (separated (fieldChars fields) ++ '\x7d' :: rest) =
      .ok (known ++ fields, rest) := by
  induction fields generalizing fuel known with
  | nil => contradiction
  | cons e fields ih =>
    obtain ⟨key, v⟩ := e
    have hv : ReadsBack v := hall _ List.mem_cons_self
    have hfields : ∀ e ∈ fields, ReadsBack e.2 := (List.forall_mem_cons.1 hall).2
    obtain ⟨hlv, hlfields⟩ := Nat.max_le.1 (Value.depthFields.eq_2 key v fields ▸ hl)
    -- The key is none of those read before, so the entry goes to the end.
    have hput : Assoc.put known key v = known ++ [(key, v)] := by
      refine Assoc.put_of_get?_eq_none ((Assoc.get?_eq_none_iff known key).2 fun hmem => ?_) v
      rw [Assoc.keys, List.map_append] at hd
      exact List.disjoint_of_nodup_append hd hmem List.mem_cons_self
    have hlong : (textChars key ++ ':' :: ' ' :: chars v).length = (textChars key).length + (chars v).length + 2 := by
      simp
      omega
    -- After the last entry stands the brace, after the others a comma and a blank.
    cases fields with
    | nil =>
      rw [fieldChars, fieldChars, separated] at hf ⊢
      obtain ⟨fuel, rfl⟩ := Nat.exists_eq_succ_of_ne_zero (show fuel ≠ 0 by omega)
      have hread := hv.reads fuel levels ('\x7d' :: rest) (by omega) hlv (closes_cons (by decide))
      rw [List.append_assoc, List.cons_append, List.cons_append, readMembers_entry hv.starts key hread, hput]
      rfl
    | cons next fields =>
      have hrow : separated (fieldChars ((key, v) :: next :: fields)) =
          textChars key ++ ':' :: ' ' :: chars v ++ ',' :: ' ' :: separated (fieldChars (next :: fields)) := by
        rw [fieldChars, fieldChars, separated_cons]
      rw [hrow] at hf ⊢
      rw [List.length_append, List.length_cons, List.length_cons, hlong] at hf
      obtain ⟨fuel, rfl⟩ := Nat.exists_eq_succ_of_ne_zero (show fuel ≠ 0 by omega)
      obtain ⟨more, hmore⟩ := separated_fields_head next fields
      have hread := hv.reads fuel levels (',' :: ' ' :: separated (fieldChars (next :: fields)) ++ '\x7d' :: rest)
        (by omega) hlv (closes_cons (by decide))
      have hrest : readMembers fuel levels (known ++ [(key, v)])
          (separated (fieldChars (next :: fields)) ++ '\x7d' :: rest) =
          .ok (known ++ [(key, v)] ++ next :: fields, rest) :=
        ih (List.cons_ne_nil next fields) hfields (by rw [List.append_assoc]; exact hd) (by omega) hlfields
      have hskip : skip (' ' :: (separated (fieldChars (next :: fields)) ++ '\x7d' :: rest)) =
          separated (fieldChars (next :: fields)) ++ '\x7d' :: rest := by
        rw [hmore]
        exact skip_blank (by decide) _
      rw [List.append_assoc, List.append_assoc, List.cons_append, List.cons_append,
        readMembers_entry hv.starts key hread, hput]
      change readMembers fuel levels (known ++ [(key, v)])
        (skip (' ' :: (separated (fieldChars (next :: fields)) ++ '\x7d' :: rest))) = _
      rw [hskip, hrest, List.append_assoc]
      rfl

/-! ## Values -/

section Values

variable {fuel levels : Nat} {rest : List Char}

theorem readValue_list_nil : readValue (fuel + 1) (levels + 1) ('[' :: ']' :: rest) = .ok (.list [], rest) :=
  readValue.eq_4 fuel _ _ _ (Nat.succ_ne_zero _) rfl

theorem readValue_map_nil :
    readValue (fuel + 1) (levels + 1) ('\x7b' :: '\x7d' :: rest) = .ok (.map [], rest) :=
  readValue.eq_7 fuel _ _ _ (Nat.succ_ne_zero _) rfl

/-- A list that is not empty is read by its items. -/
theorem readValue_list_cons {c : Char} {cs : List Char} (hblank : isJsonBlank c = false) (hc : c ≠ ']')
    {items : List Value} (hread : readItems fuel levels (c :: cs) = .ok (items, rest)) :
    readValue (fuel + 1) (levels + 1) ('[' :: c :: cs) = .ok (.list items, rest) := by
  have hskip := skip_of_not_blank hblank cs
  rw [readValue.eq_5 _ _ _ fun tail heq => hc (List.cons.inj (hskip.symm.trans heq)).1, hskip, hread]
  rfl

/-- An object that is not empty is read by its entries. -/
theorem readValue_map_cons {c : Char} {cs : List Char} (hblank : isJsonBlank c = false) (hc : c ≠ '\x7d')
    {fields : Fields} (hread : readMembers fuel levels [] (c :: cs) = .ok (fields, rest)) :
    readValue (fuel + 1) (levels + 1) ('\x7b' :: c :: cs) = .ok (.map fields, rest) := by
  have hskip := skip_of_not_blank hblank cs
  rw [readValue.eq_8 _ _ _ fun tail heq => hc (List.cons.inj (hskip.symm.trans heq)).1, hskip, hread]
  rfl

end Values

/-- Values that are written as a word or a number are read back as scalars are. -/
theorem readsBack_scalar {v : Value} {c : Char} {cs : List Char} (htext : chars v = c :: cs)
    (hc : c ∉ ['"', '[', '\x7b', ']', '\x7d', ' ', '\t', '\n', '\r'])
    (hread : ∀ rest, Closes rest → readScalar (chars v ++ rest) = .ok (v, rest)) : ReadsBack v := by
  simp only [List.mem_cons, List.not_mem_nil, not_or, or_false] at hc
  refine ⟨⟨c, cs, htext, by simp [isJsonBlank, hc], by simp [hc], by simp [hc]⟩, ?_⟩
  intro fuel levels rest hf _ hr
  rw [htext, List.length_cons] at hf
  obtain ⟨fuel, rfl⟩ := Nat.exists_eq_succ_of_ne_zero (show fuel ≠ 0 by omega)
  rw [← hread rest hr, htext, List.cons_append, readValue_scalar (by simp [hc])]

theorem readsBack_int {n : Int} (short : (Number.natText n.natAbs).length ≤ Number.maxIntDigits) :
    ReadsBack (.int n) := by
  have htext : chars (.int n) = (Number.intText n).toList := by rw [chars]
  obtain ⟨c, cs, hstart, hc⟩ := intText_head n
  refine readsBack_scalar (htext.trans hstart) (fun hmem => ?_) fun rest hr => htext ▸ readScalar_int short hr
  obtain rfl | hdigit := hc
  · exact absurd hmem (by decide)
  · have hall : (['"', '[', '\x7b', ']', '\x7d', ' ', '\t', '\n', '\r'].all fun d => !Number.isAsciiDigit d) = true := by
      decide
    have hother := List.all_eq_true.1 hall c hmem
    rw [hdigit] at hother
    cases hother

theorem readsBack_text (s : String) : ReadsBack (.text s) := by
  have htext : chars (.text s) = '"' :: (s.toList.flatMap escapeChar ++ ['"']) := by
    rw [chars]
    rfl
  refine ⟨⟨_, _, htext, by decide, by decide, by decide⟩, fun fuel levels rest hf _ _ => ?_⟩
  rw [htext, List.length_cons] at hf
  obtain ⟨fuel, rfl⟩ := Nat.exists_eq_succ_of_ne_zero (show fuel ≠ 0 by omega)
  rw [htext, List.cons_append, List.append_assoc, List.singleton_append, readValue, readBody_flatMap]
  exact congrArg (fun s => Except.ok (Value.text s, rest)) String.ofList_toList

theorem readsBack_list {items : List Value} (hall : ∀ v ∈ items, ReadsBack v) : ReadsBack (.list items) := by
  have htext : chars (.list items) = '[' :: (separated (itemChars items) ++ [']']) := by
    rw [chars]
    rfl
  refine ⟨⟨_, _, htext, by decide, by decide, by decide⟩, fun fuel levels rest hf hl _ => ?_⟩
  rw [htext, List.length_cons, List.length_append, List.length_singleton] at hf
  rw [Value.depth] at hl
  obtain ⟨fuel, rfl⟩ := Nat.exists_eq_succ_of_ne_zero (show fuel ≠ 0 by omega)
  obtain ⟨levels, rfl⟩ := Nat.exists_eq_succ_of_ne_zero (show levels ≠ 0 by omega)
  rw [htext, List.cons_append, List.append_assoc, List.singleton_append]
  cases items with
  | nil => exact readValue_list_nil
  | cons v items =>
    have hread : readItems fuel levels (separated (itemChars (v :: items)) ++ ']' :: rest) =
        .ok (v :: items, rest) :=
      readItems_separated (List.cons_ne_nil v items) hall (by omega) (by omega) rest
    obtain ⟨c, part, hstart, hblank, hopen, -⟩ := (hall v List.mem_cons_self).starts
    obtain ⟨more, hmore⟩ := separated_head c part (itemChars items)
    rw [itemChars, hstart, hmore] at hread ⊢
    exact readValue_list_cons hblank hopen hread

theorem readsBack_map {fields : Fields} (hd : (Assoc.keys fields).Nodup) (hall : ∀ e ∈ fields, ReadsBack e.2) :
    ReadsBack (.map fields) := by
  have htext : chars (.map fields) = '\x7b' :: (separated (fieldChars fields) ++ ['\x7d']) := by
    rw [chars]
    rfl
  refine ⟨⟨_, _, htext, by decide, by decide, by decide⟩, fun fuel levels rest hf hl _ => ?_⟩
  rw [htext, List.length_cons, List.length_append, List.length_singleton] at hf
  rw [Value.depth] at hl
  obtain ⟨fuel, rfl⟩ := Nat.exists_eq_succ_of_ne_zero (show fuel ≠ 0 by omega)
  obtain ⟨levels, rfl⟩ := Nat.exists_eq_succ_of_ne_zero (show levels ≠ 0 by omega)
  rw [htext, List.cons_append, List.append_assoc, List.singleton_append]
  cases fields with
  | nil => exact readValue_map_nil
  | cons e fields =>
    have hread : readMembers fuel levels [] (separated (fieldChars (e :: fields)) ++ '\x7d' :: rest) =
        .ok (e :: fields, rest) :=
      readMembers_separated (List.cons_ne_nil e fields) hall hd (by omega) (by omega) rest
    obtain ⟨more, hmore⟩ := separated_fields_head e fields
    rw [hmore] at hread ⊢
    exact readValue_map_cons (by decide) (by decide) hread

/-- Every carried value is read back. -/
theorem readsBack_of_isCarried {v : Value} (hv : v.IsCarried) : ReadsBack v := by
  induction hv with
  | null =>
    have htext : chars .null = "null".toList := by rw [chars]
    exact readsBack_scalar htext (by decide) fun rest _ => htext ▸ readScalar_null rest
  | bool b =>
    have htext : chars (.bool b) = if b then "true".toList else "false".toList := by rw [chars]
    cases b with
    | true => exact readsBack_scalar htext (by decide) fun rest _ => htext ▸ readScalar_true rest
    | false => exact readsBack_scalar htext (by decide) fun rest _ => htext ▸ readScalar_false rest
  | int short => exact readsBack_int short
  | text s => exact readsBack_text s
  | list _ ih => exact readsBack_list ih
  | map distinct _ ih => exact readsBack_map distinct ih

/-! ## Whole texts -/

/-- A carried value that is no deeper than the reader goes is read back from its own text. -/
theorem readChars_chars {v : Value} (hv : v.IsCarried) (hd : v.depth ≤ maxLevels) :
    readChars (chars v) = .ok v := by
  obtain ⟨⟨c, cs, htext, hblank, -⟩, hreads⟩ := readsBack_of_isCarried hv
  have hmark : ((chars v).head? == some (Char.ofNat 0xfeff)) = false := by
    have hascii := isAscii_chars hv c (htext ▸ List.mem_cons_self)
    rw [htext, List.head?_cons, beq_eq_false_iff_ne]
    rintro heq
    cases heq
    exact absurd hascii (by decide)
  have hread := hreads (2 * (chars v).length + 2) maxLevels [] (by omega) hd nofun
  rw [List.append_nil] at hread
  have hskip : skip (chars v) = chars v := by
    rw [htext]
    exact skip_of_not_blank hblank cs
  unfold readChars
  rw [hmark, hskip, hread]
  rfl

end Json

end EventHub
