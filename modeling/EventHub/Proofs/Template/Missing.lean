import EventHub.Proofs.Template.Token
import Mathlib.Data.List.Infix

/-!
# Tokens that lead nowhere

A token whose path leads nowhere is left as it is written, and so is all that stands around it. When
none of the tokens of a template leads anywhere, the template stays as it is.

* **Texts** (`resolvePieces_of_unmet`): the scan gives back what it passes, character by character, and a
  text that is one token among blanks keeps its blanks (`resolveText_of_unmet`).
* **Nothing to look in** (`Value.lookupChars_empty`): in an empty map every path leads nowhere.
* **Templates** (`Value.resolve_of_unmet`): a template none of whose tokens leads anywhere is its own
  resolution.
-/

namespace EventHub

/-- Every token that is written in the text leads nowhere. -/
def Unmet (values : Value) (cs : List Char) : Prop :=
  ∀ w : WrittenToken, w.chars <:+: cs → values.lookupChars w.path = .ok none

namespace Unmet

variable {values : Value} {cs ds : List Char}

theorem of_part (h : Unmet values cs) (hd : ds <:+: cs) : Unmet values ds :=
  fun w hw => h w (hw.trans hd)

/-- A token at the start of such a text is not empty, and it leads nowhere. -/
theorem at_start (h : Unmet values cs) {t : Token} (ht : token? cs = some t) :
    0 < t.length ∧ values.lookupChars t.path = .ok none := by
  obtain ⟨w, rest, rfl, rfl⟩ := token?_eq_some_iff.1 ht
  exact ⟨w.read_length_pos, h w (List.prefix_append _ _).isInfix⟩

end Unmet

/-- The tokens of a text are those that are read at its characters. -/
theorem unmet_iff {values : Value} {cs : List Char} : Unmet values cs ↔
    ∀ t ∈ cs.tails.filterMap token?, values.lookupChars t.path = .ok none := by
  constructor
  · intro h t ht
    obtain ⟨tail, htail, ht⟩ := List.mem_filterMap.1 ht
    exact ((h.of_part ((List.mem_tails _ _).1 htail).isInfix).at_start ht).2
  · rintro h w ⟨front, back, rfl⟩
    refine h w.read (List.mem_filterMap.2 ⟨w.chars ++ back, ?_, w.token?_chars back⟩)
    exact (List.mem_tails _ _).2 ⟨front, (List.append_assoc _ _ _).symm⟩

variable {values : Value}

/-- The scan passes what belongs to the last token and gives back all that follows. The induction is on the
text, and a token that is read goes on as characters that are skipped. -/
theorem resolvePieces_of_unmet {cs : List Char} (h : Unmet values cs) (skip : Nat) :
    resolvePieces values skip cs = .ok (cs.drop skip) := by
  induction cs generalizing skip with
  | nil => rw [resolvePieces_nil, List.drop_nil]
  | cons c rest ih =>
    have ih := ih (h.of_part (List.suffix_cons c rest).isInfix)
    cases skip with
    | succ skip => rw [resolvePieces, ih, List.drop_succ_cons]
    | zero =>
      rw [resolvePieces]
      cases ht : token? (c :: rest) with
      | none =>
        dsimp only
        rw [ih]
        rfl
      | some t =>
        obtain ⟨hlength, hlookup⟩ := h.at_start ht
        obtain ⟨n, hn⟩ := Nat.exists_eq_add_one.2 hlength
        have hback : (c :: rest).take t.length ++ rest.drop (t.length - 1) = c :: rest := by
          rw [hn, List.take_succ_cons, Nat.add_sub_cancel, List.cons_append, List.take_append_drop]
        dsimp only
        rw [hlookup, ih]
        exact congrArg Except.ok hback

/-- A text stays as it is, and so do the blanks around one that is a token. -/
theorem resolveText_of_unmet {s : String} (h : Unmet values s.toList) :
    resolveText values s = .ok (.text s) := by
  unfold resolveText
  cases ht : wholeToken? (Text.stripChars s.toList) with
  | none =>
    dsimp only
    rw [resolvePieces_of_unmet h]
    exact congrArg (fun s => Except.ok (Value.text s)) String.ofList_toList
  | some t =>
    obtain ⟨w, hw, rfl⟩ := wholeToken?_eq_some_iff.1 ht
    dsimp only
    rw [w.read_path, h w (hw ▸ stripChars_part _)]
    rfl

namespace Value

/-- In an empty map there is nothing to be found. -/
theorem lookupChars_empty (path : List Char) : (map []).lookupChars path = .ok none := by
  obtain ⟨first, more, hsegments⟩ := List.exists_cons_of_ne_nil (segmentsOf_ne_nil path)
  rw [lookupChars, hsegments]
  rfl

mutual

/-- A value whose texts are replaced by themselves is the value. -/
theorem mapTexts_text : ∀ v : Value, v.mapTexts text = v
  | text _ | null | bool _ | int _ | float _ | nan _ | bytes _ | set _ | moment _ | function _
  | record _ _ | inputPart _ => by rw [mapTexts] <;> simp
  | list items => by rw [mapTexts, mapTextsOfItems_text items]
  | tuple items => by rw [mapTexts, mapTextsOfItems_text items]
  | map fields => by rw [mapTexts, mapTextsOfFields_text fields]
  | table entries => by rw [mapTexts, mapTextsOfEntries_text entries]

theorem mapTextsOfItems_text : ∀ items : List Value, mapTextsOfItems text items = items
  | [] => by rw [mapTextsOfItems]
  | v :: rest => by rw [mapTextsOfItems, mapTexts_text v, mapTextsOfItems_text rest]

theorem mapTextsOfFields_text : ∀ fields : Fields, mapTextsOfFields text fields = fields
  | [] => by rw [mapTextsOfFields]
  | (k, v) :: rest => by rw [mapTextsOfFields, mapTexts_text v, mapTextsOfFields_text rest]

theorem mapTextsOfEntries_text : ∀ entries : List (Value × Value),
    mapTextsOfEntries text entries = entries
  | [] => by rw [mapTextsOfEntries]
  | (k, v) :: rest => by rw [mapTextsOfEntries, mapTexts_text v, mapTextsOfEntries_text rest]

end

/-- A template none of whose tokens leads anywhere stays as it is, and any template does when there is
nothing to look in. -/
theorem resolve_of_unmet (template : Value) :
    (∀ values, (∀ s ∈ template.texts, Unmet values s.toList) → resolve values template = .ok template) ∧
    resolve (map []) template = .ok template := by
  have hstays {values : Value} (h : ∀ s ∈ template.texts, Unmet values s.toList) :
      resolve values template = .ok template := by
    rw [resolve_of_texts fun s hs => resolveText_of_unmet (h s hs), mapTexts_text]
  exact ⟨fun _ => hstays, hstays fun _ _ w _ => lookupChars_empty w.path⟩

/-- Texts with a token between blanks, with one between stray braces, and with braces that make none. -/
def unmetTemplate : Value :=
  map [("note", text " \x7b\x7ba.b\x7d\x7d "),
    ("steps", list [text "x\x7b\x7b\x7b c \x7d\x7d\x7d", tuple [text "\x7b\x7b \x7d\x7d", int 1]])]

/-- The first segment of one path leads somewhere, the second does not. -/
theorem resolve_of_unmet_braces :
    (∀ s ∈ unmetTemplate.texts, Unmet (map [("a", map [("c", null)])]) s.toList) ∧
    resolve (map [("a", map [("c", null)])]) unmetTemplate = .ok unmetTemplate := by
  have hread : unmetTemplate.texts.flatMap (fun s => s.toList.tails.filterMap token?) =
      [⟨['a', '.', 'b'], 7⟩, ⟨['c'], 7⟩] := by decide +kernel
  have h : ∀ s ∈ unmetTemplate.texts, Unmet (map [("a", map [("c", null)])]) s.toList := by
    intro s hs
    refine unmet_iff.2 fun t ht => ?_
    have hmem : t ∈ unmetTemplate.texts.flatMap fun s => s.toList.tails.filterMap token? :=
      List.mem_flatMap.2 ⟨s, hs, ht⟩
    rw [hread] at hmem
    obtain rfl | rfl : t = ⟨['a', '.', 'b'], 7⟩ ∨ t = ⟨['c'], 7⟩ := by simpa using hmem
    · rfl
    · rfl
  exact ⟨h, (resolve_of_unmet unmetTemplate).1 _ h⟩

end Value

end EventHub
