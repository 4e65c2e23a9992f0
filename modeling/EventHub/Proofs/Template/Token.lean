import EventHub.Proofs.Template
import Mathlib.Data.List.TakeWhile

/-!
# Tokens as they are written

A written token is two opening braces, blanks, a path, blanks and two closing braces. Such a text is
read as one token, whatever follows it, and nothing else is.

* **Reading** (`token?_eq_some_iff`): a text begins with a token exactly when it begins with a
  written one, which has the path and the length of what is read.
* **Whole texts** (`wholeToken?_eq_some_iff`): a text that is one token is a written one. Blanks around it
  do not matter (`stripChars_surrounded`).
* **Values** (`Value.resolve_of_texts`): to resolve the tokens of a value is to resolve those of each of
  its texts, and to leave all else of it as it is.
-/

namespace EventHub

/-! ## Runs of characters -/

section Runs

variable {p : Char → Bool} {cs rest : List Char}

/-- A run of characters ends where the first one stands that is of another kind. -/
theorem takeWhile_run (hin : ∀ c ∈ cs, p c = true) (hout : ∀ c ∈ rest.head?, p c = false) :
    (cs ++ rest).takeWhile p = cs := by
  rw [List.takeWhile_append_of_pos hin]
  cases rest with
  | nil => simp
  | cons c rest => rw [List.takeWhile_cons_of_neg (by simp [hout c rfl]), List.append_nil]

theorem dropWhile_run (hin : ∀ c ∈ cs, p c = true) (hout : ∀ c ∈ rest.head?, p c = false) :
    (cs ++ rest).dropWhile p = rest := by
  rw [List.dropWhile_append_of_pos hin]
  cases rest with
  | nil => rfl
  | cons c rest => rw [List.dropWhile_cons_of_neg (by simp [hout c rfl])]

end Runs

/-- No blank stands in a path. -/
theorem isPathChar_of_isBlank {c : Char} (hc : Text.isBlank c = true) : isPathChar c = false := by
  have hall : ∀ n ∈ Text.blankCodes, isPathChar (Char.ofNat n) = false := by decide +kernel
  have := hall c.toNat (List.contains_iff_mem.1 hc)
  rwa [Char.ofNat_toNat] at this

theorem not_isBlank_of_isPathChar {c : Char} (hc : isPathChar c = true) : Text.isBlank c = false := by
  cases hb : Text.isBlank c with
  | false => rfl
  | true => rw [isPathChar_of_isBlank hb] at hc; cases hc

/-- A brace is neither a blank nor a character of a path. -/
theorem brace_outside : Text.isBlank '\x7b' = false ∧ Text.isBlank '\x7d' = false ∧
    isPathChar '\x7b' = false ∧ isPathChar '\x7d' = false := by decide

/-! ## Written tokens -/

/-- A path between double braces, with blanks before it and after it. -/
structure WrittenToken where
  before : List Char
  path : List Char
  after : List Char
  before_blank : ∀ c ∈ before, Text.isBlank c = true
  path_ne_nil : path ≠ []
  path_chars : ∀ c ∈ path, isPathChar c = true
  after_blank : ∀ c ∈ after, Text.isBlank c = true

namespace WrittenToken

/-- The text of the token. -/
def chars (w : WrittenToken) : List Char :=
  '\x7b' :: '\x7b' :: (w.before ++ (w.path ++ (w.after ++ ['\x7d', '\x7d'])))

/-- The token that is read. -/
def read (w : WrittenToken) : Token := ⟨w.path, w.chars.length⟩

theorem read_length_pos (w : WrittenToken) : 0 < w.read.length := Nat.succ_pos _

theorem read_path (w : WrittenToken) : w.read.path = w.path := rfl

theorem token?_chars (w : WrittenToken) (rest : List Char) :
    token? (w.chars ++ rest) = some w.read := by
  obtain ⟨before, path, after, hbefore, hne, hpath, hafter⟩ := w
  obtain ⟨c, more, rfl⟩ := List.exists_cons_of_ne_nil hne
  let closing : List Char := '\x7d' :: '\x7d' :: rest
  have hclosing : ∀ d ∈ (after ++ closing).head?, isPathChar d = false := by
    cases after with
    | nil => simp [closing, brace_outside]
    | cons d more =>
      intro e he
      obtain rfl : d = e := by simpa using he
      exact isPathChar_of_isBlank (hafter d List.mem_cons_self)
  have hinner : (before ++ (c :: more ++ (after ++ closing))).dropWhile Text.isBlank =
      c :: more ++ (after ++ closing) :=
    dropWhile_run hbefore (by simpa using not_isBlank_of_isPathChar (hpath c List.mem_cons_self))
  have hend : (after ++ closing).dropWhile Text.isBlank = closing :=
    dropWhile_run hafter (by simp [closing, brace_outside])
  have htext : chars ⟨before, c :: more, after, hbefore, hne, hpath, hafter⟩ ++ rest =
      '\x7b' :: '\x7b' :: (before ++ (c :: more ++ (after ++ closing))) := by
    simp [chars, closing]
  rw [htext, token?, hinner, takeWhile_run hpath hclosing, dropWhile_run hpath hclosing, hend]
  simp only [List.isEmpty_cons, closing, read, chars, Option.some.injEq, Token.mk.injEq, true_and,
    List.length_append, List.length_cons, List.length_nil]
  omega

end WrittenToken

/-- A text begins with a token exactly when it begins with a written one. -/
theorem token?_eq_some_iff {cs : List Char} {t : Token} :
    token? cs = some t ↔ ∃ (w : WrittenToken) (rest : List Char), cs = w.chars ++ rest ∧ t = w.read := by
  refine ⟨fun h => ?_, ?_⟩
  · unfold token? at h
    split at h
    case h_2 => cases h
    rename_i text
    dsimp only at h
    split at h
    case h_2 => cases h
    rename_i after hempty hclosing
    cases h
    refine ⟨⟨text.takeWhile Text.isBlank, (text.dropWhile Text.isBlank).takeWhile isPathChar,
      ((text.dropWhile Text.isBlank).dropWhile isPathChar).takeWhile Text.isBlank,
      fun c hc => List.mem_takeWhile_imp hc, by simpa using hempty,
      fun c hc => List.mem_takeWhile_imp hc, fun c hc => List.mem_takeWhile_imp hc⟩, after, ?_⟩
    -- Reading cuts the text after the braces at the first character that is no blank, no part of a path.
    have htext : text = text.takeWhile Text.isBlank ++
        ((text.dropWhile Text.isBlank).takeWhile isPathChar ++
          (((text.dropWhile Text.isBlank).dropWhile isPathChar).takeWhile Text.isBlank ++
            '\x7d' :: '\x7d' :: after)) := by
      rw [← hclosing, List.takeWhile_append_dropWhile, List.takeWhile_append_dropWhile,
        List.takeWhile_append_dropWhile]
    refine ⟨?_, ?_⟩
    · simpa [WrittenToken.chars] using htext
    · have hlength := congrArg List.length htext
      simp only [WrittenToken.read, WrittenToken.chars, Token.mk.injEq, true_and, List.length_append,
        List.length_cons, List.length_nil] at hlength ⊢
      omega
  · rintro ⟨w, rest, rfl, rfl⟩
    exact w.token?_chars rest

/-- A text is one token exactly when it is a written one. -/
theorem wholeToken?_eq_some_iff {cs : List Char} {t : Token} :
    wholeToken? cs = some t ↔ ∃ w : WrittenToken, cs = w.chars ∧ t = w.read := by
  unfold wholeToken?
  rw [Option.filter_eq_some_iff, token?_eq_some_iff]
  constructor
  · rintro ⟨⟨w, rest, rfl, rfl⟩, hlength⟩
    have : rest = [] := by
      have : w.chars.length = (w.chars ++ rest).length := by simpa [WrittenToken.read] using hlength
      simpa using this
    exact ⟨w, by simp [this], rfl⟩
  · rintro ⟨w, rfl, rfl⟩
    exact ⟨⟨w, [], by simp, rfl⟩, by simp [WrittenToken.read]⟩

/-! ## Blanks around -/

/-- What is left of a text without the blanks at its ends, and those blanks. -/
theorem stripChars_split (cs : List Char) : ∃ front back : List Char,
    cs = front ++ (Text.stripChars cs ++ back) ∧
      (∀ c ∈ front, Text.isBlank c = true) ∧ ∀ c ∈ back, Text.isBlank c = true := by
  let inner := (cs.dropWhile Text.isBlank).reverse
  refine ⟨cs.takeWhile Text.isBlank, (inner.takeWhile Text.isBlank).reverse, ?_,
    fun c hc => List.mem_takeWhile_imp hc,
    fun c hc => List.mem_takeWhile_imp (List.mem_reverse.1 hc)⟩
  have hinner : Text.stripChars cs ++ (inner.takeWhile Text.isBlank).reverse = inner.reverse := by
    rw [Text.stripChars, ← List.reverse_append, List.takeWhile_append_dropWhile]
  rw [hinner, List.reverse_reverse, List.takeWhile_append_dropWhile]

/-- The blanks around a written token are dropped. -/
theorem stripChars_surrounded (w : WrittenToken) {front back : List Char}
    (hfront : ∀ c ∈ front, Text.isBlank c = true) (hback : ∀ c ∈ back, Text.isBlank c = true) :
    Text.stripChars (front ++ (w.chars ++ back)) = w.chars := by
  have hreverse : (w.chars ++ back).reverse = back.reverse ++ w.chars.reverse := List.reverse_append
  have hlast : ∀ c ∈ w.chars.reverse.head?, Text.isBlank c = false := by
    simp [WrittenToken.chars, brace_outside]
  rw [Text.stripChars, dropWhile_run hfront (by simp [WrittenToken.chars, brace_outside]), hreverse,
    dropWhile_run (fun c hc => hback c (List.mem_reverse.1 hc)) hlast, List.reverse_reverse]

/-! ## Values -/

namespace Value

mutual

/-- The texts of a value that tokens are looked for in: all but keys, and those within other values. -/
def texts : Value → List String
  | text s => [s]
  | list items | tuple items => textsOfItems items
  | map fields => textsOfFields fields
  | table entries => textsOfEntries entries
  | _ => []

/-- The texts of all items. -/
def textsOfItems : List Value → List String
  | [] => []
  | v :: rest => v.texts ++ textsOfItems rest

/-- The texts of all values of a map. -/
def textsOfFields : List (String × Value) → List String
  | [] => []
  | (_, v) :: rest => v.texts ++ textsOfFields rest

/-- The texts of all values of a table. -/
def textsOfEntries : List (Value × Value) → List String
  | [] => []
  | (_, v) :: rest => v.texts ++ textsOfEntries rest

end

mutual

/-- The value with something else in the place of each of its texts. Keys, the order and the number of
items and entries, and all that is no text stay. -/
def mapTexts (f : String → Value) : Value → Value
  | text s => f s
  | list items => list (mapTextsOfItems f items)
  | tuple items => tuple (mapTextsOfItems f items)
  | map fields => map (mapTextsOfFields f fields)
  | table entries => table (mapTextsOfEntries f entries)
  | v => v

/-- Every item with its texts replaced. -/
def mapTextsOfItems (f : String → Value) : List Value → List Value
  | [] => []
  | v :: rest => v.mapTexts f :: mapTextsOfItems f rest

/-- Every value of a map with its texts replaced. -/
def mapTextsOfFields (f : String → Value) : List (String × Value) → List (String × Value)
  | [] => []
  | (k, v) :: rest => (k, v.mapTexts f) :: mapTextsOfFields f rest

/-- Every value of a table with its texts replaced. -/
def mapTextsOfEntries (f : String → Value) : List (Value × Value) → List (Value × Value)
  | [] => []
  | (k, v) :: rest => (k, v.mapTexts f) :: mapTextsOfEntries f rest

end

variable {values : Value} {f : String → Value}

mutual

/-- The texts of a value are resolved each on its own. -/
theorem resolve_of_texts : ∀ {v : Value}, (∀ s ∈ v.texts, resolveText values s = .ok (f s)) →
    resolve values v = .ok (v.mapTexts f)
  | text s, h => by
    rw [resolve, mapTexts]
    exact h s (by simp [texts])
  | list items, h => by
    rw [resolve, mapTexts, resolveItems_of_texts (by simpa [texts] using h)]
    rfl
  | tuple items, h => by
    rw [resolve, mapTexts, resolveItems_of_texts (by simpa [texts] using h)]
    rfl
  | map fields, h => by
    rw [resolve, mapTexts, resolveFields_of_texts (by simpa [texts] using h)]
    rfl
  | table entries, h => by
    rw [resolve, mapTexts, resolveEntries_of_texts (by simpa [texts] using h)]
    rfl
  | null, _ | bool _, _ | int _, _ | float _, _ | nan _, _ | bytes _, _ | set _, _ | moment _, _
  | function _, _ | record _ _, _ | inputPart _, _ => by simp [resolve, mapTexts]

theorem resolveItems_of_texts : ∀ {items : List Value},
    (∀ s ∈ textsOfItems items, resolveText values s = .ok (f s)) →
    resolveItems values items = .ok (mapTextsOfItems f items)
  | [], _ => by rw [resolveItems, mapTextsOfItems]
  | v :: rest, h => by
    obtain ⟨hv, hrest⟩ := List.forall_mem_append.1 h
    rw [resolveItems, mapTextsOfItems, resolve_of_texts hv, resolveItems_of_texts hrest]
    rfl

theorem resolveFields_of_texts : ∀ {fields : Fields},
    (∀ s ∈ textsOfFields fields, resolveText values s = .ok (f s)) →
    resolveFields values fields = .ok (mapTextsOfFields f fields)
  | [], _ => by rw [resolveFields, mapTextsOfFields]
  | (k, v) :: rest, h => by
    obtain ⟨hv, hrest⟩ := List.forall_mem_append.1 h
    rw [resolveFields, mapTextsOfFields, resolve_of_texts hv, resolveFields_of_texts hrest]
    rfl

theorem resolveEntries_of_texts : ∀ {entries : List (Value × Value)},
    (∀ s ∈ textsOfEntries entries, resolveText values s = .ok (f s)) →
    resolveEntries values entries = .ok (mapTextsOfEntries f entries)
  | [], _ => by rw [resolveEntries, mapTextsOfEntries]
  | (k, v) :: rest, h => by
    obtain ⟨hv, hrest⟩ := List.forall_mem_append.1 h
    rw [resolveEntries, mapTextsOfEntries, resolve_of_texts hv, resolveEntries_of_texts hrest]
    rfl

end

end Value

end EventHub
