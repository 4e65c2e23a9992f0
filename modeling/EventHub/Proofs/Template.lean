import EventHub.Template

/-!
# Texts without tokens

A token begins with two opening braces. A text in which no two of them stand together is left as it
is when tokens are resolved, and so is a value all of whose texts are such.

* **Texts** (`Tokenless`): no token begins anywhere in such a text (`token?_of_tokenless`), so nothing
  of it is replaced (`resolveText_of_tokenless`).
* **Tokens** (`resolveText_token`): a text that is one token becomes what its path leads to.
* **Values** (`Value.isTokenless`, `Value.resolve_of_isTokenless`): values that stay as they are.
-/

namespace EventHub

/-! ## Texts -/

/-- No two opening braces stand together in the text. -/
def Tokenless (cs : List Char) : Prop := ¬ ['\x7b', '\x7b'] <:+: cs

instance (cs : List Char) : Decidable (Tokenless cs) := inferInstanceAs (Decidable (¬ _))

theorem Tokenless.of_part {cs ds : List Char} (h : Tokenless cs) (hd : ds <:+: cs) : Tokenless ds :=
  fun hb => h (hb.trans hd)

/-- Before a text without tokens, a character that opens none changes nothing. -/
theorem Tokenless.cons {c : Char} {cs : List Char} (hc : c ≠ '\x7b') (h : Tokenless cs) :
    Tokenless (c :: cs) := by
  intro hb
  rcases List.infix_cons_iff.1 hb with hp | hi
  · exact hc (List.cons_prefix_cons.1 hp).1.symm
  · exact h hi

theorem Tokenless.append {ds cs : List Char} (hd : '\x7b' ∉ ds) (h : Tokenless cs) :
    Tokenless (ds ++ cs) := by
  induction ds with
  | nil => exact h
  | cons d ds ih =>
    obtain ⟨hne, hrest⟩ := not_or.1 (mt List.mem_cons.2 hd)
    exact (ih hrest).cons (Ne.symm hne)

theorem tokenless_reverse {cs : List Char} : Tokenless cs.reverse ↔ Tokenless cs := by
  unfold Tokenless
  rw [← List.reverse_infix, List.reverse_reverse]
  rfl

/-- A text that opens nothing may follow, too. -/
theorem Tokenless.append_right {cs ds : List Char} (h : Tokenless cs) (hd : '\x7b' ∉ ds) :
    Tokenless (cs ++ ds) := by
  rw [← tokenless_reverse, List.reverse_append]
  exact (tokenless_reverse.2 h).append (mt List.mem_reverse.1 hd)

theorem token?_of_tokenless {cs : List Char} (h : Tokenless cs) : token? cs = none := by
  unfold token?
  split
  · rename_i rest
    exact absurd (List.prefix_append ['\x7b', '\x7b'] rest).isInfix h
  · rfl

theorem resolvePieces_of_tokenless (values : Value) {cs : List Char} (h : Tokenless cs) :
    resolvePieces values 0 cs = .ok cs := by
  induction cs with
  | nil => rfl
  | cons c rest ih =>
    rw [resolvePieces, token?_of_tokenless h]
    dsimp only
    rw [ih (h.of_part (List.suffix_cons c rest).isInfix)]
    rfl

theorem stripChars_part (cs : List Char) : Text.stripChars cs <:+: cs := by
  have hfront : cs.dropWhile Text.isBlank <:+: cs := (List.dropWhile_suffix _).isInfix
  refine List.IsInfix.trans ?_ hfront
  rw [← List.reverse_infix]
  simpa [Text.stripChars] using (List.dropWhile_suffix Text.isBlank).isInfix

/-- A text without tokens stays as it is. -/
theorem resolveText_of_tokenless (values : Value) {s : String} (h : Tokenless s.toList) :
    resolveText values s = .ok (.text s) := by
  have hwhole : wholeToken? (Text.stripChars s.toList) = none := by
    rw [wholeToken?, token?_of_tokenless (h.of_part (stripChars_part _))]
    rfl
  unfold resolveText
  rw [hwhole]
  dsimp only
  rw [resolvePieces_of_tokenless values h]
  exact congrArg (fun s => Except.ok (Value.text s)) (String.ofList_toList)

/-- A text that is one token becomes the value that its path leads to, as it is. -/
theorem resolveText_token {values v : Value} {s : String} {token : Token}
    (ht : wholeToken? (Text.stripChars s.toList) = some token)
    (hv : values.lookupChars token.path = .ok (some v)) : resolveText values s = .ok v := by
  unfold resolveText
  rw [ht]
  dsimp only
  rw [hv]
  rfl

/-! ## Values -/

namespace Value

mutual

/-- Is every text of the value, but for keys, without tokens? -/
def isTokenless : Value → Bool
  | text s => decide (Tokenless s.toList)
  | map fields => isTokenlessFields fields
  | list items | tuple items => isTokenlessItems items
  | table entries => isTokenlessEntries entries
  | _ => true

/-- Is every text of every item without tokens? -/
def isTokenlessItems : List Value → Bool
  | [] => true
  | v :: rest => v.isTokenless && isTokenlessItems rest

/-- Is every text of every entry without tokens? -/
def isTokenlessFields : List (String × Value) → Bool
  | [] => true
  | (_, v) :: rest => v.isTokenless && isTokenlessFields rest

/-- Is every text of every entry of a table, but for keys, without tokens? -/
def isTokenlessEntries : List (Value × Value) → Bool
  | [] => true
  | (_, v) :: rest => v.isTokenless && isTokenlessEntries rest

end

mutual

/-- A value without tokens stays as it is. -/
theorem resolve_of_isTokenless (values : Value) : ∀ {v : Value}, v.isTokenless = true →
    resolve values v = .ok v
  | text s, h => by
    rw [resolve]
    exact resolveText_of_tokenless values (by simpa [isTokenless] using h)
  | map fields, h => by
    rw [resolve, resolveFields_of_isTokenless values (by simpa [isTokenless] using h)]
    rfl
  | list items, h => by
    rw [resolve, resolveItems_of_isTokenless values (by simpa [isTokenless] using h)]
    rfl
  | tuple items, h => by
    rw [resolve, resolveItems_of_isTokenless values (by simpa [isTokenless] using h)]
    rfl
  | table entries, h => by
    rw [resolve, resolveEntries_of_isTokenless values (by simpa [isTokenless] using h)]
    rfl
  | null, _ | bool _, _ | int _, _ | float _, _ | nan _, _ | bytes _, _ | set _, _ | moment _, _
  | function _, _ | record _ _, _ | inputPart _, _ => by simp [resolve]

theorem resolveItems_of_isTokenless (values : Value) : ∀ {items : List Value},
    isTokenlessItems items = true → resolveItems values items = .ok items
  | [], _ => by rw [resolveItems]
  | v :: rest, h => by
    simp only [isTokenlessItems, Bool.and_eq_true] at h
    rw [resolveItems, resolve_of_isTokenless values h.1, resolveItems_of_isTokenless values h.2]
    rfl

theorem resolveFields_of_isTokenless (values : Value) : ∀ {fields : Fields},
    isTokenlessFields fields = true → resolveFields values fields = .ok fields
  | [], _ => by rw [resolveFields]
  | (k, v) :: rest, h => by
    simp only [isTokenlessFields, Bool.and_eq_true] at h
    rw [resolveFields, resolve_of_isTokenless values h.1, resolveFields_of_isTokenless values h.2]
    rfl

theorem resolveEntries_of_isTokenless (values : Value) : ∀ {entries : List (Value × Value)},
    isTokenlessEntries entries = true → resolveEntries values entries = .ok entries
  | [], _ => by rw [resolveEntries]
  | (k, v) :: rest, h => by
    simp only [isTokenlessEntries, Bool.and_eq_true] at h
    rw [resolveEntries, resolve_of_isTokenless values h.1, resolveEntries_of_isTokenless values h.2]
    rfl

end

end Value

end EventHub
