import EventHub.Proofs.Template.Token
import EventHub.Proofs.Value.Json

/-!
# Templates in pieces

A text of literals, in which no brace opens, and of written tokens is resolved piece by piece.

* **Values in texts** (`Value.rendered_of_isJson`): a JSON value has a text to put in.
* **Replacing** (`resolvePieces_literal`, `resolvePieces_chars`): a literal is passed, a token is replaced,
  and reading goes on behind it, so that nothing that was put in is read again.
* **Segmentation** (`Piece.alone_of_chars`): the text of pieces is a token between blanks only if one of
  the pieces is a token and the others are blank.
* **Pieces** (`Value.resolve_pieces`): what is made of a text in pieces, and of values that hold texts.
-/

namespace EventHub

/-! ## Values in texts -/

namespace Value

/-- What stands for a JSON value in a text: a text itself, and the JSON text of all else. -/
def inText : Value → List Char
  | text s => s.toList
  | v => Json.chars v

theorem rendered_of_isJson {v : Value} (hv : v.isJson = true) : v.rendered = .ok v.inText := by
  cases v with
  | text s => rfl
  | record kind fields => simp [isJson] at hv
  | _ => exact json_of_isJson hv

end Value

/-! ## Pieces -/

/-- A piece of a template: text in which no brace opens, or a token. -/
inductive Piece
  | literal (cs : List Char) (plain : '\x7b' ∉ cs)
  | token (w : WrittenToken)

namespace Piece

/-- The text of a piece. -/
def chars : Piece → List Char
  | literal cs _ => cs
  | token w => w.chars

/-- The text of pieces. -/
def text (ps : List Piece) : String := String.ofList (ps.flatMap chars)

/-- What a piece becomes: a literal stays, and so does a token whose path leads nowhere. In the place of
any other token stands what its path leads to. -/
def rendered (values : Value) : Piece → List Char
  | literal cs _ => cs
  | token w => match values.lookupChars w.path with
    | .ok (some v) => v.inText
    | _ => w.chars

/-- The piece is blank. -/
def IsBlank (p : Piece) : Prop := ∀ c ∈ p.chars, Text.isBlank c = true

/-- One of the pieces is the token, and all others are blank. -/
def Alone (w : WrittenToken) (ps : List Piece) : Prop :=
  ∃ front back, ps = front ++ token w :: back ∧ ∀ p ∈ front ++ back, p.IsBlank

end Piece

/-! ## Replacing -/

section Replacing

variable {values : Value}

/-- Skipping characters is dropping them. -/
theorem resolvePieces_eq_drop (skip : Nat) (cs : List Char) :
    resolvePieces values skip cs = resolvePieces values 0 (cs.drop skip) := by
  induction cs generalizing skip with
  | nil => rw [List.drop_nil, resolvePieces_nil, resolvePieces_nil]
  | cons c rest ih =>
    cases skip with
    | zero => rfl
    | succ skip => rw [resolvePieces, ih, List.drop_succ_cons]

/-- A literal is passed. -/
theorem resolvePieces_literal {cs rest out : List Char} (plain : '\x7b' ∉ cs)
    (h : resolvePieces values 0 rest = .ok out) :
    resolvePieces values 0 (cs ++ rest) = .ok (cs ++ out) := by
  induction cs with
  | nil => exact h
  | cons c cs ih =>
    obtain ⟨hc, hcs⟩ := not_or.1 (mt List.mem_cons.2 plain)
    have hnone : token? (c :: (cs ++ rest)) = none := by
      unfold token?
      split
      · rename_i heq
        exact absurd (List.cons.inj heq).1.symm hc
      · rfl
    rw [List.cons_append, resolvePieces, hnone]
    dsimp only
    rw [ih hcs]
    rfl

/-- A token is replaced, and what follows it is read on its own. -/
theorem resolvePieces_chars (w : WrittenToken) {found : Option Value} {put rest out : List Char}
    (hfound : values.lookupChars w.path = .ok found)
    (hput : (match found with
      | some v => v.rendered
      | none => .ok w.chars) = .ok put)
    (h : resolvePieces values 0 rest = .ok out) :
    resolvePieces values 0 (w.chars ++ rest) = .ok (put ++ out) := by
  have hread := w.token?_chars rest
  have hrest : resolvePieces values (w.read.length - 1) (w.chars ++ rest).tail = .ok out := by
    rw [resolvePieces_eq_drop, List.drop_tail, Nat.sub_add_cancel w.read_length_pos]
    exact (congrArg _ List.drop_left).trans h
  have htake : (w.chars ++ rest).take w.read.length = w.chars := List.take_left
  cases hcs : w.chars ++ rest with
  | nil => simp [WrittenToken.chars] at hcs
  | cons c tail =>
    rw [hcs] at hread hrest htake
    rw [resolvePieces, hread]
    dsimp only
    rw [w.read_path, hfound]
    rw [List.tail_cons] at hrest
    cases found with
    | none =>
      cases hput
      rw [htake, hrest]
      rfl
    | some v =>
      have hput : v.rendered = .ok put := hput
      simp only [bind, Except.bind, hput, hrest]

/-- Pieces are replaced one by one. -/
theorem resolvePieces_pieces (hv : values.isJson = true) {ps : List Piece}
    (hfound : ∀ w, .token w ∈ ps → ∃ found, values.lookupChars w.path = .ok found) :
    resolvePieces values 0 (ps.flatMap Piece.chars) = .ok (ps.flatMap (·.rendered values)) := by
  induction ps with
  | nil => rfl
  | cons p rest ih =>
    have ih := ih fun w hw => hfound w (List.mem_cons_of_mem p hw)
    rw [List.flatMap_cons, List.flatMap_cons]
    cases p with
    | literal cs plain => exact resolvePieces_literal plain ih
    | token w =>
      obtain ⟨found, hlookup⟩ := hfound w List.mem_cons_self
      refine resolvePieces_chars w hlookup ?_ ih
      rw [Piece.rendered, hlookup]
      cases found with
      | none => rfl
      | some v => exact Value.rendered_of_isJson (Value.isJson_of_walk hv hlookup)

end Replacing

/-! ## Segmentation -/

namespace Piece

/-- Pieces whose text is blank are blank literals. -/
theorem isBlank_of_text {ps : List Piece} (h : ∀ c ∈ ps.flatMap chars, Text.isBlank c = true) :
    ∀ p ∈ ps, p.IsBlank := fun p hp c hc => h c (List.mem_flatMap.2 ⟨p, hp, hc⟩)

/-- Written tokens at the start of one text are the same, and so is what follows them. -/
theorem chars_append_inj {w w' : WrittenToken} {rest rest' : List Char}
    (h : w.chars ++ rest = w'.chars ++ rest') : w.chars = w'.chars ∧ rest = rest' := by
  have hread : w.read = w'.read := by
    have := w.token?_chars rest
    rw [h, w'.token?_chars rest'] at this
    exact (Option.some.inj this).symm
  exact List.append_inj h (congrArg Token.length hread)

/-- If the text of pieces is a token between blanks, the pieces are a token and blanks. The induction is on
the pieces: a literal takes a part of the blanks in front, and the first token has to be the one. -/
theorem alone_of_chars {ps : List Piece} {w : WrittenToken} {front back : List Char}
    (hfront : ∀ c ∈ front, Text.isBlank c = true) (hback : ∀ c ∈ back, Text.isBlank c = true)
    (h : ps.flatMap chars = front ++ (w.chars ++ back)) : ∃ w', Alone w' ps := by
  induction ps generalizing front with
  | nil => simp [WrittenToken.chars] at h
  | cons p rest ih =>
    rw [List.flatMap_cons] at h
    cases p with
    | literal cs plain =>
      have hcut : ∃ left, front = cs ++ left ∧ rest.flatMap chars = left ++ (w.chars ++ back) := by
        obtain ⟨left, rfl, hleft⟩ | ⟨more, rfl, hmore⟩ := List.append_eq_append_iff.1 h
        · exact ⟨left, rfl, hleft⟩
        · cases more with
          | nil => exact ⟨[], by simp, by simpa using hmore.symm⟩
          | cons c more =>
            -- Past the blanks in front the token begins, with a brace.
            have hc : '\x7b' = c := (List.cons.inj hmore).1
            exact absurd (List.mem_append_right _ (hc ▸ List.mem_cons_self)) plain
      obtain ⟨left, rfl, hrest⟩ := hcut
      obtain ⟨hcs, hleft⟩ := List.forall_mem_append.1 hfront
      obtain ⟨w', before, after, rfl, hblank⟩ := ih hleft hrest
      exact ⟨w', literal cs plain :: before, after, rfl, List.forall_mem_cons.2 ⟨hcs, hblank⟩⟩
    | token w' =>
      cases front with
      | nil =>
        obtain ⟨-, hrest⟩ := chars_append_inj h
        exact ⟨w', [], rest, rfl, isBlank_of_text (hrest ▸ hback)⟩
      | cons c front =>
        have hc : '\x7b' = c := (List.cons.inj h).1
        have hblank := hfront c List.mem_cons_self
        rw [← hc, brace_outside.1] at hblank
        cases hblank

/-- The text of a token among blanks. -/
theorem Alone.flatMap_chars {w : WrittenToken} {ps : List Piece} (h : Alone w ps) :
    ∃ front back, ps.flatMap chars = front ++ (w.chars ++ back) ∧
      (∀ c ∈ front, Text.isBlank c = true) ∧ ∀ c ∈ back, Text.isBlank c = true := by
  obtain ⟨front, back, rfl, hblank⟩ := h
  obtain ⟨hfront, hback⟩ := List.forall_mem_append.1 hblank
  refine ⟨front.flatMap chars, back.flatMap chars, by simp [chars], fun c hc => ?_, fun c hc => ?_⟩
  · obtain ⟨p, hp, hc⟩ := List.mem_flatMap.1 hc
    exact hfront p hp c hc
  · obtain ⟨p, hp, hc⟩ := List.mem_flatMap.1 hc
    exact hback p hp c hc

/-- The pieces beside the token are blank. -/
theorem Alone.isBlank_or_eq {w : WrittenToken} {ps : List Piece} (h : Alone w ps) {p : Piece}
    (hp : p ∈ ps) : p.IsBlank ∨ p = token w := by
  obtain ⟨front, back, rfl, hblank⟩ := h
  rcases List.mem_append.1 hp with hp | hp
  · exact .inl (hblank p (List.mem_append_left _ hp))
  · rcases List.mem_cons.1 hp with rfl | hp
    · exact .inr rfl
    · exact .inl (hblank p (List.mem_append_right _ hp))

variable {values : Value} {ps : List Piece}

/-- A token among blanks becomes the value that its path leads to, as it is. -/
theorem resolveText_alone {w : WrittenToken} (h : Alone w ps) {found : Option Value}
    (hfound : values.lookupChars w.path = .ok found) :
    resolveText values (text ps) = .ok (found.getD (.text (text ps))) := by
  obtain ⟨front, back, hchars, hfront, hback⟩ := h.flatMap_chars
  have hwhole : wholeToken? (Text.stripChars (text ps).toList) = some w.read := by
    rw [text, String.toList_ofList, hchars, stripChars_surrounded w hfront hback]
    exact wholeToken?_eq_some_iff.2 ⟨w, rfl, rfl⟩
  unfold resolveText
  rw [hwhole]
  dsimp only
  rw [w.read_path, hfound]
  cases found <;> rfl

/-- Other pieces are replaced one by one. -/
theorem resolveText_of_not_alone (hv : values.isJson = true) (h : ∀ w, ¬ Alone w ps)
    (hfound : ∀ w, .token w ∈ ps → ∃ found, values.lookupChars w.path = .ok found) :
    resolveText values (text ps) = .ok (.text (String.ofList (ps.flatMap (·.rendered values)))) := by
  have hwhole : wholeToken? (Text.stripChars (text ps).toList) = none := by
    cases ht : wholeToken? (Text.stripChars (text ps).toList) with
    | none => rfl
    | some t =>
      obtain ⟨w, hw, -⟩ := wholeToken?_eq_some_iff.1 ht
      obtain ⟨front, back, hsplit, hfront, hback⟩ := stripChars_split (text ps).toList
      rw [hw, text, String.toList_ofList] at hsplit
      obtain ⟨w', halone⟩ := alone_of_chars hfront hback hsplit
      exact absurd halone (h w')
  unfold resolveText
  rw [hwhole]
  dsimp only
  rw [text, String.toList_ofList, resolvePieces_pieces hv hfound]
  rfl

end Piece

/-! ## Templates -/

/-- What is made of templates, given JSON values in which the tokens' paths lead somewhere or nowhere. Of a
text in pieces each literal stays and each token becomes what stands for its value, or stays when there
is none, and nothing that is put in is looked at again. A text that is one token among blanks becomes the
value itself, or stays. A value becomes what it is with each of its texts resolved on its own: keys,
the order and number of items and entries, and all that is no text stay. -/
theorem Value.resolve_pieces {fields : Fields} (hj : isJsonFields fields = true) :
    (∀ ps : List Piece, (∀ w, ¬ Piece.Alone w ps) →
      (∀ w, .token w ∈ ps → ∃ found, (map fields).lookupChars w.path = .ok found) →
      resolve (map fields) (text (Piece.text ps)) =
        .ok (text (String.ofList (ps.flatMap (·.rendered (map fields)))))) ∧
    (∀ (ps : List Piece) (w : WrittenToken) (found : Option Value), Piece.Alone w ps →
      (map fields).lookupChars w.path = .ok found →
      resolve (map fields) (text (Piece.text ps)) = .ok (found.getD (text (Piece.text ps)))) ∧
    ∀ (template : Value) (f : String → Value),
      (∀ s ∈ template.texts, resolve (map fields) (text s) = .ok (f s)) →
      resolve (map fields) template = .ok (template.mapTexts f) := by
  have hresolve (s : String) : resolve (map fields) (text s) = resolveText (map fields) s := by
    rw [resolve]
  simp only [hresolve]
  refine ⟨fun ps halone hfound => ?_, fun ps w found halone hfound => ?_, fun template f h => ?_⟩
  · exact Piece.resolveText_of_not_alone (by simpa using hj) halone hfound
  · exact Piece.resolveText_alone halone hfound
  · exact resolve_of_texts h

/-- Tokens of one letter, without blanks and with one on each side. -/
def letterToken (c : Char) (hc : isPathChar c = true) (spaced : Bool) : WrittenToken where
  before := if spaced then [' '] else []
  path := [c]
  after := if spaced then ['\t'] else []
  before_blank := by
    have hblank : Text.isBlank ' ' = true := by decide
    cases spaced <;> simp [hblank]
  path_ne_nil := List.cons_ne_nil _ _
  path_chars := by simpa using hc
  after_blank := by
    have hblank : Text.isBlank '\t' = true := by decide
    cases spaced <;> simp [hblank]

/-- Adjacent tokens between closing braces: one for a text that looks like a token, one for a list, and
one for nothing. -/
def bracedPieces : List Piece :=
  [.literal ['x', '\x7d'] (by decide), .token (letterToken 'a' (by decide) true),
    .token (letterToken 'b' (by decide) false), .literal ['\x7d'] (by decide),
    .token (letterToken 'c' (by decide) false)]

theorem bracedPieces_not_alone (w : WrittenToken) : ¬ Piece.Alone w bracedPieces := fun h => by
  obtain hblank | heq := h.isBlank_or_eq (p := .literal ['x', '\x7d'] (by decide)) List.mem_cons_self
  · exact absurd (hblank 'x' List.mem_cons_self) (by decide)
  · cases heq

/-- A text that looks like a token, and a list. -/
def bracedValues : Fields :=
  [("a", .text "\x7b\x7bb\x7d\x7d"), ("b", .list [.int 7, .null])]

theorem Value.resolve_pieces_braced :
    isJsonFields bracedValues = true ∧
    resolve (map bracedValues) (text "x\x7d\x7b\x7b a\t\x7d\x7d\x7b\x7bb\x7d\x7d\x7d\x7b\x7bc\x7d\x7d") =
      .ok (text "x\x7d\x7b\x7bb\x7d\x7d[7, null]\x7d\x7b\x7bc\x7d\x7d") ∧
    resolve (map bracedValues) (text " \x7b\x7bb\x7d\x7d") = .ok (list [int 7, null]) := by
  have hj : isJsonFields bracedValues = true := by decide
  obtain ⟨hpieces, halone, -⟩ := Value.resolve_pieces hj
  refine ⟨hj, ?_, ?_⟩
  · have := hpieces bracedPieces bracedPieces_not_alone (by
      intro w hw
      simp only [bracedPieces, List.mem_cons, reduceCtorEq, Piece.token.injEq, List.not_mem_nil,
        or_false, false_or] at hw
      obtain rfl | rfl | rfl := hw
      · exact ⟨_, rfl⟩
      · exact ⟨_, rfl⟩
      · exact ⟨_, rfl⟩)
    exact this
  · exact halone [.literal [' '] (by decide), .token (letterToken 'b' (by decide) false)] _ _
      ⟨[.literal [' '] (by decide)], [], rfl, by simp [Piece.IsBlank, Piece.chars]; decide⟩ rfl

end EventHub
