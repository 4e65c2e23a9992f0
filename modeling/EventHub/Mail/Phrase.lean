import EventHub.Mail.EncodedWord

/-!
# Words and phrases

What names of mailboxes are made of. Between words stand gaps, which are blanks and comments, and
words are atoms or quoted.

* `gap`, `word`, `phrase`: the readers.
* `displayName`: what a phrase names.
-/

namespace EventHub.Mail

/-! ## Sets -/

/-- The characters that start a gap. -/
def gapSet : String := " \t("

/-- The characters with a meaning of their own. -/
def specialSet : String := "()<>@,:;.\\\"[]"

/-- The characters at which an atom ends. -/
def atomEndSet : String := specialSet ++ blankSet

/-- The characters at which a phrase ends. -/
def phraseEndSet : String := ")<>@,:;\\[]"

/-- Do the glyphs start with one of a set? -/
def startsWith (set : String) : Glyphs → Bool
  | [] => false
  | g :: _ => g.isOneOf set

/-- Do the glyphs start with one of a set? There has to be one. -/
def opensWith (set : String) : Glyphs → Except Refusal Bool
  | [] => noGlyph
  | g :: _ => .ok (g.isOneOf set)

/-! ## Gaps -/

/-- Glyphs up to one of a set, a backslash taking away the meaning of the one after it. -/
def pairedRun (ends : String) : Bool → Glyphs → Glyphs × Glyphs
  | _, [] => ([], [])
  | escaped, g :: rest =>
    if g.is '\\' && !escaped then pairedRun ends true rest
    else if !escaped && g.isOneOf ends then ([], g :: rest)
    else
      let (run, rest) := pairedRun ends false rest
      (g :: run, rest)

/-- Glyphs up to a blank or one of a set. -/
def pairedText (ends : String) (gs : Glyphs) : Token × Glyphs :=
  let (front, after) := gs.span fun g => !g.isBlank
  let (run, rest) := pairedRun ends false front
  (.leaf .plain run, rest ++ after)

/-- Blanks, as far as white space goes. -/
def blanks (gs : Glyphs) : Token × Glyphs :=
  let (front, rest) := gs.span Glyph.isWhite
  (.leaf .blanks front, rest)

/-- The parts of a comment, and what stands after its end; `fuel` is at least the number of
glyphs. -/
def commentParts : Nat → Glyphs → List Token × Glyphs
  | 0, gs => ([], gs)
  | _, [] => ([], [])
  | fuel + 1, g :: rest =>
    if g.is ')' then ([], rest)
    else
      let (part, rest) :=
        if g.isBlank then blanks (g :: rest)
        else if g.is '(' then
          let (parts, rest) := commentParts fuel rest
          (.node .comment parts, rest)
        else pairedText "()" (g :: rest)
      let (parts, rest) := commentParts fuel rest
      (part :: parts, rest)

/-- The parts of a gap. -/
def gapParts : Nat → Glyphs → List Token × Glyphs
  | 0, gs => ([], gs)
  | _, [] => ([], [])
  | fuel + 1, g :: rest =>
    if g.isOneOf gapSet then
      let (part, rest) :=
        if g.isBlank then blanks (g :: rest)
        else
          let (parts, rest) := commentParts rest.length rest
          (.node .comment parts, rest)
      let (parts, rest) := gapParts fuel rest
      (part :: parts, rest)
    else ([], g :: rest)

/-- A gap. -/
def gap (gs : Glyphs) : Token × Glyphs :=
  let (parts, rest) := gapParts gs.length gs
  (.node .gap parts, rest)

/-- A gap, where there is one. -/
def optionalGap (gs : Glyphs) : List Token × Glyphs :=
  if startsWith gapSet gs then
    let (token, rest) := gap gs
    ([token], rest)
  else ([], gs)

/-- A gap at the front of glyphs that there have to be. -/
def leadingGap (gs : Glyphs) : Except Refusal (List Token × Glyphs) := do
  let _ ← opensWith gapSet gs
  .ok (optionalGap gs)

/-! ## Words -/

/-- The text of an atom. -/
def atomText : Reader Token := fun gs =>
  match gs.span fun g => !g.isOneOf atomEndSet with
  | ([], _) => .error .unfit
  | (front, rest) => .ok (.leaf .plain front, rest)

/-- An encoded word where the glyphs start like one, or else what the reader reads. -/
def encodedOr (other : Reader Token) : Reader Token := fun gs =>
  match gs with
  | .char '=' :: .char '?' :: _ => orElse (encodedWord gs) fun _ => other gs
  | gs => other gs

/-- Adds a token to what is between quotes, the latest first. After another encoded word and a
blank, the blank becomes a joint. -/
def addQuoted (done : List Token) (token : Token) : List Token :=
  match token, done with
  | .node .encodedWord _, .leaf .blanks gs :: .node .encodedWord parts :: more =>
    token :: .leaf .joint gs :: .node .encodedWord parts :: more
  | token, done => token :: done

/-- What is between quotes, after what was read already, the latest first. -/
def quotedParts : Nat → List Token → Glyphs → Except Refusal (List Token × Glyphs)
  | 0, done, gs => .ok (done.reverse, gs)
  | _, done, [] => .ok (done.reverse, [])
  | fuel + 1, done, g :: rest => do
    if g.is '"' then return (done.reverse, rest)
    let (token, rest) ←
      if g.isBlank then .ok (blanks (g :: rest))
      else encodedOr (fun gs => .ok (pairedText "\"" gs)) (g :: rest)
    quotedParts fuel (addQuoted done token) rest

/-- What is between quotes; nothing between them is an empty text. -/
def quotedBody : Reader Token := fun gs => do
  match gs with
  | [] => noGlyph
  | .char '"' :: rest =>
    let start : List Token := if startsWith "\"" rest then [.leaf .plain []] else []
    let (parts, rest) ← quotedParts rest.length start rest
    .ok (.node .quotedBody parts, rest)
  | _ => .error .unfit

/-- A quoted text with the gaps around it. -/
def quotedText : Reader Token := fun gs => do
  let (before, gs) := optionalGap gs
  let (body, gs) ← quotedBody gs
  let (after, gs) := optionalGap gs
  .ok (.node .quoted (before ++ [body] ++ after), gs)

/-- An atom with the gaps around it. -/
def atom : Reader Token := fun gs => do
  let (before, gs) := optionalGap gs
  if startsWith atomEndSet gs then .error .unfit
  else
    let (text, gs) ← encodedOr atomText gs
    let (after, gs) := optionalGap gs
    .ok (.node .atom (before ++ [text] ++ after), gs)

/-- A word: an atom or a quoted text. -/
def word : Reader Token := fun gs => do
  let (leader, gs) ← leadingGap gs
  match gs with
  | [] => .error .unfit
  | g :: _ =>
    let (token, rest) ←
      if g.is '"' then quotedText gs
      else if g.isOneOf specialSet then .error .unfit
      else atom gs
    .ok (token.withLeader leader, rest)

/-! ## Phrases -/

/-- A word, or the gap that stands in its place. -/
def wordOrGap : Reader Token := fun gs =>
  match word gs with
  | .ok r => .ok r
  | .error (.broken fault) => .error (.broken fault)
  | .error refusal => if startsWith gapSet gs then .ok (gap gs) else .error refusal

/-- The words, gaps and periods up to the end of a phrase. -/
def phraseRest : Nat → Glyphs → Except Refusal (List Token × Glyphs)
  | 0, gs => .ok ([], gs)
  | _, [] => .ok ([], [])
  | fuel + 1, g :: rest => do
    if g.isOneOf phraseEndSet then return ([], g :: rest)
    let (token, rest) ← if g.is '.' then .ok (.period, rest) else wordOrGap (g :: rest)
    let (tokens, rest) ← phraseRest fuel rest
    .ok (token :: tokens, rest)

/-- A phrase: words, with gaps and periods between them. -/
def phrase : Reader (List Token) := fun gs => do
  let (first, gs) ← orElse
    (do let (token, rest) ← word gs
        .ok ([token], rest))
    fun _ => .ok ([], gs)
  let (tokens, rest) ← phraseRest gs.length gs
  .ok (first ++ tokens, rest)

/-- The fault of asking a character for its parts. -/
def characterAsToken {β : Type} : Except Fault β := .error (.noMember "str" "token_type")

/-- Drops a gap that a row of tokens starts with: a token of its own, or the first part of the
first token. -/
def dropFirstGap : List Token → Except Fault (List Token)
  | [] => .ok []
  | .node .gap _ :: rest => .ok rest
  | .node kind (part :: parts) :: rest =>
    .ok (.node kind (if part.kind == .gap then parts else part :: parts) :: rest)
  | .node _ [] :: _ => noToken
  | .leaf _ _ :: _ => characterAsToken

/-- Drops a gap that a row of tokens ends with, the last token first. -/
def dropLastGap : List Token → Except Fault (List Token)
  | [] => noToken
  | .node .gap _ :: rest => .ok rest
  | .node kind parts :: rest =>
    match parts.getLast? with
    | none => noToken
    | some part =>
      .ok (.node kind (if part.kind == .gap then parts.dropLast else parts) :: rest)
  | .leaf _ _ :: _ => characterAsToken

/-- What a phrase names: its words without the gaps at its ends. -/
def displayName (tokens : List Token) : Except Fault Glyphs := do
  if tokens.isEmpty then return []
  let tokens ← dropFirstGap tokens
  let tokens ← dropLastGap tokens.reverse
  .ok (Token.valueAll tokens.reverse)

end EventHub.Mail
