import EventHub.Mail.Phrase

/-!
# Addresses proper

What stands before and after the at sign: the local part, and the domain, which is made of names
or is a literal in brackets. Older forms have gaps around the periods.

* `localPart`, `domain`, `addrSpec`: the readers.
* `localName`, `domainName`: what the two parts mean, without the gaps.
-/

namespace EventHub.Mail

/-! ## Names with periods -/

/-- The texts of names with single periods between them. -/
def dottedText : Nat → Glyphs → Except Refusal (List Token × Glyphs)
  | 0, _ => .error .unfit
  | fuel + 1, gs => do
    let (text, rest) ← atomText gs
    match rest with
    | .char '.' :: rest =>
      if rest.isEmpty || startsWith atomEndSet rest then .error .unfit
      else
        let (tokens, rest) ← dottedText fuel rest
        .ok (text :: .period :: tokens, rest)
    | rest => .ok ([text], rest)

/-- Names with single periods between them, as one token. -/
def dottedNames : Reader Token := fun gs => do
  let (tokens, rest) ← dottedText (gs.length + 1) gs
  .ok (.node .dotAtomText tokens, rest)

/-- Names with periods, and the gaps around them. -/
def dotAtom : Reader Token := fun gs => do
  let (before, gs) ← leadingGap gs
  let (names, gs) ← encodedOr dottedNames gs
  let (after, gs) := optionalGap gs
  .ok (.node .dotAtom (before ++ [names] ++ after), gs)

/-! ## Local parts -/

/-- Does a local part go on with what its usual form does not allow? -/
def goesOn (gs : Glyphs) : Bool :=
  match gs with
  | [] => false
  | g :: _ => g.is '\\' || !g.isOneOf phraseEndSet

/-- Words, periods and backslashes in any order. -/
def looseLocalParts : Nat → Glyphs → Except Refusal (List Token × Glyphs)
  | 0, gs => .ok ([], gs)
  | _, [] => .ok ([], [])
  | fuel + 1, g :: rest => do
    if !goesOn (g :: rest) then return ([], g :: rest)
    let (token, rest) ←
      if g.is '.' then .ok (.period, rest)
      else if g.is '\\' then .ok (.leaf .plain [g], rest)
      else wordOrGap (g :: rest)
    let (tokens, rest) ← looseLocalParts fuel rest
    .ok (token :: tokens, rest)

/-- A local part in an older form, which has at least one token, and more than a gap. -/
def looseLocalPart : Reader (List Token) := fun gs => do
  let (tokens, rest) ← looseLocalParts gs.length gs
  match tokens with
  | [] => unbroken noToken
  | [token] => if token.kind == .gap then unbroken noToken else .ok (tokens, rest)
  | tokens => .ok (tokens, rest)

/-- The usual form of a local part, or nothing in front of an older one. -/
def usualLocalPart (gs : Glyphs) : Except Refusal (Token × Glyphs) :=
  orElse (dotAtom gs) fun _ =>
    match word gs with
    | .ok r => .ok r
    | .error (.broken fault) => .error (.broken fault)
    | .error refusal => if goesOn gs then .ok (.node .plain [], gs) else .error refusal

/-- The tokens of a local part. -/
def localPart : Reader (List Token) := fun gs => do
  let (leader, gs) ← leadingGap gs
  if gs.isEmpty then .error .unfit
  else
    let (token, rest) ← usualLocalPart gs
    let token := token.withLeader leader
    if goesOn rest then looseLocalPart (token.text ++ rest)
    else match token with
      | .node _ parts => .ok (parts, rest)
      | token => .ok ([token], rest)

/-- A token without a gap at its end, if it has parts and stands before a period. -/
def trimEnd (t : Token) : Except Fault Token :=
  match t with
  | .node kind parts =>
    match parts.getLast? with
    | none => noToken
    | some part => .ok (.node kind (if part.kind == .gap then parts.dropLast else parts))
  | t => .ok t

/-- A token without a gap at its start, if it has parts. -/
def trimStart (t : Token) : Except Fault Token :=
  match t with
  | .node _ [] => noToken
  | .node kind (part :: parts) =>
    .ok (.node kind (if part.kind == .gap then parts else part :: parts))
  | t => .ok t

/-- The tokens without the gaps before and after periods; `last` is the token before them. -/
def trimAround (last : Token) : List Token → Except Fault (List Token)
  | [] => do .ok [← trimEnd last]
  | t :: rest =>
    if t.kind == .gap then trimAround last rest
    else do
      let last' ← if t.kind == .dot then trimEnd last else .ok last
      let t ← if last.kind == .dot then trimStart t else .ok t
      .ok (last' :: (← trimAround t rest))

/-- What a local part means: its tokens without the gaps at the ends and around periods. -/
def localName (tokens : List Token) : Except Fault Glyphs := do
  let trimmed ← trimAround .period tokens
  .ok (Token.valueAll (trimmed.drop 1))

/-! ## Domains -/

/-- The fault of a literal with nothing where its text should be. -/
def unboundPosition {β : Type} : Except Refusal β :=
  .error (.broken (.raised .unbound
    "cannot access local variable 'pos' where it is not associated with a value"))

/-- Text inside a literal. -/
def literalText : Reader Token := fun gs =>
  match gs.span fun g => !g.isBlank with
  | ([], _) => unboundPosition
  | _ => .ok (pairedText "[]" gs)

/-- Blanks, where there are some. -/
def optionalBlanks (gs : Glyphs) : List Token × Glyphs :=
  if startsWith blankSet gs then
    let (token, rest) := blanks gs
    ([token], rest)
  else ([], gs)

/-- A sign of a literal. -/
def bracket (c : Char) : Token := .leaf .plain [.char c]

/-- The end of a literal that ends too early. -/
def earlyEnd : List Token := [.leaf .early [], bracket ']']

/-- What stands in a literal after its bracket. -/
def literalInside (gs : Glyphs) : Except Refusal (List Token × Glyphs) := do
  let (before, gs) := optionalBlanks gs
  let (text, gs) ← literalText gs
  let tokens := [bracket '['] ++ before ++ [text]
  if gs.isEmpty then return (tokens ++ earlyEnd, [])
  let (after, gs) := optionalBlanks gs
  match gs with
  | [] => .ok (tokens ++ after ++ earlyEnd, [])
  | .char ']' :: rest =>
    let (gaps, rest) := optionalGap rest
    .ok (tokens ++ after ++ [bracket ']'] ++ gaps, rest)
  | _ => .error .unfit

/-- A literal, after its bracket. -/
def literal : Reader Token := fun gs =>
  match gs with
  | [] => .ok (.node .literal earlyEnd, [])
  | gs => do
    let (tokens, rest) ← literalInside gs
    .ok (.node .literal tokens, rest)

/-- Names that follow on a domain with periods in an older form. -/
def moreNames : Nat → Glyphs → Except Refusal (List Token × Glyphs)
  | 0, gs => .ok ([], gs)
  | fuel + 1, gs =>
    match gs with
    | .char '.' :: rest => do
      let (name, rest) ← atom rest
      let (tokens, rest) ← moreNames fuel rest
      .ok (.period :: name :: tokens, rest)
    | gs => .ok ([], gs)

/-- The tokens of a domain. -/
def domain : Reader (List Token) := fun gs => do
  let (leader, gs) ← leadingGap gs
  match gs with
  | [] => .error .unfit
  | .char '[' :: rest =>
    let (token, rest) ← literal rest
    .ok ([token.withLeader leader], rest)
  | gs =>
    let (token, rest) ← orElse (dotAtom gs) fun _ => atom gs
    if startsWith "@" rest then .error .unfit
    else
      let (tokens, rest) ← moreNames rest.length rest
      .ok (token.withLeader leader :: tokens, rest)

/-- What a domain means: its tokens without white space. -/
def domainName (tokens : List Token) : Glyphs :=
  (Token.valueAll tokens).filter fun g => !g.isWhite

mutual

/-- Has the token a literal that ends too early? -/
def Token.endsEarly : Token → Bool
  | .leaf kind _ => kind == .early
  | .node _ parts => Token.anyEndsEarly parts

/-- Has one of the tokens a literal that ends too early? -/
def Token.anyEndsEarly : List Token → Bool
  | [] => false
  | t :: rest => t.endsEarly || Token.anyEndsEarly rest

end

/-! ## Both -/

/-- An address proper: the tokens of its local part, and of its domain if it has one. -/
structure AddrSpec where
  localPart : List Token
  domain : Option (List Token)

/-- Reads an address proper. -/
def addrSpec : Reader AddrSpec := fun gs => do
  let (tokens, rest) ← localPart gs
  match rest with
  | .char '@' :: rest => do
    let (names, rest) ← domain rest
    .ok (⟨tokens, some names⟩, rest)
  | rest => .ok (⟨tokens, none⟩, rest)

end EventHub.Mail
