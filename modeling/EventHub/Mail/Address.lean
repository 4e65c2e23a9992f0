import EventHub.Mail.AddrSpec

/-!
# Lists of addresses

An address is a mailbox or a group of them, and commas stand between addresses. What is no address
is passed over and counts as a mailbox without a name.

* `mailbox`, `group`, `addresses`: the readers.
* `addressesText`: the addresses in their plain form.
-/

namespace EventHub.Mail

/-! ## Mailboxes -/

/-- A mailbox: an address proper, with the tokens of a name if there is one; angle brackets may be
empty. What is no mailbox has neither. -/
structure Mailbox where
  name : Option (List Token)
  address : Option AddrSpec

/-- What is no mailbox. -/
def Mailbox.invalid : Mailbox := ⟨none, none⟩

/-- Gaps and commas. -/
def routeStart : Nat → Glyphs → Glyphs
  | 0, gs => gs
  | fuel + 1, gs =>
    match gs with
    | .char ',' :: rest => routeStart fuel rest
    | gs => if startsWith gapSet gs then routeStart fuel (gap gs).2 else gs

/-- Further hosts of a route, and what stands after them. -/
def routeRest : Nat → Glyphs → Except Refusal (List Token × Glyphs)
  | 0, gs => .ok ([], gs)
  | fuel + 1, gs =>
    match gs with
    | .char ',' :: rest =>
      match (optionalGap rest).2, rest with
      | _, [] => .ok ([], [])
      | [], _ => noGlyph
      | .char '@' :: after, _ => do
        let (tokens, after) ← domain after
        let (more, after) ← routeRest fuel after
        .ok (tokens ++ more, after)
      | after, _ => routeRest fuel after
    | gs => .ok ([], gs)

/-- A route: hosts after at signs, and a colon. -/
def route : Reader (List Token) := fun gs => do
  match routeStart gs.length gs with
  | .char '@' :: rest =>
    let (tokens, rest) ← domain rest
    let (more, rest) ← routeRest rest.length rest
    match rest with
    | .char ':' :: rest => .ok (tokens ++ more, rest)
    | _ => .error .unfit
  | _ => .error .unfit

/-- An address in angle brackets, with the tokens of the route before it. The second bracket may be
missing. -/
def angleAddress : Reader (Option AddrSpec × List Token) := fun gs => do
  let (_, gs) ← leadingGap gs
  match gs with
  | .char '<' :: .char '>' :: rest => .ok ((none, []), rest)
  | [.char '<'] => noGlyph
  | .char '<' :: rest =>
    let ((spec, hosts), rest) ← orElse
      (do let (spec, rest) ← addrSpec rest
          .ok ((spec, []), rest))
      fun _ => do
        let (hosts, rest) ← route rest
        let (spec, rest) ← addrSpec rest
        .ok ((spec, hosts), rest)
    let rest := match rest with
      | .char '>' :: rest => rest
      | rest => rest
    .ok ((some spec, hosts), (optionalGap rest).2)
  | _ => .error .unfit

/-- The tokens of a name with a gap in front of the first one's parts. -/
def nameWithLeader (leader : List Token) : List Token → Except Refusal (List Token)
  | .leaf kind gs :: rest =>
    if leader.isEmpty then .ok (.leaf kind gs :: rest)
    else .error (.broken (.type (.noItemAssignment "ValueTerminal")))
  | token :: rest => .ok (token.withLeader leader :: rest)
  | [] => .ok []

/-- A mailbox with an address in angle brackets, and the tokens of the route. -/
def namedMailbox : Reader (Mailbox × List Token) := fun gs => do
  let (leader, gs) ← leadingGap gs
  if gs.isEmpty then .error .unfit
  else if startsWith "<" gs then
    let ((spec, hosts), rest) ← angleAddress gs
    .ok ((⟨none, spec⟩, hosts), rest)
  else if startsWith phraseEndSet gs then .error .unfit
  else
    let (name, rest) ← phrase gs
    if rest.isEmpty then .error .unfit
    else
      let name ← nameWithLeader leader name
      let ((spec, hosts), rest) ← angleAddress rest
      .ok ((⟨some name, spec⟩, hosts), rest)

/-- The tokens of the domain of a mailbox. -/
def Mailbox.domainTokens (m : Mailbox) : List Token :=
  (m.address.bind (·.domain)).getD []

/-- Reads a mailbox. Literals must not end too early. -/
def mailbox : Reader Mailbox := fun gs => do
  let ((m, hosts), rest) ← orElse (namedMailbox gs) fun _ => do
    let (spec, rest) ← addrSpec gs
    .ok ((⟨none, some spec⟩, []), rest)
  if Token.anyEndsEarly (hosts ++ m.domainTokens) then
    .error (.broken (.noMember "InvalidHeaderDefect" "all_defects"))
  else .ok (m, rest)

/-- Passes over what is no mailbox, up to one of a set. -/
def passOver (ends : String) : Nat → Glyphs → Except Refusal Glyphs
  | 0, gs => .ok gs
  | _, [] => .ok []
  | fuel + 1, g :: rest =>
    if g.isOneOf ends then .ok (g :: rest)
    else if g.isOneOf phraseEndSet then passOver ends fuel rest
    else do
      let (_, rest) ← phrase (g :: rest)
      passOver ends fuel rest

/-- Passes over what is no mailbox; nothing is passed over at one of the set. -/
def skipTo (ends : String) (gs : Glyphs) : Except Refusal Glyphs := passOver ends gs.length gs

/-- What stands in the place of an entry that does not fit: whether it is an invalid one or none,
and what stands after it. -/
def unfitEntry (ends : String) (gs : Glyphs) : Except Refusal (Bool × Glyphs) := do
  if startsWith gapSet gs then
    let (_, gs) := gap gs
    if gs.isEmpty || startsWith ends gs then return (false, gs)
    return (true, ← skipTo ends gs)
  else if startsWith "," gs then return (false, gs)
  else return (true, ← skipTo ends gs)

/-- The signs that end a mailbox of a group. -/
def memberEnds : String := ",;"

/-- The mailboxes of a group, up to the semicolon. -/
def members : Nat → Glyphs → Except Refusal (List Mailbox × Glyphs)
  | 0, gs => .ok ([], gs)
  | _, [] => .ok ([], [])
  | fuel + 1, g :: rest => do
    if g.is ';' then return ([], g :: rest)
    let (found, gs) ← orElse
      (do let (m, rest) ← mailbox (g :: rest)
          .ok ([m], rest))
      fun _ => do
        let (invalid, rest) ← unfitEntry memberEnds (g :: rest)
        .ok (if invalid then [.invalid] else [], rest)
    let gs ← skipTo memberEnds gs
    let gs := match gs with
      | .char ',' :: rest => rest
      | gs => gs
    let (more, gs) ← members fuel gs
    .ok (found ++ more, gs)

/-! ## Addresses -/

/-- An address. A spoilt group has something behind its end. -/
inductive Address
  | single (m : Mailbox)
  | group (name : List Token) (members : List Mailbox)
  | spoilt (name : List Token)

/-- The mailboxes of a group, and what stands after its end. -/
def groupMembers (gs : Glyphs) : Except Refusal (List Mailbox × Glyphs) := do
  match gs with
  | .char ';' :: rest => .ok ([], rest)
  | [] => .ok ([], [])
  | gs =>
    let (_, gs) := optionalGap gs
    let (found, gs) ← members gs.length gs
    match gs with
    | [] => .ok (found, [])
    | .char ';' :: rest => .ok (found, (optionalGap rest).2)
    | _ => .error .unfit

/-- Reads a group: a name, a colon, mailboxes and a semicolon, which may be missing at the end. -/
def group : Reader Address := fun gs => do
  let (name, gs) ← phrase gs
  match gs with
  | .char ':' :: rest =>
    let (found, rest) ← groupMembers rest
    .ok (.group name found, rest)
  | _ => .error .unfit

/-- Reads an address. -/
def address : Reader Address := fun gs =>
  orElse (group gs) fun _ => do
    let (m, rest) ← mailbox gs
    .ok (.single m, rest)

/-- An address with something behind it. -/
def Address.spoil : Address → Address
  | group name _ => spoilt name
  | a => a

/-- Spoils the addresses of an entry unless a comma or nothing stands behind it. -/
def afterEntry (found : List Address) (gs : Glyphs) : Except Refusal (List Address × Glyphs) := do
  if gs.isEmpty || startsWith "," gs then return (found, gs)
  return (found.map Address.spoil, ← skipTo "," gs)

/-- Reads addresses with commas between them. -/
def addresses : Nat → Glyphs → Except Refusal (List Address)
  | 0, _ => .ok []
  | _, [] => .ok []
  | fuel + 1, g :: rest => do
    let (found, gs) ← orElse
      (do let (a, rest) ← address (g :: rest)
          .ok ([a], rest))
      fun _ => do
        let (invalid, rest) ← unfitEntry "," (g :: rest)
        .ok (if invalid then [.single .invalid] else [], rest)
    let (found, gs) ← afterEntry found gs
    let more ← addresses fuel (gs.drop 1)
    .ok (found ++ more)

/-! ## Plain form -/

/-- A name, in quotes where it needs them. -/
def plainName (name : Glyphs) : Glyphs :=
  if name.any (·.isOneOf specialSet) then quotedGlyphs name else name

/-- The characters at which a local part without quotes ends. -/
def localEndSet : String := "()<>@,:;\\\"[] \t"

/-- A local part and a domain; without a domain the local part stands alone. -/
def plainAddress (part host : Glyphs) : Glyphs :=
  let part := if part.any (·.isOneOf localEndSet) then quotedGlyphs part else part
  if !host.isEmpty then part ++ [.char '@'] ++ host
  else if part.isEmpty then glyphsOf "<>"
  else part

/-- A mailbox: its address, in angle brackets after the name if there is one. -/
def plainMailbox (name part host : Glyphs) : Glyphs :=
  let address := plainAddress part host
  if name.isEmpty then address
  else
    let inside := if address == glyphsOf "<>" then [] else address
    plainName name ++ glyphsOf " <" ++ inside ++ glyphsOf ">"

/-- The plain form of a mailbox, which is on one line. -/
def Mailbox.plain (m : Mailbox) : Except Fault Glyphs := do
  let name ← match m.name with
    | some tokens => displayName tokens
    | none => .ok []
  let part ← match m.address with
    | some spec => localName spec.localPart
    | none => .ok []
  let host := domainName m.domainTokens
  if (name ++ part ++ host).any (·.isOneOf "\r\n") then
    .error (.raised .value "invalid arguments; address parts cannot contain CR or LF")
  else .ok (plainMailbox name part host)

/-- Texts with a comma and a blank between them. -/
def commaJoined : List Glyphs → Glyphs
  | [] => []
  | [gs] => gs
  | gs :: rest => gs ++ glyphsOf ", " ++ commaJoined rest

/-- The plain form of an address. -/
def Address.plain : Address → Except Fault Glyphs
  | single m => m.plain
  | spoilt name => do
    let _ ← displayName name
    .error (.noMember "Group" "local_part")
  | group name members => do
    let name ← displayName name
    let inside := commaJoined (← members.mapM Mailbox.plain)
    let inside := if inside.isEmpty then [] else .char ' ' :: inside
    .ok (plainName name ++ glyphsOf ":" ++ inside ++ glyphsOf ";")

/-- The fault of reading. -/
def Refusal.fault : Refusal → Fault
  | broken fault => fault
  | _ => .raised .value "not an address"

/-- Addresses in their plain form. -/
def addressesText (s : String) : Except Fault String := do
  let gs := glyphsOf s
  let found ← match addresses gs.length gs with
    | .ok found => .ok found
    | .error refusal => .error refusal.fault
  .ok (textOf (commaJoined (← found.mapM Address.plain)))

end EventHub.Mail
