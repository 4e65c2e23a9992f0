import EventHub.Number.Text
import EventHub.Pattern.CharacterName
import EventHub.Pattern.Matcher
import EventHub.Text.Quoted

/-!
# Reading patterns

The text of a pattern is read token by token, where a backslash and the character after it are
one token. A text that is no pattern has a flaw, which says what is wrong and where.

* `Pattern.read`: the pattern that a text writes.
* `Flaw.message`: the wording of a flaw, with its position.
-/

namespace EventHub.Pattern

open Text

/-- The kinds of flaws: of the form of the pattern, of a number in it, and of its options. -/
inductive FlawKind
  | form | count | options
deriving DecidableEq, Repr

/-- What is wrong with the text of a pattern, and at which character. -/
structure Flaw where
  kind : FlawKind
  reason : String
  place : Option Nat
deriving DecidableEq, Repr

/-- The line and the column of a place, both from one. -/
def lineAndColumn (cs : List Char) (place : Nat) : Nat × Nat :=
  let before := cs.take place
  let line := (before.filter (· == '\n')).length + 1
  (line, (before.reverse.takeWhile (· != '\n')).length + 1)

/-- The wording of a flaw of a source. -/
def Flaw.message (f : Flaw) (source : String) : String :=
  match f.place with
  | none => f.reason
  | some place =>
    let cs := source.toList
    let (line, column) := lineAndColumn cs place
    s!"{f.reason} at position {place}" ++
      if cs.contains '\n' then s!" (line {line}, column {column})" else ""

/-- What is known while a pattern is read: the rest of the text, its place, the options of the
whole pattern, the widths of the groups so far, their names, the number of groups when the
outermost look behind began, and the groups that conditions ask for. -/
structure Progress where
  rest : List Char
  place : Nat
  options : Options
  groups : List (Option Width)
  names : List (String × Nat)
  behindFrom : Option Nat
  asked : List (Nat × Nat)

/-- A step of reading. -/
abbrev Reading := StateT Progress (Except Flaw)

/-- The number of groups, the whole pattern counting as one. -/
def Progress.count (p : Progress) : Nat := p.groups.length + 1

/-- Is the group known and complete? -/
def Progress.isComplete (p : Progress) (index : Nat) : Bool :=
  index != 0 && ((p.groups[index - 1]?).bind id).isSome

/-- A token: a character, or a backslash and a character. -/
abbrev Token := List Char

/-- The token that a row starts with. -/
def tokenOf : List Char → Token
  | [] => []
  | ['\\'] => []
  | '\\' :: c :: _ => ['\\', c]
  | c :: _ => [c]

/-- A flaw some characters before the place. -/
def flaw {α : Type} (reason : String) (back : Nat) : Reading α := do
  throw ⟨.form, reason, some ((← get).place - back)⟩

/-- A flaw at the place. -/
def flawHere {α : Type} (reason : String) : Reading α := flaw reason 0

/-- The next token, which stays; empty at the end. -/
def peek : Reading Token := do return tokenOf (← get).rest

/-- Fails when nothing but a backslash is left. -/
def guardEnd : Reading Unit := do
  let p ← get
  if p.rest == ['\\'] then throw ⟨.form, "bad escape (end of pattern)", some p.place⟩

/-- Goes on behind the next token, which is given. -/
def next : Reading Token := do
  let token ← peek
  modify fun p => { p with rest := p.rest.drop token.length, place := p.place + token.length }
  guardEnd
  return token

/-- Goes on behind the next token if it is the character. -/
def accept (c : Char) : Reading Bool := do
  if (← peek) == [c] then
    discard next
    return true
  return false

/-- The characters of a class that come next, at most `n` of them. -/
def nextWhile (p : Char → Bool) : Nat → Reading (List Char)
  | 0 => return []
  | n + 1 => do
    match ← peek with
    | [c] =>
      if p c then
        discard next
        return c :: (← nextWhile p n)
      return []
    | _ => return []

/-- The text of tokens before a character, which is skipped; `soFar` was read before. -/
def nextUntil (stop : Char) (what : String) : Nat → List Char → Reading (List Char)
  | 0, soFar => return soFar
  | n + 1, soFar => do
    match ← next with
    | [] =>
      if soFar.isEmpty then flawHere s!"missing {what}"
      else flaw s!"missing {stop}, unterminated name" soFar.length
    | token =>
      if token == [stop] then
        if soFar.isEmpty then flaw s!"missing {what}" 1 else return soFar
      else nextUntil stop what n (soFar ++ token)

/-- The text of tokens before a character, which is skipped. -/
def readUntil (stop : Char) (what : String) : Reading String := do
  return String.ofList (← nextUntil stop what ((← get).rest.length + 1) [])

/-! ## Escapes -/

/-- Is the character a hexadecimal digit? -/
def isHexDigit (c : Char) : Bool :=
  c.isDigit || ('a' ≤ c && c ≤ 'f') || ('A' ≤ c && c ≤ 'F')

/-- The value of a hexadecimal digit. -/
def hexValue (c : Char) : Nat :=
  if c.isDigit then c.toNat - 48 else if 'a' ≤ c then c.toNat - 87 else c.toNat - 55

/-- The number that digits write to a base. -/
def numberOf (base : Nat) (cs : List Char) : Nat := cs.foldl (fun n c => base * n + hexValue c) 0

/-- Is the character an octal digit? -/
def isOctalDigit (c : Char) : Bool := '0' ≤ c && c ≤ '7'

/-- The characters with an escape that is a letter. -/
def letterEscape? (c : Char) : Option Nat :=
  [('a', 7), ('f', 12), ('n', 10), ('r', 13), ('t', 9), ('v', 11), ('\\', 92)].lookup c

/-- The classes with an escape. -/
def classEscape? (c : Char) : Option Member :=
  [('d', Member.category .digit false), ('D', .category .digit true),
   ('s', .category .blank false), ('S', .category .blank true),
   ('w', .category .word false), ('W', .category .word true)].lookup c

/-- The anchors with an escape. -/
def anchorEscape? (c : Char) : Option Anchor :=
  [('A', Anchor.textStart), ('b', .boundary), ('B', .inside), ('Z', .textEnd)].lookup c

/-- A text behind a backslash. -/
def escapeText (cs : List Char) : String := String.ofList ('\\' :: cs)

/-- A character by its number in `n` hexadecimal digits. -/
def readHexEscape (letter : Char) (n : Nat) : Reading Nat := do
  let digits ← nextWhile isHexDigit n
  let whole := letter :: digits
  if digits.length != n then flaw ("incomplete escape " ++ escapeText whole) (whole.length + 1)
  else
    let code := numberOf 16 digits
    if 0x10ffff < code then flaw ("bad escape " ++ escapeText whole) (whole.length + 1)
    else return code

/-- A character by its name. -/
def readNamedEscape : Reading Nat := do
  if !(← accept '\x7b') then flawHere "missing \x7b"
  else
    let name ← readUntil '\x7d' "character name"
    match CharacterName.code? name with
    | some code => return code
    | none => flaw ("undefined character name " ++ quoted name) (name.length + 4)

/-- The character that three octal digits write. -/
def readOctal (digits : List Char) : Reading Nat := do
  let code := numberOf 8 digits
  if 0o377 < code then
    flaw ("octal escape value " ++ escapeText digits ++ " outside of range 0-0o377")
      (digits.length + 1)
  else return code

/-- The character of an escape that is no digit. -/
def readCharEscape (c : Char) : Reading Nat := do
  if c == 'x' then readHexEscape c 2
  else if c == 'u' then readHexEscape c 4
  else if c == 'U' then readHexEscape c 8
  else if c == 'N' then readNamedEscape
  else if c.isAlpha then flaw ("bad escape " ++ escapeText [c]) 2
  else return c.toNat

/-- The member of a set that an escape writes. -/
def readMemberEscape (c : Char) : Reading Member := do
  match (if c == 'b' then some 8 else letterEscape? c), classEscape? c with
  | some code, _ => return .one code
  | none, some member => return member
  | none, none =>
    if isOctalDigit c then return .one (← readOctal (c :: (← nextWhile isOctalDigit 2)))
    else if c.isDigit then flaw ("bad escape " ++ escapeText [c]) 2
    else return .one (← readCharEscape c)

/-- Fails where a look behind refers to a group that is open or begins within it. -/
def guardBehind (index : Nat) : Reading Unit := do
  let p ← get
  if let some start := p.behindFrom then
    if !p.isComplete index then flawHere "cannot refer to an open group"
    else if start ≤ index then
      flawHere "cannot refer to group defined in the same lookbehind subpattern"

/-- A reference to a group by its number. -/
def readReference (digits : List Char) : Reading Node := do
  let index := numberOf 10 digits
  let p ← get
  if index < p.count then
    if !p.isComplete index then flaw "cannot refer to an open group" (digits.length + 1)
    guardBehind index
    return .reference index
  flaw s!"invalid group reference {index}" digits.length

/-- The part that an escape of digits writes. -/
def readDigitEscape (c : Char) : Reading Node := do
  if c == '0' then return .one (numberOf 8 (← nextWhile isOctalDigit 2))
  match ← nextWhile Char.isDigit 1 with
  | [d] =>
    if isOctalDigit c && isOctalDigit d then
      match ← nextWhile isOctalDigit 1 with
      | [e] => return .one (← readOctal [c, d, e])
      | _ => readReference [c, d]
    else readReference [c, d]
  | _ => readReference [c]

/-- The part that an escape writes. -/
def readEscape (c : Char) : Reading Node := do
  match classEscape? c, anchorEscape? c, letterEscape? c with
  | some member, _, _ => return .set false [member]
  | none, some a, _ => return .anchor a
  | none, none, some code => return .one code
  | none, none, none =>
    if c.isDigit then readDigitEscape c else return .one (← readCharEscape c)

/-! ## Sets -/

/-- A member of a set, from its first token. -/
def readMember (token : Token) : Reading Member :=
  match token with
  | ['\\', c] => readMemberEscape c
  | [c] => return .one c.toNat
  | _ => return .one 0

/-- Fails at the bracket that opened a set. -/
def openSet {α : Type} (start : Nat) : Reading α := do
  flaw "unterminated character set" ((← get).place - start)

/-- The range between two members, which were read from two tokens. -/
def rangeOf (a b : Token) (low high : Member) : Reading Member := do
  let bad : Reading Member :=
    flaw ("bad character range " ++ String.ofList (a ++ '-' :: b)) (a.length + 1 + b.length)
  match low, high with
  | .one i, .one j => if j < i then bad else return .range i j
  | _, _ => bad

/-- The members of a set up to the closing bracket; `start` is the place of the opening one. -/
def readMembers (start : Nat) : Nat → List Member → Reading (List Member)
  | 0, known => return known
  | fuel + 1, known => do
    match ← next with
    | [] => openSet start
    | token =>
      if token == [']'] && !known.isEmpty then return known
      let low ← readMember token
      if ← accept '-' then
        match ← next with
        | [] => openSet start
        | [']'] => return known ++ [low, .one 45]
        | other =>
          let high ← readMember other
          readMembers start fuel (known ++ [← rangeOf token other low high])
      else readMembers start fuel (known ++ [low])

/-- A set as a part. A set of one character is that character. -/
def setNode (negated : Bool) (members : List Member) : Node :=
  match members.eraseDups with
  | [.one code] => if negated then .allBut code else .one code
  | members => .set negated members

/-- A set, behind its opening bracket. -/
def readSet : Reading Node := do
  let start := (← get).place - 1
  let negated ← accept '^'
  let members ← readMembers start ((← get).rest.length + 1) []
  return setNode negated members

/-! ## Repetitions -/

/-- The greatest number of a repetition, which stands for no limit. -/
def noLimit : Nat := 4294967295

/-- A number of repetitions. -/
def readLimit (digits : List Char) : Reading (Option Nat) := do
  if digits.isEmpty then return none
  let n := numberOf 10 digits
  if noLimit ≤ n then throw ⟨.count, "the repetition number is too large", none⟩
  return some n

/-- The limits between braces, behind the opening one; none when they are no limits. -/
def readLimits : Reading (Option (Nat × Option Nat)) := do
  let before ← get
  let size := before.rest.length
  let low ← nextWhile Char.isDigit size
  let high ← if ← accept ',' then nextWhile Char.isDigit size else pure low
  if ← accept '\x7d' then
    let least ← readLimit low
    let most ← readLimit high
    if let some n := most then
      if n < least.getD 0 then
        flaw "min repeat greater than max repeat" ((← get).place - before.place)
    return some (least.getD 0, most)
  set before
  return none

/-- The limits of a mark of repetition, which was read; none when a brace stands for itself. -/
def limitsOf (mark : Char) : Reading (Option (Nat × Option Nat)) := do
  match mark with
  | '?' => return some (0, some 1)
  | '*' => return some (0, none)
  | '+' => return some (1, none)
  | _ => if (← peek) == ['\x7d'] then return none else readLimits

/-- The manner that a mark behind a repetition tells. -/
def readManner : Reading Manner := do
  if ← accept '?' then return .lazy
  else if ← accept '+' then return .possessive
  else return .greedy

/-- The parts of a group that only holds them together; any other part alone. -/
def Node.parts : Node → List Node
  | .group none on off body =>
    if on = .blank ∧ off = .blank then body else [.group none on off body]
  | node => [node]

/-- A row with its last part repeated; `place` is where the mark of repetition began. -/
def repeatLast (row : List Node) (place : Nat) (least : Nat) (most : Option Nat) :
    Reading (List Node) := do
  let back := (← get).place - place
  match row.getLast? with
  | none | some (.anchor _) => flaw "nothing to repeat" back
  | some (.repetition _ _ _ _) => flaw "multiple repeat" back
  | some node =>
    return row.dropLast ++ [.repetition (← readManner) least most node.parts]

/-! ## Options -/

/-- The option of a letter. -/
def optionOf? (c : Char) : Option Options :=
  match c with
  | 'i' => some { Options.blank with ignoreCase := true }
  | 'm' => some { Options.blank with multiline := true }
  | 's' => some { Options.blank with dotAll := true }
  | 'x' => some { Options.blank with verbose := true }
  | 'a' => some { Options.blank with ascii := true }
  | 'u' => some { Options.blank with unicode := true }
  | 't' => some { Options.blank with template := true }
  | _ => none

/-- Is the character a letter? -/
def isLetter (c : Char) : Bool :=
  isWord c && !isDigit c && c != '_'

/-- Do two rows of options share one? -/
def Options.share (a b : Options) : Bool :=
  (a.ignoreCase && b.ignoreCase) || (a.multiline && b.multiline) || (a.dotAll && b.dotAll) ||
    (a.verbose && b.verbose)

/-- The options that are turned on, from the first letter on, and the token that ends them. -/
def readOptionsOn : Nat → Char → Options → Reading (Options × Token)
  | 0, _, known => return (known, [])
  | fuel + 1, c, known => do
    if c == 'L' then flawHere "bad inline flags: cannot use 'L' flag with a str pattern"
    let o := (optionOf? c).getD .blank
    let known := known.union o
    if o.namesAlphabet && known.ascii && known.unicode then
      flawHere "bad inline flags: flags 'a', 'u' and 'L' are incompatible"
    match ← next with
    | [] => flawHere "missing -, : or )"
    | token =>
      if token == [')'] || token == ['-'] || token == [':'] then return (known, token)
      match token with
      | [d] =>
        if (optionOf? d).isSome || d == 'L' then readOptionsOn fuel d known
        else flaw (if isLetter d then "unknown flag" else "missing -, : or )") 1
      | _ => flaw "missing -, : or )" token.length

/-- The options that are turned off, from the first letter on, up to a colon. -/
def readOptionsOff : Nat → Char → Options → Reading Options
  | 0, _, known => return known
  | fuel + 1, c, known => do
    let o := (optionOf? c).getD .blank
    if o.namesAlphabet || c == 'L' then
      flawHere "bad inline flags: cannot turn off flags 'a', 'u' and 'L'"
    let known := known.union o
    match ← next with
    | [] => flawHere "missing :"
    | [':'] => return known
    | [d] =>
      if (optionOf? d).isSome || d == 'L' then readOptionsOff fuel d known
      else flaw (if isLetter d then "unknown flag" else "missing :") 1
    | token => flaw "missing :" token.length

/-- The options of a group, from the first letter on: those of the whole pattern, which are set,
or those that are turned on and off within the group. -/
def readOptions (first : Char) : Reading (Option (Options × Options)) := do
  let size := (← get).rest.length + 1
  let (on, stop) ← if first == '-' then pure (Options.blank, ['-'])
    else readOptionsOn size first .blank
  if stop == [')'] then
    modify fun p => { p with options := p.options.union on }
    return none
  if on.template then flaw "bad inline flags: cannot turn on global flag" 1
  if stop == ['-'] then
    match ← next with
    | [] => flawHere "missing flag"
    | [d] =>
      if !((optionOf? d).isSome || d == 'L') then
        flaw (if isLetter d then "unknown flag" else "missing flag") 1
      let off ← readOptionsOff size d .blank
      if off.template then flaw "bad inline flags: cannot turn off global flag" 1
      if on.share off then flaw "bad inline flags: flag turned on and off" 1
      return some (on, off)
    | token => flaw "missing flag" token.length
  return some (on, .blank)

/-! ## Groups -/

/-- Is the text a name: letters, digits and underscores, and no digit first? -/
def isName (s : String) : Bool :=
  match s.toList with
  | [] => false
  | c :: rest => (isLetter c || c == '_') && rest.all isWord

/-- Fails if the text is no name of a group. -/
def guardName (name : String) : Reading Unit := do
  if !isName name then
    flaw ("bad character in group name " ++ quoted name) (name.length + 1)

/-- The group of a name. -/
def groupNamed (name : String) : Reading Nat := do
  match (← get).names.lookup name with
  | some index => return index
  | none => flaw ("unknown group name " ++ quoted name) (name.length + 1)

/-- Opens a group, perhaps with a name, and gives its number. -/
def openGroup (name : Option String) : Reading Nat := do
  let p ← get
  let index := p.count
  if let some name := name then
    if let some old := p.names.lookup name then
      flaw (s!"redefinition of group name {quoted name} as group {index}; was group {old}")
        (name.length + 1)
  set { p with
    groups := p.groups ++ [none]
    names := match name with
      | some name => (name, index) :: p.names
      | none => p.names }
  return index

/-- Closes a group. -/
def closeGroup (index : Nat) (body : List Node) : Reading Unit :=
  modify fun p => { p with groups := p.groups.set (index - 1) (some (widthOfRow p.groups body)) }

/-- The greatest number of groups. -/
def maxGroups : Nat := 1073741823

/-- The group that a condition asks for. -/
def readAsked : Reading Nat := do
  let name ← readUntil ')' "group name"
  let back := name.length + 1
  if isName name then groupNamed name
  else
    match Number.readInt name with
    | .ok n =>
      if n < 0 then flaw ("bad character in group name " ++ quoted name) back
      else if n == 0 then flaw "bad group number" back
      else if maxGroups ≤ n.toNat then flaw s!"invalid group reference {n.toNat}" back
      else
        modify fun p => { p with asked :=
          if (p.asked.lookup n.toNat).isSome then p.asked
          else p.asked ++ [(n.toNat, p.place - back)] }
        return n.toNat
    | .error _ => flaw ("bad character in group name " ++ quoted name) back

/-- Skips a comment, behind its mark; `start` is the place of its parenthesis. -/
def skipComment (start : Nat) : Nat → Reading Unit
  | 0 => return ()
  | fuel + 1 => do
    match ← peek with
    | [] => flaw "missing ), unterminated comment" ((← get).place - start)
    | _ => if (← next) == [')'] then return () else skipComment start fuel

/-- Skips the rest of a line. -/
def skipLine : Nat → Reading Unit
  | 0 => return ()
  | fuel + 1 => do
    let token ← next
    if token.isEmpty || token == ['\n'] then return () else skipLine fuel

/-- Takes the closing parenthesis of a group; `start` is the place of the opening one. -/
def closeParenthesis (start : Nat) : Reading Unit := do
  if !(← accept ')') then
    flaw "missing ), unterminated subpattern" ((← get).place - start)

/-! ## Alternatives -/

/-- The part that all rows start with. -/
def commonHead? : List (List Node) → Option Node
  | [] => none
  | [] :: _ => none
  | (node :: _) :: rows =>
    if rows.all fun row => (row.head?.map fun n => node.isSame n).getD false then some node
    else none

/-- The parts that all rows start with, and what follows them. -/
def commonStart : Nat → List (List Node) → List Node × List (List Node)
  | 0, rows => ([], rows)
  | fuel + 1, rows =>
    match commonHead? rows with
    | some node =>
      let (start, rows) := commonStart fuel (rows.map List.tail)
      (node :: start, rows)
    | none => ([], rows)

/-- The members of rows that each are one character or one set. -/
def asMembers? : List (List Node) → Option (List Member)
  | [] => some []
  | [.one code] :: rows => (asMembers? rows).map (.one code :: ·)
  | [.set false members] :: rows => (asMembers? rows).map (members ++ ·)
  | _ => none

/-- Alternatives as a row. -/
def branchOf (rows : List (List Node)) : List Node :=
  match rows with
  | [row] => row
  | rows =>
    let size := (rows.map List.length).foldl max 0
    let (start, rows) := commonStart (size + 1) rows
    match asMembers? rows with
    | some members => start ++ [.set false members.eraseDups]
    | none => start ++ [.branch rows]

/-! ## The reader -/

/-- What stands behind the opening parenthesis of a group. -/
inductive Opening
  | nothing
  | comment
  | group (name : Option String) (isCapturing isAtomic : Bool) (on off : Options)
  | reference (index : Nat)
  | look (behind negated : Bool)
  | conditional (index : Nat)

/-- Reads behind `(?P`. -/
def readNamedOpening : Reading Opening := do
  if ← accept '<' then
    let name ← readUntil '>' "group name"
    guardName name
    return .group (some name) true false .blank .blank
  if ← accept '=' then
    let name ← readUntil ')' "group name"
    guardName name
    let index ← groupNamed name
    if !(← get).isComplete index then flaw "cannot refer to an open group" (name.length + 1)
    guardBehind index
    return .reference index
  match ← next with
  | [] => flawHere "unexpected end of pattern"
  | token => flaw ("unknown extension ?P" ++ String.ofList token) (token.length + 2)

/-- Reads behind `(?<`. -/
def readBehindOpening : Reading Opening := do
  match ← next with
  | [] => flawHere "unexpected end of pattern"
  | ['='] => return .look true false
  | ['!'] => return .look true true
  | token => flaw ("unknown extension ?<" ++ String.ofList token) (token.length + 2)

/-- Reads behind the opening parenthesis of a group; `isFirst` tells that nothing precedes it. -/
def readOpening (start : Nat) (isFirst : Bool) : Reading Opening := do
  if !(← accept '?') then return .group none true false .blank .blank
  match ← next with
  | [] => flawHere "unexpected end of pattern"
  | ['P'] => readNamedOpening
  | [':'] => return .group none false false .blank .blank
  | ['#'] =>
    skipComment start ((← get).rest.length + 1)
    return .comment
  | ['='] => return .look false false
  | ['!'] => return .look false true
  | ['<'] => readBehindOpening
  | ['('] =>
    let index ← readAsked
    guardBehind index
    return .conditional index
  | ['>'] => return .group none false true .blank .blank
  | [c] =>
    if (optionOf? c).isSome || c == 'L' || c == '-' then
      match ← readOptions c with
      | some (on, off) => return .group none false false on off
      | none =>
        if !isFirst then
          flaw "global flags not at the start of the expression" ((← get).place - start)
        else return .nothing
    else flaw ("unknown extension ?" ++ String.ofList [c]) 2
  | token => flaw ("unknown extension ?" ++ String.ofList token) (token.length + 1)

/-- Is the character a blank that is skipped where the layout of a pattern is free? -/
def isLayoutBlank (c : Char) : Bool := (9 ≤ c.toNat && c.toNat ≤ 13) || c == ' '

mutual

/-- Reads alternatives. `depth` is zero for the whole pattern. -/
def readAlternatives : Nat → Bool → Nat → List (List Node) → Reading (List Node)
  | 0, _, _, rows => return branchOf rows
  | fuel + 1, verbose, depth, rows => do
    let row ← readRow fuel verbose depth (depth == 0 && rows.isEmpty) []
    let rows := rows ++ [row.flatMap Node.parts]
    if ← accept '|' then
      let inForce := (← get).options.verbose
      let verbose := if depth == 0 then inForce else verbose
      readAlternatives fuel verbose depth rows
    else return branchOf rows
termination_by structural x => x

/-- Reads the parts of a row, behind those that were read before. -/
def readRow : Nat → Bool → Nat → Bool → List Node → Reading (List Node)
  | 0, _, _, _, row => return row
  | fuel + 1, verbose, depth, isFirst, row => do
    let start := (← get).place
    match ← peek with
    | [] | ['|'] | [')'] => return row
    | _ =>
      match ← next with
      | ['\\', c] => readRow fuel verbose depth isFirst (row ++ [← readEscape c])
      | [c] =>
        if verbose && isLayoutBlank c then readRow fuel verbose depth isFirst row
        else if verbose && c == '#' then
          skipLine ((← get).rest.length + 1)
          readRow fuel verbose depth isFirst row
        else match c with
          | '.' => readRow fuel verbose depth isFirst (row ++ [.any])
          | '^' => readRow fuel verbose depth isFirst (row ++ [.anchor .start])
          | '$' => readRow fuel verbose depth isFirst (row ++ [.anchor .finish])
          | '[' => do
            let node ← readSet
            readRow fuel verbose depth isFirst (row ++ [node])
          | '(' => do
            let opening ← readOpening start (isFirst && row.isEmpty)
            match opening with
            | .nothing =>
              let verbose := (← get).options.verbose
              readRow fuel verbose depth isFirst row
            | .comment => readRow fuel verbose depth isFirst row
            | _ =>
              let node ← readGroup fuel verbose depth start opening
              readRow fuel verbose depth isFirst (row ++ [node])
          | '*' | '+' | '?' | '\x7b' => do
            match ← limitsOf c with
            | some (least, most) =>
              readRow fuel verbose depth isFirst (← repeatLast row start least most)
            | none => readRow fuel verbose depth isFirst (row ++ [.one c.toNat])
          | c => readRow fuel verbose depth isFirst (row ++ [.one c.toNat])
      | _ => return row
termination_by structural x => x

/-- Reads a group behind its opening; `start` is the place of its parenthesis. -/
def readGroup : Nat → Bool → Nat → Nat → Opening → Reading Node
  | 0, _, _, _, _ => return .any
  | fuel + 1, verbose, depth, start, opening => do
    match opening with
    | .nothing | .comment => return .group none .blank .blank []
    | .reference index => return .reference index
    | .look behind negated =>
      let outer := (← get).behindFrom
      if behind && outer.isNone then modify fun p => { p with behindFrom := some p.count }
      let body ← readAlternatives fuel verbose (depth + 1) []
      if behind && outer.isNone then modify fun p => { p with behindFrom := none }
      closeParenthesis start
      return .look behind negated body
    | .conditional index =>
      let yes ← readRow fuel verbose (depth + 1) false []
      let no ← if ← accept '|' then
          let no ← readRow fuel verbose (depth + 1) false []
          if (← peek) == ['|'] then flawHere "conditional backref with more than two branches"
          pure no
        else pure []
      closeParenthesis start
      return .conditional index (yes.flatMap Node.parts) (no.flatMap Node.parts)
    | .group name isCapturing isAtomic on off =>
      let index ← if isCapturing then some <$> openGroup name else pure none
      let verbose := (verbose || on.verbose) && !off.verbose
      let body ← readAlternatives fuel verbose (depth + 1) []
      closeParenthesis start
      if let some n := index then closeGroup n body
      return if isAtomic then .atomic body else .group index on off body
termination_by structural x => x

end

/-- The whole pattern. -/
def readPattern : Reading Pattern := do
  guardEnd
  let row ← readAlternatives (6 * (← get).rest.length + 8) false 0 []
  let p ← get
  if p.options.ascii && p.options.unicode then
    throw ⟨.options, "ASCII and UNICODE flags are incompatible", none⟩
  if !p.rest.isEmpty then flawHere "unbalanced parenthesis"
  match p.asked.find? fun e => p.count ≤ e.1 with
  | some (index, place) => throw ⟨.form, s!"invalid group reference {index}", some place⟩
  | none =>
    if looksAreFixedIn p.groups row then return ⟨p.options, p.groups, row⟩
    else throw ⟨.form, "look-behind requires fixed-width pattern", none⟩

end EventHub.Pattern

namespace EventHub

/-- The pattern that a text writes. -/
def Pattern.read (source : String) : Except Pattern.Flaw Pattern :=
  let start : Pattern.Progress :=
    { rest := source.toList, place := 0, options := .blank, groups := [], names := [],
      behindFrom := none, asked := [] }
  (Pattern.readPattern.run start).map (·.1)

end EventHub
