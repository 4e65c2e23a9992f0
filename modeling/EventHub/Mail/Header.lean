import EventHub.Mail.Address
import EventHub.Mail.EncodedWord
import EventHub.Text.Lines
import EventHub.Value.Coerce

/-!
# Headers of a mail

What the headers and the body of a mail are when they are given as values. A text has to be on one
line. Senders that are no text are shown one after the other.

* `subjectText`: a subject, as a text in which encoded words are read. The blanks between two encoded words count
  as nothing. An encoded word that stands in the middle of a word is read, too, if all of it is there.
* `subjectHeader`, `addressHeader`, `bodyText`: the parts of a mail.
-/

namespace EventHub.Mail

/-! ## Subjects -/

/-- Is there an encoded word behind an equals sign and a question mark? -/
def isWordBody (gs : Glyphs) : Bool :=
  match gs.dropWhile fun g => !g.is '?' with
  | _ :: encoding :: mark :: body =>
    encoding.isOneOf "qQbB" && mark.is '?' &&
      match cutAtPair '?' '=' body with
      | some (inside, _) => !inside.any (·.is '\n')
      | none => false
  | _ => false

/-- Is there an encoded word anywhere? -/
def holdsWord : Glyphs → Bool
  | [] => false
  | .char '=' :: .char '?' :: rest => isWordBody rest || holdsWord (.char '?' :: rest)
  | _ :: rest => holdsWord rest

/-- The glyphs before the start of an encoded word, and those from it on. -/
def beforeWord : Glyphs → Glyphs × Glyphs
  | [] => ([], [])
  | .char '=' :: .char '?' :: rest => ([], .char '=' :: .char '?' :: rest)
  | g :: rest =>
    let (before, after) := beforeWord rest
    (g :: before, after)

/-- Adds an encoded word to tokens, the latest first. After another encoded word and a blank, the
blank becomes a joint. -/
def addWord (done : List Token) (word : Token) : List Token :=
  match done with
  | .leaf .blanks gs :: before :: more =>
    if before.kind == .encodedWord then word :: .leaf .joint gs :: before :: more
    else word :: done
  | done => word :: done

/-- Adds what is no encoded word, and gives what stands after it. With `split` the encoded words
inside of it are left. -/
def addPlain (split : Bool) (done : List Token) (gs : Glyphs) : List Token × Glyphs :=
  let (front, rest) := gs.span fun g => !g.isBlank
  if split && holdsWord front then
    let (front, rest) := beforeWord gs
    (.leaf .plain front :: done, rest)
  else (.leaf .plain front :: done, rest)

/-- The tokens of a subject, after those that were read already, the latest first; `fuel` is at
least the number of glyphs. -/
def subjectTokens : Nat → List Token → Glyphs → List Token
  | 0, done, _ => done.reverse
  | _, done, [] => done.reverse
  | fuel + 1, done, g :: rest =>
    if g.isBlank then
      let (front, rest) := (g :: rest).span Glyph.isWhite
      subjectTokens fuel (.leaf .blanks front :: done) rest
    else
      match encodedWord (g :: rest) with
      | .ok (word, rest) => subjectTokens fuel (addWord done word) rest
      | .error refusal =>
        let split := match refusal with
          | .badWord => false
          | _ => true
        let (done, rest) := addPlain split done (g :: rest)
        subjectTokens fuel done rest

/-- A subject as it is shown. -/
def subjectText (s : String) : String :=
  let gs := glyphsOf s
  textOf (Token.textAll (subjectTokens gs.length [] gs))

/-! ## Headers -/

/-- A text on one line. -/
def oneLine (s : String) : Except Fault String :=
  if Text.manyLines s then
    .error (.raised .value "Header values may not contain linefeed or carriage return characters")
  else .ok s

/-- The fault of a row in the place of a text, by its first item. -/
def rowAsText (typeName : String) (first : Value) : Fault :=
  match first.unhashable? with
  | some name => .type (.unhashable name)
  | none =>
    if (Value.tuple [.text " ", .text "\t"]).holdsItem first matches .ok true then
      .noMember typeName "lstrip"
    else .noMember typeName "startswith"

/-- The fault of a value in the place of a text. -/
def valueAsText (v : Value) : Fault :=
  match v with
  | .list (first :: _) | .tuple (first :: _) => rowAsText v.typeName first
  | .map _ => .key (.int 0)
  | .table entries => match entries.find? fun (key, _) => key.alike (.int 0) with
    | some (_, item) => rowAsText v.typeName item
    | none => .key (.int 0)
  | .bytes _ => .raised .type "startswith first arg must be bytes or a tuple of bytes, not str"
  | v => .type (.notSubscriptable v.typeName)

/-- A subject as it is shown. -/
def subjectHeader (v : Value) : Except Fault String :=
  match v with
  | .text s => do .ok (subjectText (← oneLine s))
  | v => if v.truthy then .error (valueAsText v) else .ok ""

/-- The items of a value, or the value alone. -/
def itemsOrSelf (v : Value) : List Value :=
  match v.toList with
  | .ok items => items
  | .error _ => [v]

/-- Fails if the addresses cannot be read. -/
def readable (s : String) : Except Fault Unit :=
  let gs := glyphsOf s
  match addresses gs.length gs with
  | .ok _ => .ok ()
  | .error refusal => .error refusal.fault

/-- Addresses as they are shown. -/
def addressHeader (v : Value) : Except Fault String :=
  match v with
  | .text s => do addressesText (← oneLine s)
  | v => do
    let text := commaList ((itemsOrSelf v).map Value.plain)
    readable text
    .ok text

/-- The body of a mail, every line of which ends with a line feed. -/
def bodyText (v : Value) : Except Fault String :=
  match v with
  | .text s => .ok (Text.mailBody s)
  | .bytes _ => .error (.raised .type
      "set_bytes_content() missing 2 required positional arguments: 'maintype' and 'subtype'")
  | .moment _ => .error (.key (.text v.typeName))
  | v => .error (.key (.text ("builtins." ++ v.typeName)))

end EventHub.Mail
