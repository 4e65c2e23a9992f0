import EventHub.Fault
import EventHub.Mail.Glyph

/-!
# Tokens of headers

Headers are read into tokens. A token has a text, which is how it was written with encoded words
read, and a value, which is what it means: blanks and comments mean one blank, and quotes mean
what is between them.

* `Token.text`, `Token.value`: the two views.
* `Refusal`: why a token is not there. A refusal that is no fault lets other forms be tried.
-/

namespace EventHub.Mail

/-- The kinds of tokens. A gap is made of blanks and comments. A joint is a blank between two
encoded words, which counts as nothing. -/
inductive TokenKind
  | blanks | joint | comment | gap | plain | dot | encodedWord | atom | quoted | quotedBody
  | dotAtom | dotAtomText | literal | early
deriving DecidableEq, Repr

/-- A token: glyphs, or tokens in a row. -/
inductive Token
  | leaf (kind : TokenKind) (glyphs : Glyphs)
  | node (kind : TokenKind) (parts : List Token)

/-- The kind of a token. -/
def Token.kind : Token → TokenKind
  | leaf kind _ => kind
  | node kind _ => kind

/-- A period. -/
def Token.period : Token := .leaf .dot [.char '.']

/-- A token with another one in front of its parts. -/
def Token.withLeader (t : Token) (leader : List Token) : Token :=
  match t with
  | node kind parts => node kind (leader ++ parts)
  | t => t

/-- Glyphs in a comment, with a backslash before parentheses and backslashes. -/
def escapedInComment (gs : Glyphs) : Glyphs :=
  gs.flatMap fun g => if g.isOneOf "\\()" then [.char '\\', g] else [g]

mutual

/-- The token as it is written. -/
def Token.text : Token → Glyphs
  | .leaf .joint _ => []
  | .leaf _ gs => gs
  | .node .comment parts => [.char '('] ++ Token.commentText parts ++ [.char ')']
  | .node .quotedBody parts => quotedGlyphs (Token.textAll parts)
  | .node _ parts => Token.textAll parts

/-- The tokens as they are written. -/
def Token.textAll : List Token → Glyphs
  | [] => []
  | t :: rest => t.text ++ Token.textAll rest

/-- The tokens as they are written in a comment. -/
def Token.commentText : List Token → Glyphs
  | [] => []
  | .node .comment parts :: rest =>
    Token.text (.node .comment parts) ++ Token.commentText rest
  | t :: rest => escapedInComment t.text ++ Token.commentText rest

end

mutual

/-- What the token means. -/
def Token.value : Token → Glyphs
  | .leaf .joint _ => []
  | .leaf .blanks _ => [.char ' ']
  | .leaf _ gs => gs
  | .node .comment _ => [.char ' ']
  | .node .gap _ => [.char ' ']
  | .node .quotedBody parts => Token.textAll parts
  | .node _ parts => Token.valueAll parts

/-- What the tokens mean. -/
def Token.valueAll : List Token → Glyphs
  | [] => []
  | t :: rest => t.value ++ Token.valueAll rest

end

/-- Why a token is not there: something else stands in its place, or an encoded word of no known
form, or reading met a fault. -/
inductive Refusal
  | unfit
  | badWord
  | broken (fault : Fault)

/-- A reader of the front of a row of glyphs: what it reads, and the rest. -/
abbrev Reader (β : Type) := Glyphs → Except Refusal (β × Glyphs)

/-- Another reading, where the first one does not fit. -/
def orElse {β : Type} (first : Except Refusal β) (second : Unit → Except Refusal β) :
    Except Refusal β :=
  match first with
  | .ok b => .ok b
  | .error (.broken fault) => .error (.broken fault)
  | .error _ => second ()

/-- The fault of reading on after the end. -/
def noGlyph {β : Type} : Except Refusal β :=
  .error (.broken (.raised .index "string index out of range"))

/-- The fault of asking for a token where none is. -/
def noToken {β : Type} : Except Fault β := .error (.raised .index "list index out of range")

/-- A result that may be a fault, as a result of reading. -/
def unbroken {β : Type} : Except Fault β → Except Refusal β
  | .ok b => .ok b
  | .error fault => .error (.broken fault)

end EventHub.Mail
