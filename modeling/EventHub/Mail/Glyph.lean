import EventHub.Text.Blank
import EventHub.Text.Utf8

/-!
# Glyphs

What the headers of a mail are made of: characters, and bytes that were taken from an encoded word
and are part of no character there. Bytes of neighbouring words may make one together, so they
stay bytes until a header is complete.

* `Glyph.isOneOf`: only a character is one of a set.
* `textOf`: the text that glyphs show.
-/

namespace EventHub.Mail

/-- A character, or a byte that is part of none. -/
inductive Glyph
  | char (c : Char)
  | byte (b : UInt8)
deriving DecidableEq, Repr

/-- A row of glyphs. -/
abbrev Glyphs := List Glyph

/-- Is the glyph one of the characters of a set? -/
def Glyph.isOneOf (set : String) : Glyph → Bool
  | .char c => set.toList.contains c
  | .byte _ => false

/-- Is the glyph the character? -/
def Glyph.is (c : Char) (g : Glyph) : Bool := g == .char c

/-- The characters that blanks of headers are made of. -/
def blankSet : String := " \t"

/-- Is the glyph a blank of headers? -/
def Glyph.isBlank (g : Glyph) : Bool := g.isOneOf blankSet

/-- Is the glyph white space of any kind? -/
def Glyph.isWhite : Glyph → Bool
  | .char c => Text.isBlank c
  | .byte _ => false

/-- The glyphs of a text. -/
def glyphsOf (s : String) : Glyphs := s.toList.map .char

/-- The bytes of a glyph. -/
def Glyph.bytes : Glyph → List UInt8
  | .char c => Text.encodeChar c
  | .byte b => [b]

/-- The text that glyphs show. -/
def textOf (gs : Glyphs) : String := Text.decodeLossy (gs.flatMap Glyph.bytes)

/-- Glyphs in double quotes, with a backslash before quotes and backslashes. -/
def quotedGlyphs (gs : Glyphs) : Glyphs :=
  [.char '"'] ++ gs.flatMap (fun g => if g.isOneOf "\\\"" then [.char '\\', g] else [g]) ++
    [.char '"']

/-- What stands before the first pair of the two characters, and what stands after it. -/
def cutAtPair (a b : Char) : Glyphs → Option (Glyphs × Glyphs)
  | [] => none
  | [_] => none
  | g :: h :: rest =>
    if g.is a && h.is b then some ([], rest)
    else (cutAtPair a b (h :: rest)).map fun (before, after) => (g :: before, after)

/-- The parts between the separators. -/
def partsAt (c : Char) : Glyphs → List Glyphs
  | [] => [[]]
  | g :: rest =>
    if g.is c then [] :: partsAt c rest
    else match partsAt c rest with
      | [] => [[g]]
      | part :: more => (g :: part) :: more

end EventHub.Mail
