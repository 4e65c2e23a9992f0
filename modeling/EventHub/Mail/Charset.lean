import EventHub.Mail.CodePage
import EventHub.Mail.Glyph
import EventHub.Text.Utf8

/-!
# Character sets

The character sets in which encoded words are written. In names of character sets case does not
matter, and what separates their parts does not matter either. Bytes that write no character stay
as they are.

* `normalName`: the form in which names are compared.
* `decodeBytes`: the glyphs of bytes. In a set that is not known only ASCII is read.
-/

namespace EventHub.Mail

/-- Is the character part of a name, and not a separator? -/
def isNameChar (c : Char) : Bool := c.isAlphanum || c == '.'

/-- A name in lower case, with an underscore between its parts. -/
def normalName (name : List Char) : String :=
  let parts := (name.splitBy fun a b => isNameChar a == isNameChar b).filter fun part =>
    part.all isNameChar
  String.intercalate "_" (parts.map fun part => String.ofList (part.map Char.toLower))

/-- The names of UTF-8. -/
def utf8Names : List String :=
  ["utf_8", "utf8", "u8", "utf", "utf8_ucs2", "utf8_ucs4", "cp65001"]

/-- The names of the set whose characters have the numbers of their bytes. -/
def latinNames : List String :=
  ["latin_1", "latin1", "latin", "l1", "iso8859_1", "iso_8859_1", "iso_8859_1_1987", "iso8859",
   "8859", "iso_ir_100", "cp819", "ibm819", "csisolatin1"]

/-- The glyphs of bytes, each of which may write a character. -/
def byteGlyphs (char? : UInt8 → Option Char) (bytes : List UInt8) : Glyphs :=
  bytes.map fun b => match char? b with
    | some c => .char c
    | none => .byte b

/-- The character of a byte in ASCII. -/
def asciiChar? (b : UInt8) : Option Char := if b < 0x80 then some (Char.ofNat b.toNat) else none

/-- The first character that the bytes write in UTF-8, and the rest. -/
def firstUtf8? (bytes : List UInt8) : Option (Char × List UInt8) :=
  (List.range 4).findSome? fun k =>
    match Text.decode (bytes.take (k + 1)) with
    | [some c] => some (c, bytes.drop (k + 1))
    | _ => none

/-- The glyphs of bytes in UTF-8; `fuel` is at least their number. -/
def utf8From : Nat → List UInt8 → Glyphs
  | 0, _ => []
  | _, [] => []
  | fuel + 1, b :: rest =>
    if b < 0x80 then .char (Char.ofNat b.toNat) :: utf8From fuel rest
    else match firstUtf8? (b :: rest) with
      | some (c, after) => .char c :: utf8From fuel after
      | none => .byte b :: utf8From fuel rest

/-- The glyphs of bytes in UTF-8. -/
def utf8Glyphs (bytes : List UInt8) : Glyphs := utf8From bytes.length bytes

/-- The bytes without the mark that may stand in front of UTF-8. -/
def withoutMark (bytes : List UInt8) : List UInt8 :=
  match bytes with
  | 0xef :: 0xbb :: 0xbf :: rest => rest
  | bytes => bytes

/-- The glyphs of bytes in the named character set. -/
def decodeBytes (name : List Char) (bytes : List UInt8) : Glyphs :=
  let name := normalName name
  if utf8Names.contains name then utf8Glyphs bytes
  else if name == "utf_8_sig" then utf8Glyphs (withoutMark bytes)
  else if latinNames.contains name then byteGlyphs (fun b => some (Char.ofNat b.toNat)) bytes
  else match codePages.find? (·.names.contains name) with
    | some page => byteGlyphs page.char? bytes
    | none => byteGlyphs asciiChar? bytes

end EventHub.Mail
