/-!
# UTF-8

Characters as bytes and back. Reading stops a malformed sequence before the first byte that
cannot continue it; every such sequence counts as one unreadable character.

* `encodeChar_ascii`: ASCII characters are their own byte.
* `decode_ascii`: and read as themselves.
-/

namespace EventHub.Text

/-- The bytes of a character. -/
def encodeChar (c : Char) : List UInt8 :=
  let n := c.toNat
  if n < 0x80 then [n.toUInt8]
  else if n < 0x800 then [(0xc0 + n / 64).toUInt8, (0x80 + n % 64).toUInt8]
  else if n < 0x10000 then
    [(0xe0 + n / 4096).toUInt8, (0x80 + n / 64 % 64).toUInt8, (0x80 + n % 64).toUInt8]
  else
    [(0xf0 + n / 262144).toUInt8, (0x80 + n / 4096 % 64).toUInt8, (0x80 + n / 64 % 64).toUInt8,
     (0x80 + n % 64).toUInt8]

/-- The bytes of a text. -/
def encode (cs : List Char) : List UInt8 := cs.flatMap encodeChar

/-- Can the byte continue a sequence? -/
def continues (b : UInt8) : Bool := 0x80 ≤ b && b < 0xc0

/-- Can the byte be the second one after the given first byte of three or four? It must not
write a number that a shorter sequence could write, a surrogate, or one beyond the last
character. -/
def secondOf (first b : UInt8) : Bool :=
  if first == 0xe0 then 0xa0 ≤ b && b < 0xc0
  else if first == 0xed then 0x80 ≤ b && b < 0xa0
  else if first == 0xf0 then 0x90 ≤ b && b < 0xc0
  else if first == 0xf4 then 0x80 ≤ b && b < 0x90
  else continues b

/-- The six low bits of a continuing byte. -/
def low (b : UInt8) : Nat := b.toNat % 64

/-- The characters that the bytes write; a malformed sequence gives none. -/
def decode : List UInt8 → List (Option Char)
  | [] => []
  | a :: rest =>
    if a < 0x80 then some (Char.ofNat a.toNat) :: decode rest
    else if 0xc2 ≤ a && a < 0xe0 then
      match rest with
      | b :: after =>
        if continues b then some (Char.ofNat (a.toNat % 32 * 64 + low b)) :: decode after
        else none :: decode (b :: after)
      | [] => [none]
    else if 0xe0 ≤ a && a < 0xf0 then
      match rest with
      | b :: c :: after =>
        if !secondOf a b then none :: decode (b :: c :: after)
        else if continues c then
          some (Char.ofNat ((a.toNat % 16 * 64 + low b) * 64 + low c)) :: decode after
        else none :: decode (c :: after)
      | [b] => if secondOf a b then [none] else none :: decode [b]
      | [] => [none]
    else if 0xf0 ≤ a && a < 0xf5 then
      match rest with
      | b :: c :: d :: after =>
        if !secondOf a b then none :: decode (b :: c :: d :: after)
        else if !continues c then none :: decode (c :: d :: after)
        else if continues d then
          some (Char.ofNat (((a.toNat % 8 * 64 + low b) * 64 + low c) * 64 + low d)) ::
            decode after
        else none :: decode (d :: after)
      | [b, c] =>
        if !secondOf a b then none :: decode [b, c]
        else if continues c then [none]
        else none :: decode [c]
      | [b] => if secondOf a b then [none] else none :: decode [b]
      | [] => [none]
    else none :: decode rest

/-- The text that the bytes write, if they are well-formed. -/
def decode? (bytes : List UInt8) : Option String :=
  ((decode bytes).mapM id).map String.ofList

/-- The text that the bytes write, with a replacement character for every malformed sequence. -/
def decodeLossy (bytes : List UInt8) : String :=
  String.ofList ((decode bytes).map fun c => c.getD (Char.ofNat 0xfffd))

theorem encodeChar_ascii {c : Char} (h : c.toNat < 0x80) : encodeChar c = [c.toNat.toUInt8] := by
  simp [encodeChar, h]

theorem decode_ascii (a : UInt8) (rest : List UInt8) (h : a < 0x80) :
    decode (a :: rest) = some (Char.ofNat a.toNat) :: decode rest := by
  rw [decode.eq_def]; simp [h]

end EventHub.Text
