/-! # UTF-8

Reading of bytes as text. Every ill-formed stretch, as long as it could still have become a
character, counts as one mistake: `decodeLossy` writes U+FFFD for each, `decode?` refuses the
bytes. -/

namespace TokenChain.Text.Utf8

/-- The bytes of a text. -/
def encode (s : String) : List UInt8 := s.toUTF8.toList

/-- How a character goes on after its first byte: the range of the second byte and the number of
bytes after that one. -/
structure Lead where
  bits : Nat
  low : UInt8
  high : UInt8
  more : Nat

/-- The characters of more than one byte by their first byte. -/
def lead? (b : UInt8) : Option Lead :=
  if b < 0xC2 then none
  else if b ≤ 0xDF then some ⟨b.toNat - 0xC0, 0x80, 0xBF, 0⟩
  else if b == 0xE0 then some ⟨0, 0xA0, 0xBF, 1⟩
  else if b == 0xED then some ⟨13, 0x80, 0x9F, 1⟩
  else if b ≤ 0xEF then some ⟨b.toNat - 0xE0, 0x80, 0xBF, 1⟩
  else if b == 0xF0 then some ⟨0, 0x90, 0xBF, 2⟩
  else if b ≤ 0xF3 then some ⟨b.toNat - 0xF0, 0x80, 0xBF, 2⟩
  else if b == 0xF4 then some ⟨4, 0x80, 0x8F, 2⟩
  else none

/-- What a reader is in the middle of: the bits read so far, the range of the next byte and the
number of bytes after it. -/
abbrev Pending := Option Lead

/-- Reads on from a state; `none` stands for an ill-formed stretch. -/
def decodeFrom : Pending → List UInt8 → List (Option Char)
  | none, [] => []
  | some _, [] => [none]
  | none, b :: bs =>
    if b < 0x80 then some (Char.ofNat b.toNat) :: decodeFrom none bs
    else match lead? b with
      | none => none :: decodeFrom none bs
      | some l => decodeFrom (some l) bs
  | some l, b :: bs =>
    if l.low ≤ b && b ≤ l.high then
      let bits := l.bits * 64 + (b.toNat - 0x80)
      match l.more with
      | 0 => some (Char.ofNat bits) :: decodeFrom none bs
      | more + 1 => decodeFrom (some ⟨bits, 0x80, 0xBF, more⟩) bs
    else if b < 0x80 then none :: some (Char.ofNat b.toNat) :: decodeFrom none bs
    else match lead? b with
      | none => none :: none :: decodeFrom none bs
      | some l' => none :: decodeFrom (some l') bs

/-- The text of some bytes, with U+FFFD in place of what is ill-formed. -/
def decodeLossy (bs : List UInt8) : String :=
  String.ofList ((decodeFrom none bs).map fun c => c.getD '\uFFFD')

/-- The text of well-formed bytes. -/
def decode? (bs : List UInt8) : Option String :=
  ((decodeFrom none bs).mapM id).map String.ofList

end TokenChain.Text.Utf8
