import TokenChain.Text.Utf8

/-! # Form encoding

The `application/x-www-form-urlencoded` writing of name-value pairs, as it stands in request bodies
and in queries: a space is a plus sign, letters, digits and `* - . _` stand for themselves, every
other byte of the UTF-8 text is a percent sign and two capital hexadecimal digits. -/

namespace TokenChain.Text.FormEncoded

/-- A capital hexadecimal digit. -/
def hexDigit (n : Nat) : Char := if n < 10 then Char.ofNat (48 + n) else Char.ofNat (55 + n)

/-- A byte as a percent sign and two hexadecimal digits. -/
def percent (b : UInt8) : List Char := ['%', hexDigit (b.toNat / 16), hexDigit (b.toNat % 16)]

/-- The characters that stand for themselves. -/
def isPlain (c : Char) : Bool :=
  c.isAlphanum || c == '*' || c == '-' || c == '.' || c == '_'

/-- One character in encoded form. -/
def encodeChar (c : Char) : List Char :=
  if c == ' ' then ['+']
  else if isPlain c then [c]
  else (Utf8.encode (String.singleton c)).flatMap percent

/-- A text in encoded form. -/
def encode (s : String) : String := String.ofList (s.toList.flatMap encodeChar)

/-- Pairs in encoded form, joined by ampersands. -/
def encodePairs (pairs : List (String × String)) : String :=
  "&".intercalate (pairs.map fun p => encode p.1 ++ "=" ++ encode p.2)

end TokenChain.Text.FormEncoded
