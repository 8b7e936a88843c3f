import TokenChain.Text.Invisible

/-! # Quoted text

A text between double quotes, as messages and descriptions show it: quotes and backslashes have a
backslash in front, the common control characters have a letter of their own, and every other
character that does not show is spelled out as a code point in braces. -/

namespace TokenChain.Text.Quoted

/-- A code point in small hexadecimal digits without leading zeros, in braces. -/
def codePoint (c : Char) : List Char :=
  '\\' :: 'u' :: '\x7b' :: (Nat.toDigits 16 c.toNat ++ ['\x7d'])

/-- One character between the quotes. -/
def encodeChar (c : Char) : List Char :=
  match c with
  | '\"' => ['\\', '\"']
  | '\\' => ['\\', '\\']
  | '\n' => ['\\', 'n']
  | '\r' => ['\\', 'r']
  | '\t' => ['\\', 't']
  | '\x00' => ['\\', '0']
  | c => if isInvisible c then codePoint c else [c]

/-- A text between double quotes. -/
def encode (s : String) : String :=
  String.ofList ('\"' :: (s.toList.flatMap encodeChar ++ ['\"']))

/-- Texts between double quotes, in brackets and with commas between them. -/
def encodeList (ss : List String) : String := "[" ++ ", ".intercalate (ss.map encode) ++ "]"

end TokenChain.Text.Quoted
