import TokenChain.Text.Digits
import TokenChain.Text.FormEncoded

/-! # Percent encoding

Each part of an address has characters that must not stand in it as they are. They are written as
the bytes of their UTF-8 form, each as a percent sign and two hexadecimal digits; control characters
and everything beyond ASCII are always written that way. -/

namespace TokenChain.Url

open TokenChain.Text

/-- Whether a character is a control character or not ASCII. -/
def isControl (c : Char) : Bool := c.toNat < 0x20 || c.toNat > 0x7E

/-- The characters that are encoded in a fragment. -/
def inFragmentSet (c : Char) : Bool := isControl c || " \"<>`".contains c

/-- The characters that are encoded in a path. -/
def inPathSet (c : Char) : Bool := inFragmentSet c || "#?\x7b\x7d".contains c

/-- The characters that are encoded in user names and passwords. -/
def inUserinfoSet (c : Char) : Bool := inPathSet c || "/:;=@[\\]^|".contains c

/-- The characters that are encoded in a query. -/
def inQuerySet (special : Bool) (c : Char) : Bool :=
  isControl c || " \"#<>".contains c || (special && c == '\'')

/-- One character, encoded if it has to be. -/
def percentChar (inSet : Char → Bool) (c : Char) : List Char :=
  if inSet c then (Utf8.encode (String.singleton c)).flatMap FormEncoded.percent else [c]

/-- A text with the characters of a set encoded. -/
def percentEncode (inSet : Char → Bool) (cs : List Char) : String :=
  String.ofList (cs.flatMap (percentChar inSet))

/-- The bytes that a text stands for; a percent sign without two digits stands for itself. -/
def percentDecode : List Char → List UInt8
  | [] => []
  | '%' :: a :: b :: cs =>
    match Digits.hexValue? a, Digits.hexValue? b with
    | some x, some y => UInt8.ofNat (16 * x + y) :: percentDecode cs
    | _, _ => 0x25 :: percentDecode (a :: b :: cs)
  | c :: cs => Utf8.encode (String.singleton c) ++ percentDecode cs
termination_by cs => cs.length

end TokenChain.Url
