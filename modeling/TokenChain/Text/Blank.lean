/-! # White space

The white space of Unicode, and the trimming of texts by it. -/

namespace TokenChain.Text

/-- The characters with the Unicode property White_Space. -/
def isBlank (c : Char) : Bool :=
  let n := c.toNat
  (9 ≤ n && n ≤ 13) || n == 0x20 || n == 0x85 || n == 0xA0 || n == 0x1680
    || (0x2000 ≤ n && n ≤ 0x200A) || n == 0x2028 || n == 0x2029 || n == 0x202F || n == 0x205F
    || n == 0x3000

/-- The text without the white space in front of it. -/
def trimStart (cs : List Char) : List Char := cs.dropWhile isBlank

/-- The text without the white space around it. -/
def trimChars (cs : List Char) : List Char := (trimStart (trimStart cs).reverse).reverse

/-- The text without the white space around it. -/
def trim (s : String) : String := String.ofList (trimChars s.toList)

/-- Whether a text holds nothing but white space. -/
def allBlank (s : String) : Bool := s.toList.all isBlank

end TokenChain.Text
