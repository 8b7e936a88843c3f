import TokenChain.Text.Utf8
import TokenChain.Text.NormalForm
import TokenChain.Url.Punycode
import TokenChain.Url.Domain.Mapping
import TokenChain.Url.Domain.Joining
import TokenChain.Url.Domain.Direction

/-! # Domain names

A domain name in the ASCII form in which it is looked up. Its characters are mapped to plain small
ones and brought to their normal form; a label with other characters than those of ASCII is then
written in Punycode behind `xn--`. A label that is already written so has to be what its text would
be written as. -/

namespace TokenChain.Url.Domain

open TokenChain.Text

/-- Whether a name may not hold the character. -/
def isForbidden (c : Char) : Bool :=
  c.toNat ≤ 0x20 || c.toNat = 0x7F || "%#/:<>?@[\\]^|".contains c

/-- Whether a character is one of ASCII. -/
def isPlain (c : Char) : Bool := c.toNat < 128

/-- A part of a name between dots: as it is shown, and as it is looked up. -/
structure Label where
  shown : List Char
  ascii : List Char
deriving Repr, Inhabited

/-- The longest text behind `xn--` that is read. -/
def longestPunycode : Nat := 2000

/-- The longest label with other characters than those of ASCII. -/
def longestLabel : Nat := 1000

/-- The label that a text in Punycode writes. -/
def punycodeLabel? (cs : List Char) : Option (List Char) := do
  if cs.length > longestPunycode || cs.getLast?.all (· = '-') then none
  let shown ← Punycode.decode? cs
  if shown.all isStable && normalForm shown == shown &&
    !shown.contains '.' then some shown else none

/-- The label that a mapped text in its normal form writes, in both of its forms. -/
def Label.read? (cs : List Char) : Option Label :=
  match cs with
  | 'x' :: 'n' :: '-' :: '-' :: code => (punycodeLabel? code).map fun shown => ⟨shown, cs⟩
  | _ =>
    some ⟨cs, if cs.all isPlain then cs else "xn--".toList ++ Punycode.encode cs⟩

/-- Whether a label may be part of a name. -/
def Label.isValid (l : Label) : Bool :=
  !l.shown.any isForbidden && !l.shown.head?.any isMark && joinersMatter [] l.shown
    && (l.shown.all isPlain || l.shown.length ≤ longestLabel)

/-- The labels of a name given by its bytes. -/
def labels? (bytes : List UInt8) : Option (List Label) := do
  let name ← Utf8.decode? bytes
  let mapped ← name.toList.mapM map?
  let labels ← ((normalForm mapped.flatten).splitOn '.').mapM Label.read?
  let turned := labels.any (·.shown.any turns)
  if labels.all fun l => l.isValid && (!turned || runsOneWay l.shown) then some labels else none

/-- The ASCII form of a domain name given by its bytes. -/
def toAscii? (bytes : List UInt8) : Option (List Char) :=
  (labels? bytes).map fun labels => ['.'].intercalate (labels.map Label.ascii)

end TokenChain.Url.Domain
