import TokenChain.Text.Digits

/-! # Integers in text

A whole number is an optional sign and one digit or more, nothing else. An unsigned number takes a
plus sign and no minus sign. What does not fit into the bits asked for is refused. -/

namespace TokenChain.Text.Integer

/-- The number of a non-empty run of digits that fills the whole text. -/
def magnitude? (cs : List Char) : Option Nat :=
  if !cs.isEmpty && cs.all Digits.isDigit then some (Digits.number cs) else none

/-- Reads an unsigned number of `bits` bits. -/
def unsigned? (bits : Nat) (s : String) : Option Nat :=
  let digits := match s.toList with
    | '+' :: cs => cs
    | cs => cs
  (magnitude? digits).filter (· < Nat.pow 2 bits)

/-- Reads a signed number of 64 bits. -/
def signed? (s : String) : Option Int :=
  match s.toList with
  | '-' :: cs => ((magnitude? cs).filter (· ≤ Nat.pow 2 63)).map fun n => -(n : Int)
  | '+' :: cs => ((magnitude? cs).filter (· < Nat.pow 2 63)).map fun n => (n : Int)
  | cs => ((magnitude? cs).filter (· < Nat.pow 2 63)).map fun n => (n : Int)

end TokenChain.Text.Integer
