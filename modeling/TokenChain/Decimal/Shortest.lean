/-! # Shortest decimals

The shortest decimal that reads back as a given binary number. A finite double is `m * 2 ^ q`; the
reals that round to it form an interval around it, whose ends count if `m` is even. For 1, 2, …
digits the two multiples of the last digit's unit around the number are tried; the first unit for
which one of them lies in the interval wins, and of two that do the nearer one. -/

namespace TokenChain

/-- A decimal `digits * 10 ^ exponent`. -/
structure Decimal where
  digits : Nat
  exponent : Int
deriving DecidableEq, Repr

namespace Decimal

/-- A number of the form `quarters * 2 ^ q / 4` with the ends of the interval around it, counted in
the same quarters. -/
structure Interval where
  low : Nat
  quarters : Nat
  high : Nat
  closed : Bool
  q : Int

/-- The interval of the reals that round to the double with the given bits; the sign is left out. -/
def Interval.ofBits (bits : UInt64) : Interval :=
  let fraction : Nat := bits.toNat % Nat.pow 2 52
  let exponent : Nat := bits.toNat / Nat.pow 2 52 % 2048
  let m : Nat := if exponent = 0 then fraction else fraction + Nat.pow 2 52
  let q : Int := if exponent = 0 then -1074 else (exponent : Int) - 1075
  let low := if fraction = 0 && exponent > 1 then 4 * m - 1 else 4 * m - 2
  ⟨low, 4 * m, 4 * m + 2, m % 2 == 0, q⟩

/-- The numerator and denominator of `n / 4 * 2 ^ q * 10 ^ shift`. -/
def ratio (n : Nat) (q shift : Int) : Nat × Nat :=
  let num := n * Nat.pow 2 q.toNat * Nat.pow 10 shift.toNat
  let den := 4 * Nat.pow 2 (-q).toNat * Nat.pow 10 (-shift).toNat
  (num, den)

/-- Whether `d * 10 ^ (-shift)` lies in the interval. -/
def Interval.holds (i : Interval) (d : Nat) (shift : Int) : Bool :=
  let (low, den) := ratio i.low i.q shift
  let (high, _) := ratio i.high i.q shift
  if i.closed then low ≤ d * den && d * den ≤ high else low < d * den && d * den < high

/-- The multiple of `10 ^ (-shift)` in the interval that is nearest to the number, if there is
one. -/
def Interval.nearest? (i : Interval) (shift : Int) : Option Nat :=
  let (num, den) := ratio i.quarters i.q shift
  let below := num / den
  let rest := num % den
  match i.holds below shift && below > 0, i.holds (below + 1) shift with
  | true, true =>
    some (if 2 * rest < den || (2 * rest == den && below % 2 == 0) then below else below + 1)
  | true, false => some below
  | false, true => some (below + 1)
  | false, false => none

/-- The decimal without trailing zeros. -/
def normal : Nat → Decimal → Decimal
  | 0, d => d
  | fuel + 1, d =>
    if d.digits % 10 = 0 && d.digits > 0 then normal fuel ⟨d.digits / 10, d.exponent + 1⟩ else d

/-- The number of decimal places in front of the point, or minus the zeros behind it. -/
def Interval.magnitude (i : Interval) : Int :=
  let (num, den) := ratio i.quarters i.q 0
  if den ≤ num then ((num / den).repr.length : Int)
  else
    let zeros := ((List.range 400).find? fun j => den ≤ num * Nat.pow 10 (j + 1)).getD 0
    Int.negOfNat zeros

/-- The shortest decimal for the bits of a double other than zero. -/
def shortest (bits : UInt64) : Decimal :=
  let i := Interval.ofBits bits
  let k := i.magnitude
  let found := (List.range 17).findSome? fun (n : Nat) =>
    (i.nearest? ((n : Int) + 1 - k)).map fun d => normal 20 ⟨d, k - ((n : Int) + 1)⟩
  found.getD ⟨0, 0⟩

end Decimal

end TokenChain
