import TokenChain.Decimal.Shortest

/-! # JSON numbers

What the characters of a number mean. A whole number that fits into 64 bits, signed or unsigned, is
exact; any other is a double. The digits of a double are gathered while they fit into 64 bits, in
front of the point and again behind it, and the rest is dropped, with the power of ten taking up the
places; then one multiplication or division by a power of ten gives the double. A number too large
for a double is none. Minus zero is a double. -/

namespace TokenChain.Json

/-- A number: exact, or a double. -/
inductive Number where
  | int (n : Int)
  | double (x : Float)
deriving Inhabited

namespace Number

/-- What has been gathered of a number: its leading digits and the power of ten they are counted
in. -/
structure Gathered where
  digits : Nat
  exponent : Int
  full : Bool

/-- Adds a digit in front of the point. -/
def Gathered.whole (g : Gathered) (c : Char) : Gathered :=
  let next := g.digits * 10 + (c.toNat - 48)
  if g.full || next ≥ Nat.pow 2 64 then { g with exponent := g.exponent + 1, full := true }
  else { g with digits := next }

/-- Adds a digit behind the point. -/
def Gathered.decimal (g : Gathered) (c : Char) : Gathered :=
  let next := g.digits * 10 + (c.toNat - 48)
  if g.full || next ≥ Nat.pow 2 64 then { g with full := true }
  else { g with digits := next, exponent := g.exponent - 1 }

/-- Scales a double by a power of ten; a power out of reach is taken in steps of 308. -/
def scale : Nat → Float → Int → Option Float
  | 0, _, _ => none
  | fuel + 1, x, e =>
    if e.natAbs ≤ 308 then
      let power := Float.ofScientific 1 false e.natAbs
      if e ≥ 0 then (let y := x * power; if y.isInf then none else some y) else some (x / power)
    else if x == 0 then some x
    else if e ≥ 0 then none
    else scale fuel (x / Float.ofScientific 1 false 308) (e + 308)

/-- The double of some digits and a power of ten. -/
def toDouble? (negative : Bool) (digits : Nat) (exponent : Int) : Option Float :=
  (scale 10 (UInt64.ofNat digits).toFloat exponent).map fun x => if negative then -x else x

/-- The power of ten behind an `e`; one that does not fit into 32 bits is out of reach. -/
def power (cs : List Char) : Int :=
  let (negative, ds) := match cs with
    | '-' :: ds => (true, ds)
    | ds => (false, ds)
  let n : Nat := ds.foldl (fun (n : Nat) c => 10 * n + (c.toNat - 48)) 0
  let reach : Nat := if n ≥ Nat.pow 2 31 then Nat.pow 2 40 else n
  if negative then -(reach : Int) else (reach : Int)

/-- The number that the characters write, a sign and a power of ten included. -/
def ofText? (text : List Char) : Option Number := do
  let (negative, cs) := match text with
    | '-' :: cs => (true, cs)
    | cs => (false, cs)
  let whole := cs.takeWhile Char.isDigit
  let g := whole.foldl Gathered.whole ⟨0, 0, false⟩
  match cs.dropWhile Char.isDigit with
  | [] =>
    if g.full then (toDouble? negative g.digits g.exponent).map double
    else if !negative then some (int g.digits)
    else if g.digits = 0 || g.digits > Nat.pow 2 63 then (toDouble? true g.digits 0).map double
    else some (int (-(g.digits : Int)))
  | rest =>
    let (decimals, rest) := match rest with
      | '.' :: rest => (rest.takeWhile Char.isDigit, rest.dropWhile Char.isDigit)
      | rest => ([], rest)
    let g := decimals.foldl Gathered.decimal { g with full := false }
    let e := match rest with
      | _ :: ds => power ds
      | [] => 0
    if g.digits = 0 then (toDouble? negative 0 0).map double
    else (toDouble? negative g.digits (g.exponent + e)).map double

/-- A power of ten behind the digits of a number, always with its sign. -/
def powerText (exponent : Int) : List Char :=
  'e' :: (if exponent < 0 then (toString exponent).toList else '+' :: (toString exponent).toList)

/-- A double in decimal: positional where the point lies among the digits or close to them,
otherwise with a power of ten. -/
def doubleText (x : Float) : String :=
  let sign := if x.toBits ≥ 0x8000000000000000 then "-" else ""
  if x == 0 then sign ++ "0.0"
  else
    let d := Decimal.shortest (x.toBits &&& 0x7FFFFFFFFFFFFFFF)
    let ds := (toString d.digits).toList
    let point := (ds.length : Int) + d.exponent
    let text :=
      if 0 ≤ d.exponent && point ≤ 16 then ds ++ List.replicate d.exponent.toNat '0' ++ ['.', '0']
      else if 0 < point && point ≤ 16 then ds.take point.toNat ++ '.' :: ds.drop point.toNat
      else if -5 < point && point ≤ 0 then '0' :: '.' :: (List.replicate (-point).toNat '0' ++ ds)
      else
        let mantissa := match ds with
          | [c] => [c]
          | c :: cs => c :: '.' :: cs
          | [] => []
        mantissa ++ powerText (point - 1)
    sign ++ String.ofList text

/-- A number in decimal. -/
def text : Number → String
  | int n => toString n
  | double x => doubleText x

end Number

end TokenChain.Json
