import TokenChain.Url
import TokenChain.Url.Percent
import TokenChain.Url.Domain

/-! # Hosts

The host of an address: an IPv6 address in brackets, an IPv4 address, or a domain name. Numbers of
an IPv4 address may be decimal, octal or hexadecimal, and the last of fewer than four numbers fills
the bytes that are left. An IPv6 address is written with its longest run of zeros cut out. -/

namespace TokenChain.Url.Host

open TokenChain.Text

/-! ### IPv4 -/

/-- The number that digits of a base write. -/
def ofDigits? (base : Nat) (cs : List Char) : Option Nat :=
  cs.foldlM (fun n c => (Digits.hexValue? c).bind fun d => if d <
    base then some (base * n + d) else none) 0

/-- A part of an IPv4 address; no digits behind the sign of a base count as zero. -/
def ipv4Number? : List Char → Option Nat
  | [] => none
  | '0' :: 'x' :: ds | '0' :: 'X' :: ds => ofDigits? 16 ds
  | ['0'] => some 0
  | '0' :: ds => ofDigits? 8 ds
  | ds => ofDigits? 10 ds

/-- The parts of a name between its dots. -/
def dotParts (cs : List Char) : List (List Char) := cs.splitOn '.'

/-- The parts of a name without the empty one behind a last dot. -/
def numericParts (cs : List Char) : List (List Char) :=
  let parts := dotParts cs
  if parts.length > 1 && parts.getLast? == some [] then parts.dropLast else parts

/-- Whether a name has to be an IPv4 address: its last part is a number. -/
def endsInNumber (cs : List Char) : Bool :=
  let parts := dotParts cs
  let last := if parts.getLast? == some [] then (if parts.length =
    1 then none else parts.dropLast.getLast?) else parts.getLast?
  match last with
  | none => false
  | some [] => false
  | some part => part.all Char.isDigit || (match part with
      | '0' :: 'x' :: ds | '0' :: 'X' :: ds => ds.all fun c => (Digits.hexValue? c).isSome
      | _ => false)

/-- The address that a name with a numeric ending writes. -/
def ipv4? (cs : List Char) : Option Nat := do
  let parts := numericParts cs
  if parts.length > 4 then none
  let numbers ← parts.mapM ipv4Number?
  let last ← numbers.getLast?
  let front := numbers.dropLast
  if front.all (· ≤ 255) && last < Nat.pow 256 (5 - numbers.length) then
    some (front.zipIdx.foldl (fun sum (n, i) => sum + n * Nat.pow 256 (3 - i)) last)
  else none

/-- An IPv4 address as it is written. -/
def ipv4Text (n : Nat) : String :=
  ".".intercalate ([n / 16777216, n / 65536 % 256, n / 256 % 256, n % 256].map toString)

/-! ### IPv6 -/

/-- A group of one to four hexadecimal digits. -/
def ipv6Group? (cs : List Char) : Option Nat :=
  if 1 ≤ cs.length && cs.length ≤ 4 then ofDigits? 16 cs else none

/-- A byte of an IPv4 address inside an IPv6 address: decimal, without leading zeros. -/
def byte? (cs : List Char) : Option Nat :=
  if cs.isEmpty || (cs.length > 1 && cs.head? == some '0') || !cs.all Char.isDigit then none
  else (ofDigits? 10 cs).filter (· ≤ 255)

/-- The two groups of an IPv4 address inside an IPv6 address. -/
def ipv4Groups? (cs : List Char) : Option (List Nat) := do
  match ← (dotParts cs).mapM byte? with
  | [a, b, c, d] => some [256 * a + b, 256 * c + d]
  | _ => none

/-- The groups between colons; the last one may be an IPv4 address. -/
def ipv6Groups? (cs : List Char) : Option (List Nat) :=
  if cs.isEmpty then some [] else
    let parts := cs.splitOn ':'
    match parts.getLast? with
    | none => none
    | some last =>
      if last.contains '.' then do
        let front ← parts.dropLast.mapM ipv6Group?
        return front ++ (← ipv4Groups? last)
      else parts.mapM ipv6Group?

/-- The text in front of the first double colon and the text behind it. -/
def splitDoubleColon : List Char → Option (List Char × List Char)
  | [] => none
  | ':' :: ':' :: cs => some ([], cs)
  | c :: cs => (splitDoubleColon cs).map fun (a, b) => (c :: a, b)

/-- The eight groups of an IPv6 address; a double colon stands for one group of zeros or more. -/
def ipv6? (cs : List Char) : Option (List Nat) := do
  match splitDoubleColon cs with
  | none =>
    let groups ← ipv6Groups? cs
    if groups.length = 8 then some groups else none
  | some (front, back) =>
    if front.contains '.' then none
    let front ← ipv6Groups? front
    let back ← ipv6Groups? back
    if front.length + back.length ≤ 7 then
      some (front ++ List.replicate (8 - front.length - back.length) 0 ++ back)
    else none

/-- The number of zeros at the front of a list. -/
def leadingZeros (gs : List Nat) : Nat := (gs.takeWhile (· == 0)).length

/-- Where the first of the longest runs of two zeros or more begins, and its length. -/
def longestZeros (gs : List Nat) : Option (Nat × Nat) :=
  (List.range gs.length).foldl (fun best i =>
    let length := leadingZeros (gs.drop i)
    if length ≥ 2 && length > (best.map Prod.snd).getD 1 then some (i, length) else best) none

/-- An IPv6 address as it is written, in brackets. -/
def ipv6Text (gs : List Nat) : String :=
  let hex (gs : List Nat) := ":".intercalate (gs.map fun g => String.ofList (Nat.toDigits 16 g))
  let inner := match longestZeros gs with
    | none => hex gs
    | some (start, length) => hex (gs.take start) ++ "::" ++ hex (gs.drop (start + length))
  "[" ++ inner ++ "]"

/-- An IPv6 address in brackets, as it is written. -/
def bracketed? (cs : List Char) : Except UrlError String :=
  if cs.getLast? == some ']' then
    match ipv6? ((cs.drop 1).dropLast) with
    | some groups => .ok (ipv6Text groups)
    | none => .error .invalidIpv6
  else .error .invalidIpv6

/-! ### Any host -/

/-- The host of a special address. -/
def parse (cs : List Char) : Except UrlError String :=
  if cs.head? == some '[' then bracketed? cs
  else match Domain.toAscii? (percentDecode cs) with
    | none => .error .invalidDomainName
    | some name =>
      if name.isEmpty then .error .emptyHost
      else if endsInNumber name then
        match ipv4? name with
        | some n => .ok (ipv4Text n)
        | none => .error .invalidIpv4
      else .ok (String.ofList name)

/-- Whether no host may hold the character. -/
def isForbidden (c : Char) : Bool := "\x00\t\n\r #/:<>?@[\\]^|".contains c

/-- The host of any other address. -/
def parseOpaque (cs : List Char) : Except UrlError String :=
  if cs.head? == some '[' then bracketed? cs
  else if cs.any isForbidden then .error .invalidDomainCharacter
  else .ok (percentEncode isControl cs)

end TokenChain.Url.Host
