import TokenChain.Time.Civil

/-! # RFC 3339

Timestamps as text. Writing is always in UTC, with 0, 3, 6 or 9 digits behind the second, the fewest
that are exact, and with a sign in front of a year that does not have four digits. Reading takes any
offset whose hours are below 24 and whose minutes are below 60, a small `t`, a `z` or a blank in
place of the `T`, and as many digits behind the second as are written, of which nine count. -/

namespace TokenChain.Rfc3339

open TokenChain.Text

/-! ### Writing -/

/-- A year: four digits, or a sign and as many as it takes. -/
def year (y : Int) : List Char :=
  if 0 ≤ y && y ≤ 9999 then Digits.fixed 4 y.toNat
  else
    let n := y.natAbs
    let width := if n < 10000 then 4 else if n < 100000 then 5 else 6
    (if y < 0 then '-' else '+') :: Digits.fixed width n

/-- The digits behind the second, with their point. -/
def fraction (nanos : Nat) : List Char :=
  if nanos = 0 then []
  else if nanos % 1000000 = 0 then '.' :: Digits.fixed 3 (nanos / 1000000)
  else if nanos % 1000 = 0 then '.' :: Digits.fixed 6 (nanos / 1000)
  else '.' :: Digits.fixed 9 nanos

/-- Date, `T` and time of day down to the second. -/
def toSecond (w : WallTime) : List Char :=
  let second := w.second % 60 + w.nanos / 1000000000
  year w.date.year ++ '-' :: Digits.fixed 2 w.date.month ++ '-' :: Digits.fixed 2 w.date.day
    ++ 'T' :: Digits.fixed 2 (w.second / 3600) ++ ':' :: Digits.fixed 2 (w.second / 60 % 60)
    ++ ':' :: Digits.fixed 2 second

/-- A timestamp with the given sign for UTC behind it. -/
def writeWith (utc : String) (t : Timestamp) : String :=
  let w := WallTime.ofTimestamp t
  String.ofList (toSecond w ++ fraction (w.nanos % 1000000000)) ++ utc

/-- A timestamp with the offset of UTC in digits. -/
def write (t : Timestamp) : String := writeWith "+00:00" t

/-- A timestamp with `Z` for UTC. -/
def writeZulu (t : Timestamp) : String := writeWith "Z" t

/-- A timestamp with `Z` for UTC and always three digits behind the second, the rest dropped. -/
def writeMillis (t : Timestamp) : String :=
  let w := WallTime.ofTimestamp t
  String.ofList (toSecond w ++ '.' :: Digits.fixed 3 (w.nanos % 1000000000 / 1000000)) ++ "Z"

/-! ### Reading -/

/-- A number of exactly `w` digits. -/
def field (w : Nat) (cs : List Char) : Option (Nat × List Char) :=
  let (ds, rest) := Digits.run w cs
  if ds.length = w then some (Digits.number ds, rest) else none

/-- One given character. -/
def expect (c : Char) : List Char → Option (List Char)
  | d :: cs => if d = c then some cs else none
  | [] => none

/-- The digits behind a decimal point, one or more, as nanoseconds. -/
def nanosOf (cs : List Char) : Option (Nat × List Char) :=
  let (ds, rest) := Digits.run 9 cs
  if ds.isEmpty then none
  else some (Digits.number ds * Nat.pow 10 (9 - ds.length), rest.dropWhile Digits.isDigit)

/-- The digits behind the second, if there is a point. -/
def fraction? : List Char → Option (Nat × List Char)
  | '.' :: cs => nanosOf cs
  | cs => some (0, cs)

/-- An offset from UTC in seconds. -/
def offset? : List Char → Option (Int × List Char)
  | 'Z' :: cs | 'z' :: cs => some (0, cs)
  | c :: cs => do
    let sign : Int ← if c = '+' then some 1 else if c = '-' || c = '\u2212' then some (-1) else none
    let (hours, cs) ← field 2 cs
    let cs ← expect ':' cs
    let (minutes, cs) ← field 2 cs
    if hours < 24 && minutes <
      60 then some (sign * (hours * 3600 + minutes * 60 : Nat), cs) else none
  | [] => none

/-- Reads a timestamp that fills the whole text. -/
def read? (s : String) : Option Timestamp := do
  let (year, cs) ← field 4 s.toList
  let cs ← expect '-' cs
  let (month, cs) ← field 2 cs
  let cs ← expect '-' cs
  let (day, cs) ← field 2 cs
  let cs ← expect 'T' cs <|> expect 't' cs <|> expect ' ' cs
  let (hour, cs) ← field 2 cs
  let cs ← expect ':' cs
  let (minute, cs) ← field 2 cs
  let cs ← expect ':' cs
  let (second, cs) ← field 2 cs
  let (nanos, cs) ← fraction? cs
  let (offset, cs) ← offset? cs
  let wall ← WallTime.ofFields? ⟨year, month, day⟩ hour minute second nanos
  if cs.isEmpty then some (wall.timestampAt offset) else none

end TokenChain.Rfc3339
