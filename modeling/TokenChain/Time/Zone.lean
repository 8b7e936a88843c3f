import TokenChain.Time.Rfc3339
import TokenChain.Text.Blank

/-! # Local time

A `Zone` says how far the walls of a place are ahead of UTC at each moment: always by the same
number of seconds, or by an hour more in summer. `Zone.timestamp?` finds the moment at which a wall
shows a given time. Where the clocks go forward the times that are skipped name no moment; where
they go back a time that is shown twice names the earlier moment.

`LocalText.read?` reads the wall times that the command line tools print, such as `2030-01-31
12:34:56.000000`. -/

namespace TokenChain

/-- How the walls of a place are set. -/
inductive Zone where
  /-- Always `offset` seconds ahead of UTC. -/
  | fixed (offset : Int)
  /-- `offset` seconds ahead of UTC and an hour more from 02:00 on the second Sunday of March to
  02:00 on the first Sunday of November. -/
  | summer (offset : Int)
deriving DecidableEq, Repr, Inhabited

namespace Zone

/-- The zone that a rule describes, of three rules: UTC, the time of India, and that of the east of
North America. -/
def ofRule? : String → Option Zone
  | "UTC0" => some (.fixed 0)
  | "IST-5:30" => some (.fixed 19800)
  | "EST5EDT,M3.2.0,M11.1.0" => some (.summer (-18000))
  | _ => none

/-- The number of the `n`-th Sunday of a month; day 0 was a Thursday. -/
def sunday (year : Int) (month n : Nat) : Int :=
  let first := Date.number ⟨year, month, 1⟩
  first + (3 - first) % 7 + 7 * ((n : Int) - 1)

/-- The local second at which summer begins, as standard time counts. -/
def summerStart (year : Int) : Int := sunday year 3 2 * 86400 + 7200

/-- The local second at which summer ends, as standard time counts. -/
def summerEnd (year : Int) : Int := sunday year 11 1 * 86400 + 3600

/-- The seconds that the walls are ahead of UTC when they show the given local second; nothing for a
local second that is skipped. The second at which the clocks go forward still counts as standard
time. -/
def offset? (zone : Zone) (year local_ : Int) : Option Int :=
  match zone with
  | .fixed offset => some offset
  | .summer offset =>
    if local_ ≤ summerStart year then some offset
    else if local_ < summerStart year + 3600 then none
    else if local_ < summerEnd year + 3600 then some (offset + 3600)
    else some offset

/-- The earliest moment of the calendar at which a wall of the zone shows the time. -/
def timestamp? (zone : Zone) (w : WallTime) : Option Timestamp :=
  ((zone.offset? w.date.year w.utcSecond).map w.timestampAt).filter
    fun t => Timestamp.inCalendar t.seconds

/-- The seconds that the walls are ahead of UTC at a second of UTC. -/
def offsetAt (zone : Zone) (second : Int) : Int :=
  match zone with
  | .fixed offset => offset
  | .summer offset =>
    let standard := second + offset
    let year := Date.yearOf (standard / 86400)
    if summerStart year ≤ standard && standard < summerEnd year then offset + 3600 else offset

/-- The time that a wall of the zone shows. -/
def wallTime (zone : Zone) (t : Timestamp) : WallTime :=
  WallTime.ofTimestamp ⟨t.seconds + zone.offsetAt t.seconds, t.nanos⟩

end Zone

namespace LocalText

open TokenChain.Text TokenChain.Rfc3339

/-- A number of at most `max` digits behind any white space. -/
def number? (max : Nat) (cs : List Char) : Option (Nat × List Char) :=
  let (ds, rest) := Digits.run max (trimStart cs)
  if ds.isEmpty then none else some (Digits.number ds, rest)

/-- A year: up to four digits, or a sign and any number of digits. -/
def year? (cs : List Char) : Option (Int × List Char) :=
  match trimStart cs with
  | '-' :: cs => if cs.head?.any Digits.isDigit
      then (number? cs.length cs).map fun (n, rest) => (-(n : Int), rest) else none
  | '+' :: cs => if cs.head?.any Digits.isDigit
      then (number? cs.length cs).map fun (n, rest) => ((n : Int), rest) else none
  | cs => (number? 4 cs).map fun (n, rest) => ((n : Int), rest)

/-- Reads a wall time that fills the whole text. -/
def read? (cs : List Char) : Option WallTime := do
  let (year, cs) ← year? cs
  let cs ← expect '-' cs
  let (month, cs) ← number? 2 cs
  let cs ← expect '-' cs
  let (day, cs) ← number? 2 cs
  let (hour, cs) ← number? 2 cs
  let cs ← expect ':' cs
  let (minute, cs) ← number? 2 cs
  let cs ← expect ':' cs
  let (second, cs) ← number? 2 cs
  let (nanos, cs) ← fraction? cs
  if cs.isEmpty then WallTime.ofFields? ⟨year, month, day⟩ hour minute second nanos else none

end LocalText

end TokenChain
