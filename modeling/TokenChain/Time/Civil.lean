import TokenChain.Time.Timestamp
import TokenChain.Text.Digits

/-! # The civil calendar

Dates of the Gregorian calendar, extended to all years in both directions, and their numbers: day 0
is 1970-01-01. `Date.number` adds the days before the year, the days before the month and the day of
the month; `Date.ofNumber` estimates the year from the mean length of a year and corrects the
estimate.

A `WallTime` is a date and a time of day, as a clock on a wall shows it. Which instant it names
depends on the zone of the wall; `WallTime.utcSecond` reads it in UTC. -/

namespace TokenChain

/-- A date; the year 0 is the year before the year 1. -/
structure Date where
  year : Int
  month : Nat
  day : Nat
deriving DecidableEq, Repr, Inhabited

namespace Date

/-- Whether a year has a 29th of February. -/
def isLeap (y : Int) : Bool := y % 4 == 0 && (y % 100 != 0 || y % 400 == 0)

/-- The number of 1 January of a year. -/
def yearStart (y : Int) : Int := 365 * y + (y - 1) / 4 - (y - 1) / 100 + (y - 1) / 400 - 719527

/-- The days of a year before a month. -/
def monthStart (leap : Bool) (month : Nat) : Nat :=
  let february := if leap then 29 else 28
  match month with
  | 0 | 1 => 0
  | 2 => 31
  | 3 => 31 + february
  | 4 => 62 + february
  | 5 => 92 + february
  | 6 => 123 + february
  | 7 => 153 + february
  | 8 => 184 + february
  | 9 => 215 + february
  | 10 => 245 + february
  | 11 => 276 + february
  | 12 => 306 + february
  | _ => 337 + february

/-- The days of a month. -/
def monthLength (leap : Bool) (month : Nat) : Nat :=
  monthStart leap (month + 1) - monthStart leap month

/-- Whether the calendar has the date. -/
def isValid (d : Date) : Bool :=
  1 ≤ d.month && d.month ≤ 12 && 1 ≤ d.day && d.day ≤ monthLength (isLeap d.year) d.month

/-- The days from 1970-01-01 to the date. -/
def number (d : Date) : Int :=
  yearStart d.year + monthStart (isLeap d.year) d.month + (d.day : Int) - 1

/-- The year of a day. -/
def yearOf (n : Int) : Int :=
  let y := 1970 + 400 * n / 146097
  if n < yearStart y then y - 1 else if yearStart (y + 1) ≤ n then y + 1 else y

/-- The month of a day of the year: the last one that has begun. -/
def monthOf (leap : Bool) (dayOfYear : Nat) : Nat :=
  ([12, 11, 10, 9, 8, 7, 6, 5, 4, 3, 2].find? fun m => monthStart leap m ≤ dayOfYear).getD 1

/-- The date of a day. -/
def ofNumber (n : Int) : Date :=
  let year := yearOf n
  let dayOfYear := (n - yearStart year).toNat
  let month := monthOf (isLeap year) dayOfYear
  ⟨year, month, dayOfYear - monthStart (isLeap year) month + 1⟩

end Date

/-- A date and a time of day: seconds since midnight and the nanoseconds of that second, from 10^9
up within a leap second. -/
structure WallTime where
  date : Date
  second : Nat
  nanos : Nat
deriving DecidableEq, Repr, Inhabited

namespace WallTime

/-- The seconds since 1970-01-01T00:00:00Z at which a wall in UTC shows the time. -/
def utcSecond (w : WallTime) : Int := w.date.number * 86400 + w.second

/-- The time that a wall in UTC shows. -/
def ofTimestamp (t : Timestamp) : WallTime :=
  ⟨Date.ofNumber (t.seconds / 86400), (t.seconds % 86400).toNat, t.nanos⟩

/-- The timestamp at which a wall shows the time that is `offset` seconds ahead of UTC. -/
def timestampAt (w : WallTime) (offset : Int) : Timestamp := ⟨w.utcSecond - offset, w.nanos⟩

/-- The date, the time of day and the nanoseconds of a wall time out of its fields, if the calendar
and the clock have them; second 60 is the leap second behind second 59. -/
def ofFields? (date : Date) (hour minute second nanos : Nat) : Option WallTime :=
  if date.isValid && hour < 24 && minute < 60 && second ≤ 60 && nanos < 1000000000
      && Timestamp.inCalendar (date.number * 86400) then
    if second = 60 then some ⟨date, hour * 3600 + minute * 60 + 59, 1000000000 + nanos⟩
    else some ⟨date, hour * 3600 + minute * 60 + second, nanos⟩
  else none

end WallTime

end TokenChain
