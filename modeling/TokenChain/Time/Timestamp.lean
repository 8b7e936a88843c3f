import TokenChain.Time

/-! # Timestamps

The expiry of a token is a `Timestamp`: whole seconds since 1970-01-01T00:00:00Z and the
nanoseconds of that second. The nanoseconds run up to two seconds, because a text may name the
sixtieth second of a minute: such a leap second belongs to the second before it and lies after all
of that second's nanoseconds, so timestamps are ordered by seconds first and nanoseconds second.

The calendar has an end on both sides; `Timestamp.ofSeconds?` and `Timestamp.shifted?` refuse what
lies beyond. A timestamp made from an instant is reached exactly when the clock shows that instant
or a later one (`reachedAt_ofInstant`). -/

namespace TokenChain

/-- A point of the calendar: seconds since 1970-01-01T00:00:00Z and the nanoseconds of that second,
from 10^9 up within a leap second. -/
structure Timestamp where
  seconds : Int
  nanos : Nat
deriving DecidableEq, Repr, Inhabited

namespace Timestamp

/-- The first second of the calendar, -262143-01-01T00:00:00Z. -/
def firstSecond : Int := -8334601228800

/-- The last second of the calendar, +262142-12-31T23:59:59Z. -/
def lastSecond : Int := 8210266876799

/-- Whether a second lies within the calendar. -/
def inCalendar (s : Int) : Bool := firstSecond ≤ s && s ≤ lastSecond

/-- An instant as a timestamp. -/
def ofInstant (t : Instant) : Timestamp := ⟨t.nanos / 1000000000, (t.nanos % 1000000000).toNat⟩

/-- A whole second of the calendar. -/
def ofSeconds? (s : Int) : Option Timestamp :=
  if inCalendar s then some ⟨s, 0⟩ else none

/-- The instant of a timestamp; a leap second runs into the second after it. -/
def toInstant (t : Timestamp) : Instant := ⟨t.seconds * 1000000000 + t.nanos⟩

/-- The instant that lies `offset` nanoseconds after `t`, or before it if `offset` is negative,
unless it lies beyond the calendar. -/
def shifted? (t : Instant) (offset : Int) : Option Timestamp :=
  if inCalendar ((t.nanos + offset) / 1000000000) then some (ofInstant ⟨t.nanos + offset⟩) else none

/-- Whether the clock has come to the timestamp. -/
def reachedAt (t : Timestamp) (now : Instant) : Bool :=
  let clock := ofInstant now
  t.seconds < clock.seconds || (t.seconds == clock.seconds && t.nanos ≤ clock.nanos)

theorem toInstant_ofInstant (t : Instant) : (ofInstant t).toInstant = t := by
  cases t
  simp only [ofInstant, toInstant, Instant.mk.injEq]
  omega

theorem reachedAt_ofInstant (t now : Instant) : (ofInstant t).reachedAt now = decide (t ≤ now) := by
  unfold reachedAt ofInstant
  rw [Bool.eq_iff_iff]
  simp only [Bool.or_eq_true, Bool.and_eq_true, decide_eq_true_eq, beq_iff_eq, Instant.le_iff]
  omega

end Timestamp

end TokenChain
