/-! # Instants and durations

Time is counted in whole nanoseconds. An `Instant` counts from 1970-01-01T00:00:00Z and may lie
before it; a `Duration` is a length and never negative. One clock serves deadlines, pauses and the
expiry of tokens alike, so the two types are the only measures of time in the library.

Timers ring at whole milliseconds: a timer set for `t` rings at `t.ceilMilli`, the first whole
millisecond at or after `t` (`le_ceilMilli`, `ceilMilli_lt`). -/

namespace TokenChain

/-- A point in time: nanoseconds since 1970-01-01T00:00:00Z. -/
structure Instant where
  nanos : Int
deriving DecidableEq, Repr, Inhabited

/-- A length of time in nanoseconds. -/
structure Duration where
  nanos : Nat
deriving DecidableEq, Repr, Inhabited

namespace Duration

instance : LE Duration := ⟨fun a b => a.nanos ≤ b.nanos⟩
instance : LT Duration := ⟨fun a b => a.nanos < b.nanos⟩

@[simp] theorem le_iff (a b : Duration) : a ≤ b ↔ a.nanos ≤ b.nanos := Iff.rfl
@[simp] theorem lt_iff (a b : Duration) : a < b ↔ a.nanos < b.nanos := Iff.rfl

instance (a b : Duration) : Decidable (a ≤ b) := decidable_of_iff _ (le_iff a b).symm
instance (a b : Duration) : Decidable (a < b) := decidable_of_iff _ (lt_iff a b).symm

instance : Min Duration := ⟨fun a b => ⟨min a.nanos b.nanos⟩⟩
instance : Max Duration := ⟨fun a b => ⟨max a.nanos b.nanos⟩⟩

/-- A duration of `n` milliseconds. -/
def ofMillis (n : Nat) : Duration := ⟨n * 1000000⟩

/-- A duration of `n` seconds. -/
def ofSeconds (n : Nat) : Duration := ⟨n * 1000000000⟩

/-- The whole milliseconds of a duration; the rest is dropped. -/
def wholeMillis (d : Duration) : Nat := d.nanos / 1000000

/-- The longest duration that a setting can hold: the seconds fill 64 bits, the nanoseconds are
the last ones below a second. -/
def longest : Duration := ⟨18446744073709551615999999999⟩

/-- The duration `n` times as long, unless it is longer than `longest`. -/
def times? (d : Duration) (n : Nat) : Option Duration :=
  if d.nanos * n ≤ longest.nanos then some ⟨d.nanos * n⟩ else none

end Duration

namespace Instant

instance : LE Instant := ⟨fun a b => a.nanos ≤ b.nanos⟩
instance : LT Instant := ⟨fun a b => a.nanos < b.nanos⟩

@[simp] theorem le_iff (a b : Instant) : a ≤ b ↔ a.nanos ≤ b.nanos := Iff.rfl
@[simp] theorem lt_iff (a b : Instant) : a < b ↔ a.nanos < b.nanos := Iff.rfl

instance (a b : Instant) : Decidable (a ≤ b) := decidable_of_iff _ (le_iff a b).symm
instance (a b : Instant) : Decidable (a < b) := decidable_of_iff _ (lt_iff a b).symm

instance : Min Instant := ⟨fun a b => ⟨min a.nanos b.nanos⟩⟩

/-- The instant `d` after `t`. -/
instance : HAdd Instant Duration Instant := ⟨fun t d => ⟨t.nanos + d.nanos⟩⟩

@[simp] theorem add_nanos (t : Instant) (d : Duration) : (t + d).nanos = t.nanos + d.nanos := rfl

/-- The last second that clocks can show. -/
def lastSecond : Int := 9223372036854775807

/-- The instant `d` after `t`, unless it lies beyond what clocks can show. -/
def after? (t : Instant) (d : Duration) : Option Instant :=
  if (t + d).nanos / 1000000000 ≤ lastSecond then some (t + d) else none

theorem after?_eq_some {t u : Instant} {d : Duration} (h : t.after? d = some u) : u = t + d := by
  unfold after? at h
  split at h <;> simp_all

/-- When a pause that leads beyond what clocks can show is over all the same: after thirty years. -/
def farAhead (t : Instant) : Instant := t + Duration.ofSeconds (86400 * 365 * 30)

/-- The time from `start` to `t`, zero if `t` does not lie after it. -/
def since (t start : Instant) : Duration := ⟨(t.nanos - start.nanos).toNat⟩

/-- The first whole millisecond at or after `t`. -/
def ceilMilli (t : Instant) : Instant := ⟨-(-t.nanos / 1000000) * 1000000⟩

theorem le_ceilMilli (t : Instant) : t ≤ t.ceilMilli := by
  simp only [le_iff, ceilMilli]; omega

theorem ceilMilli_lt (t : Instant) : t.ceilMilli.nanos < t.nanos + 1000000 := by
  simp only [ceilMilli]; omega

/-- The earlier of two bounds, either of which may be missing. -/
def earliest : Option Instant → Option Instant → Option Instant
  | some a, some b => some (min a b)
  | some a, none => some a
  | none, b => b

end Instant

end TokenChain
