import TokenChain.Time
import TokenChain.Error

/-! # Retry policies

How often an operation is attempted again after a transient error, and how long to wait before. The
delay before retry `n + 1` is the base delay doubled `n` times, but never longer than the longest
delay. Doubling works with a factor of 32 bits: from the 32nd doubling on the factor is the greatest
that fits, and a product that is too long for a duration counts as the longest delay.

Attempts are counted in 32 bits as well. -/

namespace TokenChain

/-- A budget of retries for transient errors. -/
structure RetryPolicy where
  maxRetries : UInt32
  baseDelay : Duration
  maxDelay : Duration
  /-- The bound on each attempt. -/
  attemptTimeout : Duration
deriving DecidableEq, Repr, Inhabited

namespace RetryPolicy

/-- Three retries, from 0.8 up to 8 seconds apart, with 30 seconds for each attempt. -/
def standard : RetryPolicy :=
  ⟨3, .ofMillis 800, .ofSeconds 8, .ofSeconds 30⟩

/-- A policy with the given retries and delays; the longest delay is at least the base delay. -/
def make (maxRetries : UInt32) (base longest : Duration) : RetryPolicy :=
  { standard with maxRetries, baseDelay := base, maxDelay := max longest base }

/-- A single attempt. -/
def noRetry : RetryPolicy := { standard with maxRetries := 0 }

/-- The factor of the base delay before retry `n + 1`. -/
def factor (n : Nat) : Nat := if n < 32 then Nat.pow 2 n else 4294967295

/-- The delay before retry `n + 1`. -/
def delayFor (p : RetryPolicy) (n : Nat) : Duration :=
  min ((p.baseDelay.times? (factor n)).getD p.maxDelay) p.maxDelay

/-- Whether to attempt again after `spent` retries and the given error. -/
def shouldRetry (p : RetryPolicy) (spent : Nat) (e : Error) : Bool :=
  decide (spent < p.maxRetries.toNat) && e.isRetryable

/-- The first `n` delays of the schedule, which ends with the budget. -/
def delays (p : RetryPolicy) (n : Nat) : List Duration :=
  (List.range (min n p.maxRetries.toNat)).map p.delayFor

end RetryPolicy

end TokenChain
