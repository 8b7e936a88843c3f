import TokenChain.Request
import TokenChain.Retry.Policy

/-! # Attempts and retries

`RetryPolicy.execute` attempts an operation until it succeeds, fails with an error that will not
pass, or the budget of retries is spent. Each attempt is bounded by the policy and by the request;
between attempts it waits as long as the policy says. Every failure that is followed by a wait is
logged, and so is the last one if there were retries. A wait that is refused or cut short ends the
execution with a timeout that names the last failure. -/

namespace TokenChain.RetryPolicy

variable {σ α : Type}

/-- The number of attempts after `spent` retries, counted in 32 bits. -/
def attemptsAfter (spent : Nat) : Nat := (spent + 1) % 4294967296

/-- What is logged before a wait. -/
def retryNotice (spent : Nat) (e : Error) (delay : Duration) : String :=
  "attempt " ++ toString (attemptsAfter spent) ++ " failed: " ++ e.message ++ "; retrying in " ++
    toString delay.wholeMillis ++ "ms"

/-- What is logged when the budget is spent. -/
def surrenderNotice (spent : Nat) (e : Error) : String :=
  "giving up after " ++ toString (attemptsAfter spent) ++ " attempts: " ++ e.message

/-- The message of a timeout between attempts. -/
def cutShortMessage (reason : String) (spent : Nat) (e : Error) : String :=
  reason ++ " after attempt " ++ toString (attemptsAfter spent) ++ ": " ++ e.message

/-- One attempt within its bounds. What happens when an attempt is begun happens even if the request
has been cancelled before. -/
def attempt (p : RetryPolicy) (r : Request) (credential : String) (begin_ : Nat → Task σ Unit)
    (operation : Nat → Task σ (Except Error α)) (spent : Nat) : Task σ (Except Error α) :=
  (begin_ spent).bind fun _ => r.within credential (some p.attemptTimeout) (operation spent)

/-- Ends with an error that is not followed by another attempt. -/
def surrender (credential : String) (spent : Nat) (e : Error) : Task σ (Except Error α) :=
  if 0 < spent && e.isRetryable then
    .note ⟨.warning, credential, surrenderNotice spent e⟩ (.done (.error e))
  else .done (.error e)

/-- Logs a failure, waits, and goes on, unless the wait is refused or cut short. -/
def backOff (p : RetryPolicy) (r : Request) (credential : String) (spent : Nat) (e : Error)
    (next : Task σ (Except Error α)) : Task σ (Except Error α) :=
  .note ⟨.warning, credential, retryNotice spent e (p.delayFor spent)⟩ <|
    (r.pause (p.delayFor spent)).bind fun
      | some reason => .done (.error (.timeout credential (cutShortMessage reason spent e)))
      | none => next

/-- Attempts an operation with `left` retries left after `spent` retries. -/
def executeFrom (p : RetryPolicy) (r : Request) (credential : String) (begin_ : Nat → Task σ Unit)
    (operation : Nat → Task σ (Except Error α)) : Nat → Nat → Task σ (Except Error α)
  | 0, spent => (p.attempt r credential begin_ operation spent).bind fun
    | .ok a => .done (.ok a)
    | .error e => surrender credential spent e
  | left + 1, spent => (p.attempt r credential begin_ operation spent).bind fun
    | .ok a => .done (.ok a)
    | .error e =>
      if e.isRetryable then
        p.backOff r credential spent e
          (executeFrom p r credential begin_ operation left (spent + 1))
      else surrender credential spent e

/-- Attempts an operation until it succeeds, fails for good, or the budget is spent. -/
def execute (p : RetryPolicy) (r : Request) (credential : String) (begin_ : Nat → Task σ Unit)
    (operation : Nat → Task σ (Except Error α)) : Task σ (Except Error α) :=
  p.executeFrom r credential begin_ operation p.maxRetries.toNat 0

/-- How often an execution waits at most, if an attempt waits no more than so often. -/
def patience (p : RetryPolicy) (waits : Nat) : Nat := (waits + 1) * p.maxRetries.toNat + waits

end TokenChain.RetryPolicy
