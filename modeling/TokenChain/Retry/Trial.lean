import TokenChain.Retry.Execution
import TokenChain.Schedule

/-! # Trials of a retry policy

An execution on its own, with attempts that go as a list says; the last item of the list goes for
all attempts behind it. A trial tells when attempts were begun, how the execution ended, and what
was logged. -/

namespace TokenChain

/-- How an attempt goes: it ends after some time, or never. -/
inductive Attempt (α : Type) where
  | ends (after : Duration) (result : Except Error α)
  | hangs
deriving Inhabited

namespace Attempt

variable {σ α : Type}

/-- The work of an attempt. -/
def task : Attempt α → Task σ (Except Error α)
  | hangs => .hang
  | ends after result =>
    if after.nanos = 0 then .done result
    else .look fun m => (Task.sleepUntil (m.now + after)).bind fun _ => .done result

/-- The item of a list for attempt `n`. -/
def nth (attempts : List (Attempt α)) (n : Nat) : Attempt α :=
  (attempts[n]?.or attempts.getLast?).getD .hangs

end Attempt

/-- What a trial tells. -/
structure RetryTrial (α : Type) where
  result : Option (Ending (Except Error α))
  /-- The attempts that were begun, with the instants. -/
  starts : List (Nat × Instant)
  stop : Instant
  log : Log

/-- The state of a trial: the attempts that have been begun. -/
abbrev Starts := List (Nat × Instant)

namespace RetryPolicy

variable {α : Type}

/-- Takes down that an attempt is begun. -/
def recordStart (n : Nat) : Task Starts Unit :=
  .look fun m => Task.modify (· ++ [(n, m.now)])

/-- Tries out a policy on a request in a world, which says when the request is cancelled. -/
def tryOut (p : RetryPolicy) (world : World Starts) (r : Request) (credential : String)
    (attempts : List (Attempt α)) : RetryTrial α :=
  let task := p.execute r credential recordStart fun n => (Attempt.nth attempts n).task
  let start : Schedule Starts (Except Error α) := { world, queue := [.ofTask 0 none task] }
  let stop := start.runTo none (2 * p.patience 1 + 4)
  ⟨stop.finished.head?.map Finish.ending, stop.world.state, stop.world.now, stop.world.log⟩

end RetryPolicy

end TokenChain
