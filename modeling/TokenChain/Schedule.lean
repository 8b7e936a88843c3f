import TokenChain.Task

/-! # Schedules

Several tasks in one world. Jobs that can go on stand in a queue, and the first of them goes on
until it ends or has to wait; jobs whose wait is over join the queue behind the others, in the order
in which they began to wait. Work takes no time: the clock moves only when the queue is empty, and
then to the first instant, in whole milliseconds, at which the wait of some job is over. A
cancellation takes place when all else that is due at its instant has been done.

A job may be aborted at a given instant. What it could still do at that instant it does before. -/

namespace TokenChain

/-- How a job ended. -/
inductive Ending (α : Type) where
  | value (a : α)
  | crashed
  | aborted
deriving Repr, Inhabited

/-- A task that waits, with the instant at which it is aborted. -/
structure Job (σ α : Type) where
  id : Nat
  abortAt : Option Instant
  wait : Wait σ
  resume : Wake → Task σ α

namespace Job

variable {σ α : Type}

/-- A job that has not begun; it waits for nothing. -/
def ofTask (id : Nat) (abortAt : Option Instant) (task : Task σ α) : Job σ α :=
  ⟨id, abortAt, { ready := fun _ => true }, fun _ => task⟩

/-- Whether the job is to be aborted by now. -/
def isOver (job : Job σ α) (now : Instant) : Bool := job.abortAt.any fun t => decide (t ≤ now)

/-- Whether the job has something to do. -/
def isAwake (job : Job σ α) (world : World σ) : Bool :=
  (job.wait.wake? world).isSome || job.isOver world.now

/-- The instants at which the passing of time alone wakes the job. -/
def alarms (job : Job σ α) (world : World σ) : List Instant :=
  job.wait.alarms world ++ job.abortAt.toList

end Job

/-- A job that is over: its number, its ending and the time. -/
structure Finish (α : Type) where
  id : Nat
  ending : Ending α
  time : Instant
deriving Repr, Inhabited

/-- Jobs in one world: those that can go on, those that wait, and those that are over. -/
structure Schedule (σ α : Type) where
  world : World σ
  queue : List (Job σ α) := []
  blocked : List (Job σ α) := []
  finished : List (Finish α) := []

namespace Schedule

variable {σ α : Type}

/-- Adds a job behind the others. -/
def add (s : Schedule σ α) (job : Job σ α) : Schedule σ α := { s with queue := s.queue ++ [job] }

/-- Ends a job. -/
def finish (s : Schedule σ α) (job : Job σ α) (ending : Ending α) : Schedule σ α :=
  { s with finished := s.finished ++ [⟨job.id, ending, s.world.now⟩] }

/-- Drops a job at its wait. -/
def drop (s : Schedule σ α) (job : Job σ α) : Schedule σ α :=
  { s with world := { s.world with state := job.wait.abandon s.world.state } }

/-- Lets a job wait on, or aborts it. -/
def park (s : Schedule σ α) (job : Job σ α) : Schedule σ α :=
  if job.isOver s.world.now then (s.drop job).finish job .aborted
  else { s with blocked := s.blocked ++ [job] }

/-- Lets a job go on as far as it can. -/
def resume (s : Schedule σ α) (job : Job σ α) : Schedule σ α :=
  match job.wait.wake? s.world with
  | none => s.park job
  | some x =>
    let (world, pause) := (job.resume x).run s.world
    let s := { s with world }
    match pause with
    | .done a => s.finish job (.value a)
    | .crashed => s.finish job .crashed
    | .waiting w k => s.park { job with wait := w, resume := k }

/-- Moves the jobs that have something to do into the queue. -/
def rouse (s : Schedule σ α) : Schedule σ α :=
  { s with
    queue := s.queue ++ s.blocked.filter fun job => job.isAwake s.world
    blocked := s.blocked.filter fun job => !job.isAwake s.world }

/-- The first whole millisecond at which the wait of some job is over by itself. -/
def nextAlarm (s : Schedule σ α) : Option Instant :=
  ((s.blocked.flatMap fun job => job.alarms s.world).foldl
    (fun first t => Instant.earliest first (some t)) none).map Instant.ceilMilli

/-- Moves the clock. -/
def setClock (s : Schedule σ α) (t : Instant) : Schedule σ α :=
  ({ s with world := s.world.advance t }).rouse

/-- Lets the cancellations that are due take place. -/
def cancelDue (s : Schedule σ α) : Schedule σ α := ({ s with world := s.world.cancelDue }).rouse

/-- Lets the jobs in the queue go on, and those that they wake, for so many turns at most. -/
def drain : Nat → Schedule σ α → Schedule σ α
  | 0, s => s
  | turns + 1, s =>
    match s.queue with
    | [] => s
    | job :: rest => drain turns (({ s with queue := rest }).resume job).rouse

/-- Lets all jobs go on until no job is left, or none will ever wake, or the clock would pass the
given instant; for so many turns at most. -/
def runTo (until? : Option Instant) : Nat → Schedule σ α → Schedule σ α
  | 0, s => s
  | turns + 1, s =>
    match s.queue with
    | job :: rest => runTo until? turns (({ s with queue := rest }).resume job).rouse
    | [] =>
      let s := s.cancelDue
      if s.queue.isEmpty then
        match s.nextAlarm with
        | none => s
        | some t =>
          if until?.all fun last => decide (t ≤ last) then runTo until? turns (s.setClock t) else s
      else runTo until? turns s

end Schedule

end TokenChain
