import TokenChain.Task
import TokenChain.Scope

/-! # Requests

A request asks for a token with some scopes. It may carry a deadline, and it can be cancelled. All
waiting on its behalf goes through `Request.within`, which gives up at the request's deadline, at a
limit of the operation, or when the request is cancelled, or through `Request.pause`, which waits
between attempts and gives up at once if the deadline would come first. -/

namespace TokenChain

/-- A request for a token. -/
structure Request where
  scopes : List String
  deadline : Option Instant
  cancel : CancelKey
deriving Repr, Inhabited

namespace Task

variable {σ α : Type}

/-- Gives up a task when it is cancelled or a deadline comes while it waits, and ends with another
value then. What the task was waiting for is undone. -/
def giveUp (key : CancelKey) (deadline : Option Instant) (cancelled expired : α) :
    Task σ α → Task σ α
  | done a => done a
  | crash => crash
  | look k => look fun m => giveUp key deadline cancelled expired (k m)
  | note n k => note n (giveUp key deadline cancelled expired k)
  | step f k => step f fun s => giveUp key deadline cancelled expired (k s)
  | wait w k => wait { w with cancel := some key, deadline } fun
    | .ready => giveUp key deadline cancelled expired (k .ready)
    | .cancelled => step w.abandon fun _ => done cancelled
    | .expired => step w.abandon fun _ => done expired

end Task

namespace Request

variable {σ α : Type}

/-- A request with a deadline so far from now; there is none if no clock can show the deadline. -/
def ofTimeout? (scopes : List String) (timeout : Option Duration) (now : Instant)
    (cancel : CancelKey) : Option Request :=
  match timeout with
  | none => some ⟨scopes, none, cancel⟩
  | some timeout => (now.after? timeout).map fun deadline => ⟨scopes, some deadline, cancel⟩

/-- The message of a cancelled request. -/
def cancelledMessage : String := "request was cancelled"

/-- Whether the request's own deadline comes before the end of an operation's limit. -/
def deadlineFirst (r : Request) (limitEnd : Instant) : Bool :=
  r.deadline.any fun d => decide (d < limitEnd)

/-- The message of an operation that its limit or the request's deadline has ended. -/
def expiredMessage (r : Request) (limit : Option Duration) (now : Instant) : String :=
  match limit with
  | some limit =>
    if r.deadlineFirst (now + limit) then "request deadline exceeded"
    else "no response within " ++ toString limit.wholeMillis ++ "ms"
  | none => "request deadline exceeded"

/-- When a limit that begins now ends; unknown if that lies beyond what clocks can show. -/
def limitEnd? (now : Instant) : Option Duration → Option (Option Instant)
  | none => some none
  | some limit => (now.after? limit).map some

/-- Works on a request until its deadline or the end of a limit comes, or the request is cancelled.
Nothing is begun for a request that has been cancelled before. A limit whose end no clock can show
breaks the work down. -/
def within (r : Request) (credential : String) (limit : Option Duration)
    (work : Task σ (Except Error α)) : Task σ (Except Error α) :=
  .look fun m =>
    if m.cancelled r.cancel then .done (.error (.timeout credential cancelledMessage))
    else match limitEnd? m.now limit with
      | none => .crash
      | some limitEnd =>
        work.giveUp r.cancel (Instant.earliest r.deadline limitEnd)
          (.error (.timeout credential cancelledMessage))
          (.error (.timeout credential (r.expiredMessage limit m.now)))

/-- What is left of the time for a request. -/
def remaining (r : Request) (now : Instant) : Option Duration := r.deadline.map (·.since now)

/-- Why a pause is refused: the deadline would come first. -/
def refusal (delay : Duration) : String :=
  "request deadline expires before the next retry (" ++ toString delay.wholeMillis ++ "ms backoff)"

/-- Waits before another attempt. The value is the reason for not waiting to the end, if there is
one: the deadline would come first, or the request was cancelled. -/
def pause (r : Request) (delay : Duration) : Task σ (Option String) :=
  .look fun m =>
    if (r.remaining m.now).any fun left => decide (left < delay) then
      .done (some (refusal delay))
    else .wait
        { due := some ((m.now.after? delay).getD m.now.farAhead), cancel := some r.cancel } fun
      | .cancelled => .done (some cancelledMessage)
      | _ => .done none

/-- The resource of a request with a single scope. -/
def resource (r : Request) (credential : String) : Except Error String :=
  Scope.resource credential r.scopes

end Request

end TokenChain
