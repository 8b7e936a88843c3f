import TokenChain.Probe.Gate
import TokenChain.Schedule

/-! # Trials of a probe gate

Callers at one gate, step by step. Each caller consults the gate in a job of its own; who has been
let through holds an admission under a name, and an admission to the probe is settled or dropped
later. After every step all jobs go on as far as they can. -/

namespace TokenChain

/-- What can be done at a gate. -/
inductive GateStep where
  /-- A caller comes to the gate, and has been cancelled or will be; a caller without either can be
  cancelled later. -/
  | arrive (name credential : String) (timeout : Option Duration) (cancelled : Bool)
      (cancelAfter : Option Duration)
  | succeed (name : String)
  | fail (name reason : String)
  | drop (name : String)
  | cancel (name : String)
  | abort (name : String)
  | wait (time : Duration)
  | look
  | policy (name : String)
deriving Repr, Inhabited

/-- What a step is answered with. -/
inductive GateReply where
  | nothing
  | yes (value : Bool)
  | policy (p : RetryPolicy)
deriving Repr, Inhabited

/-- A caller who has left the gate, with the retries that the admission allows. -/
structure Leaving where
  name : String
  result : Except Error Admission
  maxRetries : UInt32
  time : Instant

/-- A report on a step. -/
structure GateReport where
  reply : GateReply
  state : ProbeState
  done : List Leaving

/-- A gate with its callers. -/
structure GateTrial where
  base : RetryPolicy
  schedule : Schedule ProbeState (Except Error Admission)
  /-- The callers by the numbers of their jobs. -/
  names : List (Nat × String)
  /-- The admissions that are held. -/
  held : List (String × Admission)
  /-- The callers that can be cancelled. -/
  cancellable : List (String × CancelKey)

namespace GateTrial

/-- A gate to which nobody has come yet. -/
def initial (base : RetryPolicy) (now : Instant) : GateTrial :=
  { base, schedule := { world := .initial now (.ofCapacity 1) .untested }
    names := [], held := [], cancellable := [] }

/-- The time. -/
def now (t : GateTrial) : Instant := t.schedule.world.now

/-- Changes the state of the gate. -/
def settle (t : GateTrial) (outcome : ProbeState) : GateTrial :=
  let world := t.schedule.world
  { t with schedule := { t.schedule with
      world := { world with state := world.state.settle outcome } }.rouse }

/-- The admission that is held under a name. -/
def admission? (t : GateTrial) (name : String) : Option Admission := t.held.lookup name

/-- Nothing is held under a name any more. -/
def release (t : GateTrial) (name : String) : GateTrial :=
  { t with held := t.held.filter fun h => h.1 != name }

/-- Drops what is held under a name; a probe that is dropped is abandoned. -/
def discard (t : GateTrial) (name : String) : GateTrial :=
  match t.admission? name with
  | some .probe => (t.release name).settle .abandoned
  | _ => t.release name

/-- How many turns the jobs take at most. -/
def turns (t : GateTrial) : Nat := 5 * t.names.length + 4

/-- The number of the job of the caller who last came under a name. -/
def jobOf? (t : GateTrial) (name : String) : Option Nat :=
  (t.names.reverse.find? fun n => n.2 == name).map Prod.fst

/-- A caller comes to the gate. There is no such caller if the deadline lies too far ahead. -/
def arrive? (t : GateTrial) (name credential : String)
    (timeout : Option Duration) (cancelled : Bool) (cancelAfter : Option Duration) :
    Option GateTrial :=
  let key := t.names.length
  (Request.ofTimeout? [] timeout t.now key).map fun r =>
    let s := t.schedule.add (.ofTask key none (ProbeState.consult r credential))
    let t := { t with schedule := s, names := t.names ++ [(key, name)] }
    match cancelled, cancelAfter with
    | true, _ => { t with schedule := { s with world := s.world.cancel key } }
    | false, some d =>
      { t with schedule := { s with world := s.world.scheduleCancel key (t.now + d) } }
    | false, none =>
      { t with cancellable := (name, key) :: t.cancellable.filter fun c => c.1 != name }

/-- Drops a job wherever it waits. -/
def abort (t : GateTrial) (id : Nat) : GateTrial :=
  let s := t.schedule
  let dropped := s.blocked.filter fun job => job.id == id
  let s := dropped.foldl Schedule.drop
    { s with blocked := s.blocked.filter fun job => job.id != id
             queue := s.queue.filter fun job => job.id != id }
  { t with schedule := s.rouse }

/-- Reports a probe under a name as ended; the answer tells whether there was one. -/
def report (t : GateTrial) (name : String) (outcome : ProbeState) : GateTrial × GateReply :=
  match t.admission? name with
  | some .probe => ((t.release name).settle outcome, .yes true)
  | _ => (t.release name, .yes false)

/-- Lets the clock move on. -/
def wait (t : GateTrial) (time : Duration) : GateTrial :=
  let stop := t.now + time
  let s := t.schedule.runTo (some stop) t.turns
  { t with schedule := s.setClock stop }

/-- Does a step, before the jobs go on; nothing comes of a step that cannot be done. -/
def act? (t : GateTrial) : GateStep → Option (GateTrial × GateReply)
  | .arrive name credential timeout cancelled cancelAfter =>
    (t.arrive? name credential timeout cancelled cancelAfter).map fun t => (t, .nothing)
  | .succeed name => some (t.report name .succeeded)
  | .fail name reason => some (t.report name (.failed reason))
  | .drop name => some (t.discard name, .yes (t.admission? name).isSome)
  | .cancel name =>
    match t.cancellable.lookup name with
    | some key => some ({ t with schedule := { t.schedule with
        world := t.schedule.world.cancel key }.rouse }, .yes true)
    | none => some (t, .yes false)
  | .abort name =>
    match t.jobOf? name with
    | some id => some (t.abort id, .yes true)
    | none => some (t, .yes false)
  | .wait time => some (t.wait time, .nothing)
  | .look => some (t, .nothing)
  | .policy name =>
    some (t, .policy (match t.admission? name with
      | some .probe | none => t.base
      | some a => t.base.behind a))

/-- Hands the admissions of those who have left the gate over to them. -/
def handOver (t : GateTrial) (f : Finish (Except Error Admission)) : GateTrial :=
  match t.names.lookup f.id, f.ending with
  | some name, .value (.ok a) => let t := t.discard name; { t with held := (name, a) :: t.held }
  | _, _ => t

/-- Those who have left the gate. -/
def leaving (t : GateTrial) (f : Finish (Except Error Admission)) : Option Leaving :=
  match t.names.lookup f.id, f.ending with
  | some name, .value result =>
    let retries := match result with
      | .ok a => (t.base.behind a).maxRetries
      | .error _ => 0
    some ⟨name, result, retries, f.time⟩
  | _, _ => none

/-- Lets all jobs go on as far as they can at this time. -/
def goOn (t : GateTrial) : GateTrial :=
  { t with schedule := ((t.schedule.drain t.turns).cancelDue).drain t.turns }

/-- Does a step and lets all jobs go on. -/
def step? (t : GateTrial) (action : GateStep) : Option (GateTrial × GateReport) :=
  (t.act? action).map fun (t, reply) =>
    let t := t.goOn
    let finished := t.schedule.finished
    let t := finished.foldl handOver { t with schedule := { t.schedule with finished := [] } }
    (t, ⟨reply, t.schedule.world.state, finished.filterMap t.leaving⟩)

/-- Does steps one after another, if each of them can be done. -/
def steps? (t : GateTrial) : List GateStep → Option (List GateReport)
  | [] => some []
  | action :: rest => do
    let (t, report) ← t.step? action
    return report :: (← t.steps? rest)

end GateTrial

end TokenChain
