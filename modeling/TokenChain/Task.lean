import TokenChain.Log

/-! # Tasks

A `Task σ α` is a computation that works on a shared state `σ`, may have to wait, and ends with a
value of type `α`. It is a tree: each node says what the task does next and how it goes on from
there. Between two waits a task is not interrupted; at a wait other tasks go on, the clock may move,
and the task may be dropped for good.

* `Task.run` lets a task go on until it ends or has to wait (`Pause`).
* `Wait.wake?` says whether a wait is over, and why. A cancellation that has taken place comes
  before what is waited for, and that comes before a deadline, should they fall on one instant.
* `Task.onLoss` undoes what a task holds when it is dropped or crashes.
* `Task.zoom` lets a task on a part of the state work on the whole.
* `Delayed.await` waits for what takes its time. -/

namespace TokenChain

/-- Names a cancellation that a request listens to. -/
abbrev CancelKey := Nat

/-- What a task can look up at any time: the clock, and which cancellations have taken place. -/
structure Moment where
  now : Instant
  cancelled : CancelKey → Bool

/-- All that tasks share: clock, cancellations, log and state. -/
structure World (σ : Type) extends Moment where
  /-- When cancellations are to take place. -/
  cancelAt : CancelKey → Option Instant
  log : Log
  state : σ

namespace World

variable {σ : Type}

/-- A world in which nothing has happened yet. -/
def initial (now : Instant) (log : Log) (state : σ) : World σ :=
  { now, cancelled := fun _ => false, cancelAt := fun _ => none, log, state }

/-- The world with an entry behind the others. -/
def append (w : World σ) (n : Note) : World σ :=
  { w with log := w.log.append { toNote := n, time := w.now } }

/-- The world in which a cancellation has taken place. -/
def cancel (w : World σ) (key : CancelKey) : World σ :=
  { w with cancelled := fun k => k == key || w.cancelled k }

/-- The world in which a cancellation is to take place at the given instant. -/
def scheduleCancel (w : World σ) (key : CancelKey) (t : Instant) : World σ :=
  { w with cancelAt := fun k => if k = key then some t else w.cancelAt k }

/-- The world in which the clock shows a later instant. What was to be cancelled before has been
cancelled. -/
def advance (w : World σ) (t : Instant) : World σ :=
  { w with
    now := t
    cancelled := fun k => w.cancelled k || (w.cancelAt k).any fun due => decide (due < t) }

/-- The world in which all cancellations that are due have taken place. -/
def cancelDue (w : World σ) : World σ :=
  { w with cancelled := fun k => w.cancelled k || (w.cancelAt k).any fun t => decide (t ≤ w.now) }

end World

/-- Why a wait is over. -/
inductive Wake where
  | ready
  | cancelled
  | expired
deriving DecidableEq, Repr, Inhabited

/-- What a task waits for. -/
structure Wait (σ : Type) where
  /-- The state that is waited for. -/
  ready : σ → Bool := fun _ => false
  /-- The instant that is waited for. -/
  due : Option Instant := none
  /-- The cancellation that ends the wait. -/
  cancel : Option CancelKey := none
  /-- The deadline that ends the wait. -/
  deadline : Option Instant := none
  /-- What is undone if the wait is given up. -/
  abandon : σ → σ := id

namespace Wait

variable {σ : Type}

/-- Why a wait is over in the given world, if it is. -/
def wake? (w : Wait σ) (world : World σ) : Option Wake :=
  if w.cancel.any world.cancelled then some .cancelled
  else if w.ready world.state || w.due.any fun t => decide (t ≤ world.now) then some .ready
  else if w.deadline.any fun t => decide (t ≤ world.now) then some .expired
  else none

/-- The instants at which the passing of time alone ends the wait. -/
def alarms (w : Wait σ) (world : World σ) : List Instant :=
  w.due.toList ++ w.deadline.toList ++ (w.cancel.bind world.cancelAt).toList

end Wait

/-- A computation on a shared state that may have to wait. -/
inductive Task (σ α : Type) : Type where
  /-- The task has ended with a value. -/
  | done (a : α)
  /-- The task has broken down; it has no value. -/
  | crash
  /-- Looks at the clock and at what has been cancelled. -/
  | look (k : Moment → Task σ α)
  /-- Writes to the log. -/
  | note (n : Note) (k : Task σ α)
  /-- Changes the state and goes on with the state as it was before. -/
  | step (f : σ → σ) (k : σ → Task σ α)
  /-- Waits, and goes on by why the wait is over. -/
  | wait (w : Wait σ) (k : Wake → Task σ α)

/-- How far a task has come: it has ended, has broken down, or has to wait. -/
inductive Pause (σ α : Type) : Type where
  | done (a : α)
  | crashed
  | waiting (w : Wait σ) (k : Wake → Task σ α)

namespace Task

variable {σ τ α β : Type}

/-- Goes on with the value of a task. -/
def bind : Task σ α → (α → Task σ β) → Task σ β
  | done a, g => g a
  | crash, _ => crash
  | look k, g => look fun m => bind (k m) g
  | note n k, g => note n (bind k g)
  | step f k, g => step f fun s => bind (k s) g
  | wait w k, g => wait w fun x => bind (k x) g

instance : Monad (Task σ) where
  pure := done
  bind := bind

/-- The state as it is. -/
def get : Task σ σ := step id done

/-- Changes the state. -/
def modify (f : σ → σ) : Task σ Unit := step f fun _ => done ()

/-- Looks at the clock. -/
def now : Task σ Instant := look fun m => done m.now

/-- Writes to the log. -/
def log (level : Level) (context message : String) : Task σ Unit :=
  note ⟨level, context, message⟩ (done ())

/-- Waits until the given instant. -/
def sleepUntil (t : Instant) : Task σ Unit := wait { due := some t } fun _ => done ()

/-- Waits for ever. -/
def hang : Task σ α := wait {} fun _ => crash

/-- Undoes something if the task is dropped at a wait or breaks down. -/
def onLoss (release : σ → σ) : Task σ α → Task σ α
  | done a => done a
  | crash => step release fun _ => crash
  | look k => look fun m => onLoss release (k m)
  | note n k => note n (onLoss release k)
  | step f k => step f fun s => onLoss release (k s)
  | wait w k => wait { w with abandon := release ∘ w.abandon } fun x => onLoss release (k x)

/-- Lets a task on a part of the state work on the whole, given how the part is found and put
back. -/
def zoom (part : τ → σ) (put : σ → τ → τ) : Task σ α → Task τ α
  | done a => done a
  | crash => crash
  | look k => look fun m => zoom part put (k m)
  | note n k => note n (zoom part put k)
  | step f k => step (fun t => put (f (part t)) t) fun t => zoom part put (k (part t))
  | wait w k =>
    wait { w with ready := w.ready ∘ part, abandon := fun t => put (w.abandon (part t)) t }
      fun x => zoom part put (k x)

/-- Lets a task go on until it ends, breaks down, or has to wait. -/
def run : Task σ α → World σ → World σ × Pause σ α
  | done a, world => (world, .done a)
  | crash, world => (world, .crashed)
  | look k, world => run (k world.toMoment) world
  | note n k, world => run k (world.append n)
  | step f k, world => run (k world.state) { world with state := f world.state }
  | wait w k, world =>
    match w.wake? world with
    | some x => run (k x) world
    | none => (world, .waiting w k)

/-! ### The laws of `bind` -/

@[simp] theorem pure_eq_done (a : α) : (pure a : Task σ α) = done a := rfl

@[simp] theorem bind_eq_bind (t : Task σ α) (g : α → Task σ β) : (t >>= g) = t.bind g := rfl

theorem bind_done (t : Task σ α) : t.bind done = t := by
  induction t with
  | done a => rfl
  | crash => rfl
  | look k ih => simp [bind, ih]
  | note n k ih => simp [bind, ih]
  | step f k ih => simp [bind, ih]
  | wait w k ih => simp [bind, ih]

theorem bind_assoc {γ : Type} (t : Task σ α) (g : α → Task σ β) (h : β → Task σ γ) :
    (t.bind g).bind h = t.bind fun a => (g a).bind h := by
  induction t with
  | done a => rfl
  | crash => rfl
  | look k ih => simp [bind, ih]
  | note n k ih => simp [bind, ih]
  | step f k ih => simp [bind, ih]
  | wait w k ih => simp [bind, ih]

instance : LawfulMonad (Task σ) :=
  LawfulMonad.mk' (Task σ) bind_done (fun _ _ => rfl) bind_assoc

end Task

/-! ### What takes its time -/

/-- Something that takes its time; what has no value never comes. -/
structure Delayed (α : Type) where
  delay : Duration
  value : Option α
deriving Inhabited

namespace Delayed

variable {σ α : Type} {d : Delayed α}

/-- Waits for what takes its time from the given instant on. -/
def await (d : Delayed α) (start : Instant) : Task σ α :=
  match d.value with
  | none => .hang
  | some a =>
    if d.delay.nanos = 0 then .done a
    else (Task.sleepUntil (start + d.delay)).bind fun _ => .done a

/-- It is not there at once. -/
def Pends (d : Delayed α) : Prop := d.value = none ∨ d.delay.nanos ≠ 0

/-- The instant from which on it is there, if its time is counted from another one. -/
def due? (d : Delayed α) (start : Instant) : Option Instant := d.value.map fun _ => start + d.delay

theorem await_of_not_pends (there : ¬ d.Pends) (start : Instant) :
    ∃ a, d.value = some a ∧ (d.await start : Task σ α) = .done a := by
  obtain ⟨delay, value⟩ := d
  cases value with
  | none => exact absurd (.inl rfl) there
  | some a => exact ⟨a, rfl, if_pos (Decidable.not_not.mp (not_or.mp there).2)⟩

theorem await_of_pends (pends : d.Pends) (start : Instant) :
    (d.await start : Task σ α) =
      .wait { due := d.due? start } fun _ => d.value.elim .crash .done := by
  obtain ⟨delay, value⟩ := d
  cases value with
  | none => rfl
  | some a => exact if_neg (pends.resolve_left nofun)

theorem await_cases (d : Delayed α) (start : Instant) :
    (∃ a, d.value = some a ∧ (d.await start : Task σ α) = .done a) ∨
      (d.await start : Task σ α) =
        .wait { due := d.due? start } fun _ => d.value.elim .crash .done :=
  (Classical.em d.Pends).symm.imp (await_of_not_pends · start) (await_of_pends · start)

end Delayed

end TokenChain
