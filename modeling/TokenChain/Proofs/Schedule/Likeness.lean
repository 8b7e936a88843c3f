import Mathlib.Data.List.Forall2
import TokenChain.Proofs.Schedule.Turns
import TokenChain.Proofs.Task.Likeness

/-! # Schedules that differ in what nobody sees

Schedules of jobs that are alike stay alike: each turn of the one is a turn of the same job in the
other (`Alike.turn`, `Alike.takes`), and `runTo` leaves them alike (`Alike.runTo`). -/

namespace TokenChain

open List (Forall₂)

variable {σ α : Type} {S : σ → σ → Prop} {A : α → α → Prop}

/-- Two jobs under one number that are alike. -/
structure Job.Alike (S : σ → σ → Prop) (A : α → α → Prop) (j j' : Job σ α) : Prop where
  id : j.id = j'.id
  abortAt : j.abortAt = j'.abortAt
  wait : j.wait.Alike S j'.wait
  resume : ∀ x, (j.resume x).Alike S A (j'.resume x)

/-- Two jobs that ended in the same way. -/
inductive Ending.Alike (A : α → α → Prop) : Ending α → Ending α → Prop
  | value {a b : α} (alike : A a b) : Alike A (.value a) (.value b)
  | crashed : Alike A .crashed .crashed
  | aborted : Alike A .aborted .aborted

/-- Two jobs under one number that ended in the same way at the same time. -/
structure Finish.Alike (A : α → α → Prop) (f f' : Finish α) : Prop where
  id : f.id = f'.id
  ending : f.ending.Alike A f'.ending
  time : f.time = f'.time

/-- **Two schedules** that have come equally far with jobs that are alike. -/
structure Schedule.Alike (S : σ → σ → Prop) (A : α → α → Prop) (s s' : Schedule σ α) : Prop where
  world : s.world.Alike S s'.world
  queue : Forall₂ (Job.Alike S A) s.queue s'.queue
  blocked : Forall₂ (Job.Alike S A) s.blocked s'.blocked
  finished : Forall₂ (Finish.Alike A) s.finished s'.finished

theorem Job.Alike.ofTask {t t' : Task σ α} (h : t.Alike S A t') (id : Nat)
    (abortAt : Option Instant) : Job.Alike S A (.ofTask id abortAt t) (.ofTask id abortAt t') :=
  ⟨rfl, rfl, ⟨fun _ => rfl, rfl, rfl, rfl, fun h => h⟩, fun _ => h⟩

theorem Job.Alike.isOver {j j' : Job σ α} (h : j.Alike S A j') : j.isOver = j'.isOver := by
  funext now
  rw [Job.isOver, Job.isOver, h.abortAt]

theorem Job.Alike.isAwake {j j' : Job σ α} (h : j.Alike S A j') {w w' : World σ}
    (worlds : w.Alike S w') : j.isAwake w = j'.isAwake w' := by
  rw [Job.isAwake, Job.isAwake, h.wait.wake? worlds, h.isOver, worlds.now]

theorem Job.Alike.alarms {j j' : Job σ α} (h : j.Alike S A j') {w w' : World σ}
    (worlds : w.Alike S w') : j.alarms w = j'.alarms w' := by
  rw [Job.alarms, Job.alarms, h.wait.alarms worlds, h.abortAt]

theorem forall₂_split {β γ : Type} {R : β → γ → Prop} {b : β} {l r : List β} {m : List γ}
    (h : Forall₂ R (l ++ b :: r) m) :
    ∃ l' b' r', m = l' ++ b' :: r' ∧ R b b' ∧ Forall₂ R (l ++ r) (l' ++ r') := by
  induction l generalizing m with
  | nil =>
    cases h with
    | cons first rest => exact ⟨[], _, _, rfl, first, rest⟩
  | cons a l ih =>
    cases h with
    | cons first rest =>
      obtain ⟨l', b', r', rfl, here, others⟩ := ih rest
      exact ⟨_ :: l', b', r', rfl, here, .cons first others⟩

namespace Schedule

/-! ### The operations of a schedule -/

theorem Alike.withQueue {s s' : Schedule σ α} (h : s.Alike S A s') {q q' : List (Job σ α)}
    (queue : Forall₂ (Job.Alike S A) q q') :
    Alike S A { s with queue := q } { s' with queue := q' } :=
  { h with queue := queue }

theorem Alike.finish {s s' : Schedule σ α} (h : s.Alike S A s') {j j' : Job σ α}
    (jobs : j.id = j'.id) {e e' : Ending α} (endings : e.Alike A e') :
    (s.finish j e).Alike S A (s'.finish j' e') where
  world := h.world
  queue := h.queue
  blocked := h.blocked
  finished := List.rel_append h.finished (.cons ⟨jobs, endings, h.world.now⟩ .nil)

theorem Alike.park {s s' : Schedule σ α} (h : s.Alike S A s') {j j' : Job σ α}
    (jobs : j.Alike S A j') : (s.park j).Alike S A (s'.park j') := by
  rw [Schedule.park, Schedule.park, jobs.isOver, h.world.now]
  split
  · have dropped : (s.drop j).Alike S A (s'.drop j') :=
      { h with world := h.world.withState (jobs.wait.abandon h.world.state) }
    exact dropped.finish jobs.id .aborted
  · exact { h with blocked := List.rel_append h.blocked (.cons jobs .nil) }

/-- **Jobs that are alike** go on alike. -/
theorem Alike.resume {s s' : Schedule σ α} (h : s.Alike S A s') {j j' : Job σ α}
    (jobs : j.Alike S A j') : (s.resume j).Alike S A (s'.resume j') := by
  rw [Schedule.resume, Schedule.resume, jobs.wait.wake? h.world]
  cases j'.wait.wake? s'.world with
  | none => exact h.park jobs
  | some x =>
    obtain ⟨worlds, pauses⟩ := (jobs.resume x).run h.world
    rcases run : (j.resume x).run s.world with ⟨w, p⟩
    rcases run' : (j'.resume x).run s'.world with ⟨w', p'⟩
    rw [run, run'] at worlds pauses
    simp only [run, run']
    have h' : Alike S A { s with world := w } { s' with world := w' } :=
      ⟨worlds, h.queue, h.blocked, h.finished⟩
    cases pauses with
    | done alike => exact h'.finish jobs.id (.value alike)
    | crashed => exact h'.finish jobs.id .crashed
    | waiting waits alike => exact h'.park ⟨jobs.id, jobs.abortAt, waits, alike⟩

theorem Alike.rouse {s s' : Schedule σ α} (h : s.Alike S A s') : s.rouse.Alike S A s'.rouse where
  world := h.world
  queue := List.rel_append h.queue
    (List.rel_filter (fun _ _ jobs => by simp only [jobs.isAwake h.world]) h.blocked)
  blocked := List.rel_filter (fun _ _ jobs => by simp only [jobs.isAwake h.world]) h.blocked
  finished := h.finished

theorem Alike.cancelDue {s s' : Schedule σ α} (h : s.Alike S A s') :
    s.cancelDue.Alike S A s'.cancelDue :=
  rouse { h with world := h.world.cancelDue }

theorem Alike.setClock {s s' : Schedule σ α} (h : s.Alike S A s') (t : Instant) :
    (s.setClock t).Alike S A (s'.setClock t) :=
  rouse { h with world := h.world.advance t }

theorem Alike.nextAlarm {s s' : Schedule σ α} (h : s.Alike S A s') :
    s.nextAlarm = s'.nextAlarm := by
  have same : (s.blocked.flatMap fun job => job.alarms s.world) =
      s'.blocked.flatMap fun job => job.alarms s'.world := by
    have blocked := h.blocked
    generalize s.blocked = l at blocked
    generalize s'.blocked = l' at blocked
    induction blocked with
    | nil => rfl
    | cons first _ ih => rw [List.flatMap_cons, List.flatMap_cons, first.alarms h.world, ih]
  rw [Schedule.nextAlarm, Schedule.nextAlarm, same]

theorem Alike.isEmpty {s s' : Schedule σ α} (h : s.Alike S A s') :
    s.queue.isEmpty = s'.queue.isEmpty := by
  have queue := h.queue
  generalize s.queue = q at queue
  generalize s'.queue = q' at queue
  cases queue <;> rfl

theorem Alike.idle {s s' : Schedule σ α} (h : s.Alike S A s') (idle : s.queue = []) :
    s'.queue = [] := by
  have queue := h.queue
  rw [idle] at queue
  exact List.forall₂_nil_left_iff.mp queue

/-- **Schedules that are alike** stop alike. -/
theorem Alike.runTo (until? : Option Instant) :
    ∀ (turns : Nat) {s s' : Schedule σ α}, s.Alike S A s' →
    (s.runTo until? turns).Alike S A (s'.runTo until? turns)
  | 0, s, s', h => h
  | turns + 1, s, s', h => by
    rw [Schedule.runTo, Schedule.runTo]
    have queue := h.queue
    generalize s.queue = q at queue
    generalize s'.queue = q' at queue
    cases queue with
    | cons first rest =>
      exact Alike.runTo until? turns ((h.withQueue rest).resume first).rouse
    | nil =>
      have due := h.cancelDue
      dsimp only
      rw [due.isEmpty, due.nextAlarm]
      split
      · split
        · exact due
        · split
          · exact Alike.runTo until? turns (due.setClock _)
          · exact due
      · exact Alike.runTo until? turns due

/-! ### Turns -/

/-- **A turn** of a schedule is a turn of one that is alike. -/
theorem Alike.turn {s s' s₁ : Schedule σ α} (h : s.Alike S A s') {who : Option Nat}
    (turn : Turn who s s₁) : ∃ s₁', Turn who s' s₁' ∧ s₁.Alike S A s₁' := by
  cases turn with
  | @go _ before after job queue =>
    have queues := h.queue
    rw [queue] at queues
    obtain ⟨before', job', after', queue', jobs, others⟩ := forall₂_split queues
    have turn := Turn.go queue'
    rw [← jobs.id] at turn
    exact ⟨_, turn, ((h.withQueue others).resume jobs).rouse⟩
  | cancel idle woken =>
    refine ⟨_, .cancel (h.idle idle) fun asleep => woken ?_, h.cancelDue⟩
    have queue := h.cancelDue.queue
    rw [asleep] at queue
    exact List.forall₂_nil_right_iff.mp queue
  | tick idle asleep alarm =>
    exact ⟨_, .tick (h.idle idle) (h.cancelDue.idle asleep) (h.cancelDue.nextAlarm ▸ alarm),
      h.cancelDue.setClock _⟩

/-- **Whatever turns a schedule takes**, one that is alike can take. -/
theorem Alike.takes {s s' t : Schedule σ α} {who : List (Option Nat)} (h : s.Alike S A s')
    (takes : Takes who s t) : ∃ t', Takes who s' t' ∧ t.Alike S A t' := by
  induction takes generalizing s' with
  | none => exact ⟨s', .none, h⟩
  | next turn _ ih =>
    obtain ⟨t', turn', alike⟩ := h.turn turn
    obtain ⟨u', takes', alike'⟩ := ih alike
    exact ⟨u', .next turn' takes', alike'⟩

/-- **Schedules that take the same turns** stay alike. -/
theorem Alike.takes_both {s s' t t' : Schedule σ α} {who : List (Option Nat)} (h : s.Alike S A s')
    (distinct : s'.Distinct) (takes : Takes who s t) (takes' : Takes who s' t') :
    t.Alike S A t' := by
  obtain ⟨u, takesU, alike⟩ := h.takes takes
  cases takesU.unique distinct takes'
  exact alike

end Schedule

end TokenChain
