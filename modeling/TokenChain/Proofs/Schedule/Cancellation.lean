import TokenChain.Proofs.Schedule
import TokenChain.Proofs.Schedule.Punctuality

/-! # Jobs that are quiet once cancelled

A job that serves a request (`Job.Serves`) waits until it begins, with nothing to undo, and listens
to the cancellation of the request from then on. Once the request has been cancelled, all that the
job still does is quiet, wherever the cancellation finds it (`Job.Goes.quiet`, and for a job in a
schedule `Schedule.Devotes.quiet`). -/

namespace TokenChain

variable {σ α : Type} {key : CancelKey} {Quiet : σ → σ → Prop}

namespace Task

theorem Hushed.run (refl : ∀ s, Quiet s s)
    (trans : ∀ {a b c}, Quiet a b → Quiet b c → Quiet a c) {t : Task σ α} (h : t.Hushed key Quiet)
    {w w' : World σ} (cancelled : w.cancelled key = true) {p : Pause σ α}
    (run : t.run w = (w', p)) : Quiet w.state w'.state ∧ ∀ v k, p ≠ .waiting v k := by
  induction t generalizing w with
  | done a =>
    cases run
    exact ⟨refl _, nofun⟩
  | crash =>
    cases run
    exact ⟨refl _, nofun⟩
  | look q ih => exact ih _ (h _ cancelled) cancelled run
  | note e q ih => exact ih h (w := w.append e) cancelled run
  | step f q ih =>
    obtain ⟨quiet, ends⟩ := ih w.state (h.2 _) (w := { w with state := f w.state }) cancelled run
    exact ⟨trans (h.1 _) quiet, ends⟩
  | wait v q ih =>
    have wakes : v.wake? w = some .cancelled := by
      rw [Wait.wake?, h.1, Option.any_some, if_pos cancelled]
    rw [Task.run, wakes] at run
    exact ih .cancelled h.2 cancelled run

theorem Listens.run {t : Task σ α} (h : t.Listens key Quiet) {w w' : World σ} {v : Wait σ}
    {k : Wake → Task σ α} (run : t.run w = (w', .waiting v k)) :
    (Task.wait v k).Listens key Quiet := by
  induction t generalizing w with
  | done a => cases run
  | crash => cases run
  | look q ih => exact ih _ (h _) run
  | note e q ih => exact ih h run
  | step f q ih => exact ih _ (h _) run
  | wait u q ih =>
    rw [Task.run] at run
    cases wakes : u.wake? w with
    | none =>
      rw [wakes] at run
      cases run
      exact h
    | some x =>
      rw [wakes] at run
      exact ih x (h.2 x) run

theorem Delays.run {t u : Task σ α} (h : t.Delays u) {w w' : World σ} {p : Pause σ α}
    (run : u.run w = (w', p)) :
    (w' = w ∧ ∃ v k, p = .waiting v k ∧ (∀ s, v.abandon s = s) ∧ ∀ x, t.Delays (k x)) ∨
      t.run w = (w', p) := by
  induction h with
  | now => exact .inr run
  | @wait v k harmless rest ih =>
    rw [Task.run] at run
    cases wakes : v.wake? w with
    | none =>
      rw [wakes] at run
      cases run
      exact .inl ⟨rfl, v, k, rfl, harmless, rest⟩
    | some x =>
      rw [wakes] at run
      exact ih x run

end Task

namespace Job

/-- **A job that serves a request**: it waits until it begins, or has begun and listens to the
cancellation. -/
inductive Serves (key : CancelKey) (Quiet : σ → σ → Prop) (job : Job σ α) : Prop
  | begins {t : Task σ α} (serves : t.Serves key Quiet) (harmless : ∀ s, job.wait.abandon s = s)
      (delays : ∀ x, t.Delays (job.resume x)) : Serves key Quiet job
  | listens (begun : (Task.wait job.wait job.resume).Listens key Quiet) : Serves key Quiet job

theorem Goes.serves {job job' : Job σ α} {w w' : World σ} (goes : job.Goes w w' (.waits job'))
    (h : job.Serves key Quiet) : job'.Serves key Quiet := by
  cases goes with
  | sleeps => exact h
  | @waits x _ v k _ run =>
    cases h with
    | listens begun => exact .listens ((begun.2 x).run run)
    | begins serves _ delays =>
      rcases (delays x).run run with ⟨-, _, _, waiting, harmless, delays⟩ | run
      · cases waiting
        exact .begins serves harmless delays
      · exact .listens (serves.listens.run run)

/-- **What a job does once its request has been cancelled** is quiet. -/
theorem Goes.quiet (refl : ∀ s, Quiet s s)
    (trans : ∀ {a b c}, Quiet a b → Quiet b c → Quiet a c) {job : Job σ α} {w w' : World σ}
    {fate : Fate σ α} (goes : job.Goes w w' fate) (h : job.Serves key Quiet)
    (cancelled : w.cancelled key = true) : Quiet w.state w'.state := by
  cases h with
  | listens begun =>
    obtain ⟨⟨listens, -, hushed⟩, -⟩ := begun
    -- a job that has begun can only wake to the cancellation, for that comes before all else
    have wakes : job.wait.wake? w = some .cancelled := by
      rw [Wait.wake?, listens, Option.any_some, if_pos cancelled]
    cases goes with
    | sleeps asleep => exact refl _
    | aborted asleep =>
      rw [wakes] at asleep
      cases asleep
    | ended woken run | crashed woken run | waits woken run =>
      cases wakes.symm.trans woken
      exact (hushed.run refl trans cancelled run).1
    | cut woken run =>
      cases wakes.symm.trans woken
      exact absurd rfl ((hushed.run refl trans cancelled run).2 _ _)
  | begins serves harmless delays =>
    -- a job that has not begun waits on, or begins in the moment of the cancellation or after it
    cases goes with
    | sleeps => exact refl _
    | aborted =>
      rw [harmless]
      exact refl _
    | @ended x _ _ _ run | @crashed x _ _ run | @waits x _ _ _ _ run =>
      rcases (delays x).run run with ⟨rfl, -⟩ | run
      · exact refl _
      · exact (serves.hushed.run refl trans cancelled run).1
    | @cut x _ _ _ _ run =>
      rcases (delays x).run run with ⟨rfl, _, _, waiting, harmless, -⟩ | run
      · cases waiting
        rw [harmless]
        exact refl _
      · exact absurd rfl ((serves.hushed.run refl trans cancelled run).2 _ _)

end Job

namespace Schedule

/-- All jobs with a number serve the same request. -/
def Devotes (id : Nat) (key : CancelKey) (Quiet : σ → σ → Prop) (s : Schedule σ α) : Prop :=
  ∀ job ∈ s.jobs, job.id = id → job.Serves key Quiet

theorem Devotes.comesTo {id : Nat} {s s' : Schedule σ α} (h : s.Devotes id key Quiet)
    (comes : ComesTo s s') : s'.Devotes id key Quiet := by
  induction comes with
  | refl => exact h
  | tail _ turn ih =>
    obtain ⟨who, turn⟩ := turn
    intro other mem hid
    rcases turn.origin mem with mem | ⟨job, mem, same, goes⟩
    · exact ih other mem hid
    · exact goes.serves (ih job mem (same.trans hid))

/-- **A turn of a job** whose request has been cancelled is quiet. -/
theorem Devotes.quiet (refl : ∀ s, Quiet s s)
    (trans : ∀ {a b c}, Quiet a b → Quiet b c → Quiet a c) {id : Nat} {s s' : Schedule σ α}
    (h : s.Devotes id key Quiet) (cancelled : s.world.cancelled key = true)
    (turn : Turn (some id) s s') : Quiet s.world.state s'.world.state := by
  cases turn.turned with
  | @job _ _ job rest fate _ before goes =>
    exact goes.quiet refl trans (h job (before.mem_iff.mpr List.mem_cons_self) rfl) cancelled

theorem Free.devotes {s : Schedule σ α} {id : Nat} (free : s.Free id)
    (abortAt : Option Instant) {task : Task σ α} (serves : task.Serves key Quiet) :
    (s.add (.ofTask id abortAt task)).Devotes id key Quiet := by
  intro job mem hid
  rcases List.mem_cons.mp ((s.jobs_add _).mem_iff.mp mem) with rfl | mem
  · exact .begins serves (fun _ => rfl) fun _ => .now
  · exact absurd ⟨job, mem, hid⟩ free.runs

end Schedule

end TokenChain
