import Mathlib.Tactic.SplitIfs
import TokenChain.Proofs.Task.Stepwise
import TokenChain.Request

/-! # Tasks that may be given up

A task that is patient (`Task.Patient`) waits for things to happen and for nothing else: it listens
to no cancellation and has no deadline of its own. A task that never waits (`Task.Prompt`) is never
given up (`giveUp_of_prompt`). Who waits for what takes its time goes on with it, or is cut off
before it comes (`Delayed.CutOff`): these are the steps of such a wait (`next?_giveUp_await`). -/

namespace TokenChain

variable {σ τ α β : Type}

namespace Task

/-- A task that listens to no cancellation and has no deadline. -/
def Patient : Task σ α → Prop
  | done _ | crash => True
  | look k => ∀ m, Patient (k m)
  | note _ k => Patient k
  | step _ k => ∀ s, Patient (k s)
  | wait v k => v.cancel = none ∧ v.deadline = none ∧ ∀ x, Patient (k x)

/-- A task that does not wait. -/
def Prompt : Task σ α → Prop
  | done _ | crash => True
  | look k => ∀ m, Prompt (k m)
  | note _ k => Prompt k
  | step _ k => ∀ s, Prompt (k s)
  | wait _ _ => False

theorem giveUp_of_prompt {t : Task σ α} (h : t.Prompt) (key : CancelKey) (deadline : Option Instant)
    (a b : α) : t.giveUp key deadline a b = t := by
  induction t with
  | done a => rfl
  | crash => rfl
  | look k ih => exact congrArg look (funext fun m => ih m (h m))
  | note n k ih => exact congrArg (note n) (ih h)
  | step f k ih => exact congrArg (step f) (funext fun s => ih s (h s))
  | wait v k => exact h.elim

end Task

/-! ### What takes its time -/

namespace Delayed

variable {d : Delayed α} {start : Instant}

/-- **Who waits for it is cut off** at this moment: by a cancellation, or by a deadline that comes
first. -/
inductive CutOff (d : Delayed α) (start : Instant) (key : CancelKey) (deadline : Option Instant)
    (m : Moment) : Prop
  | cancelled (off : m.cancelled key = true)
  | expired {t : Instant} (appointed : deadline = some t) (past : t ≤ m.now)
      (missing : ∀ due, d.due? start = some due → ¬ due ≤ m.now)

variable {key : CancelKey} {deadline : Option Instant}

theorem CutOff.of_due?_eq {d' : Delayed β} {m : Moment} (same : d'.due? start = d.due? start)
    (cut : d.CutOff start key deadline m) : d'.CutOff start key deadline m := by
  cases cut with
  | cancelled off => exact .cancelled off
  | expired appointed past missing =>
    exact .expired appointed past fun due hd => missing due (same.symm.trans hd)

/-- A wait that may be given up is over when what takes its time has come, or when it is cut off. -/
theorem wake?_due {w : World σ} {x : Wake}
    (h : ({ due := d.due? start, cancel := some key, deadline } : Wait σ).wake? w = some x) :
    (x = .ready ∧ ∃ y, d.value = some y) ∨
      (x ≠ .ready ∧ d.CutOff start key deadline w.toMoment) := by
  simp only [Wait.wake?, Option.any_some, Bool.false_or] at h
  split_ifs at h with cancelled ready late
  · cases h
    exact .inr ⟨nofun, .cancelled cancelled⟩
  · cases h
    obtain ⟨due, hd, -⟩ := (Option.any_eq_true ..).mp ready
    obtain ⟨y, hy, -⟩ := Option.map_eq_some_iff.mp hd
    exact .inl ⟨rfl, y, hy⟩
  · cases h
    obtain ⟨t, appointed, past⟩ := (Option.any_eq_true ..).mp late
    refine .inr ⟨nofun, .expired appointed (of_decide_eq_true past) fun due hd le => ready ?_⟩
    rw [hd]
    exact decide_eq_true le

theorem CutOff.wake?_due {w : World σ} (cut : d.CutOff start key deadline w.toMoment) :
    ∃ x, ({ due := d.due? start, cancel := some key, deadline } : Wait σ).wake? w = some x ∧
      x ≠ .ready := by
  cases cut with
  | cancelled off => exact ⟨.cancelled, if_pos off, nofun⟩
  | @expired t appointed past missing =>
    by_cases off : w.cancelled key = true
    · exact ⟨.cancelled, if_pos off, nofun⟩
    · have absent : (d.due? start).any (fun t => decide (t ≤ w.now)) = false :=
        Bool.eq_false_iff.mpr fun come => by
          obtain ⟨due, hd, le⟩ := (Option.any_eq_true ..).mp come
          exact missing due hd (of_decide_eq_true le)
      have late : deadline.any (fun t => decide (t ≤ w.now)) = true := by
        rw [appointed]
        exact decide_eq_true past
      exact ⟨.expired,
        (if_neg off).trans ((if_neg (Bool.eq_false_iff.mp absent)).trans (if_pos late)), nofun⟩

end Delayed

namespace Task

open Delayed

variable {d : Delayed α} {start : Instant} {g : α → Task σ β} {key : CancelKey}
  {deadline : Option Instant} {a b : β} {w w' : World σ} {u : Task σ β}

/-- **The step of who waits for what takes its time**: it has come, or the wait is cut off. -/
theorem next?_giveUp_await (pends : d.Pends)
    (next : (((d.await start).bind g).giveUp key deadline a b).next? w = some (w', u)) :
    w' = w ∧ ((∃ x, d.value = some x ∧ u = (g x).giveUp key deadline a b) ∨
      (d.CutOff start key deadline w.toMoment ∧
        ∃ c, (c = a ∨ c = b) ∧ u = .step id fun _ => .done c)) := by
  rw [await_of_pends pends] at next
  obtain ⟨x, hx, he⟩ := Option.map_eq_some_iff.mp next
  cases he
  refine ⟨rfl, (wake?_due hx).imp ?_ ?_⟩
  · rintro ⟨rfl, y, hy⟩
    exact ⟨y, hy, by simp only [hy, Option.elim_some, bind]⟩
  · rintro ⟨ne, cut⟩
    cases x with
    | ready => exact absurd rfl ne
    | cancelled => exact ⟨cut, a, .inl rfl, rfl⟩
    | expired => exact ⟨cut, b, .inr rfl, rfl⟩

theorem run_giveUp_await (pends : d.Pends) (cut : d.CutOff start key deadline w.toMoment) :
    ∃ c, (c = a ∨ c = b) ∧
      (((d.await start).bind g).giveUp key deadline a b).run w = (w, .done c) := by
  obtain ⟨x, hx, ne⟩ := cut.wake?_due (σ := σ)
  rw [await_of_pends pends]
  simp only [bind, giveUp, run, hx]
  cases x with
  | ready => exact absurd rfl ne
  | cancelled => exact ⟨a, .inl rfl, rfl⟩
  | expired => exact ⟨b, .inr rfl, rfl⟩

end Task

end TokenChain
