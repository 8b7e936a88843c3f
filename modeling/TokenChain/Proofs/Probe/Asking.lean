import Mathlib.Tactic.SplitIfs
import TokenChain.Proofs.Task.Stepwise
import TokenChain.Probe.Gate

/-! # Asking at a gate

`ProbeState.Asks` describes what is left of a call that asks at a gate and has no answer yet, by the
state of the gate. The next step of such a call claims the probe, or changes nothing (`Asks.next`);
a call that is dropped changes nothing (`Asks.drop`); and no call waits at a gate that is settled
(`Asks.run`).

A gate only moves on (`ProbeState.Onward`), and what is left of a call still fits when it has
(`Asks.onward`). -/

namespace TokenChain.ProbeState

open TokenChain.Task

/-! ### How a gate moves -/

/-- One move of a gate, if it moves at all. -/
inductive Onward : ProbeState → ProbeState → Prop
  | stay (g : ProbeState) : Onward g g
  | claim : Onward untested inFlight
  | settle {g : ProbeState} (settled : g.isSettled = true) : Onward inFlight g

variable {g g' : ProbeState}

theorem Onward.eq_of_isSettled (h : Onward g g') (settled : g.isSettled = true) : g' = g := by
  cases h with
  | stay => rfl
  | claim => cases settled
  | settle => cases settled

theorem Onward.ne_untested (h : Onward g g') (tested : g ≠ untested) : g' ≠ untested := by
  cases h with
  | stay => exact tested
  | claim => exact nofun
  | settle settled =>
    rintro rfl
    cases settled

theorem of_isSettled (h : g.isSettled = true) : g = succeeded ∨ ∃ reason, g = failed reason := by
  cases g with
  | succeeded => exact .inl rfl
  | failed reason => exact .inr ⟨reason, rfl⟩
  | untested | inFlight => cases h

theorem isSettled.ne_untested (h : g.isSettled = true) : g ≠ untested := by
  rintro rfl
  cases h

theorem onward_settle {outcome : ProbeState} (h : outcome.isSettled = true) (g : ProbeState) :
    Onward g (settle outcome g) := by
  cases g with
  | inFlight => exact .settle h
  | untested | succeeded | failed => exact .stay _

/-- The admissions of a settled gate. -/
theorem admission_eq_opened (settled : g.isSettled = true) (h : g.admission = .opened) :
    g = succeeded := by
  rcases of_isSettled settled with rfl | ⟨reason, rfl⟩
  · rfl
  · cases h

theorem admission_eq_closed {reason : String} (h : g.admission = .closed reason) :
    g = failed reason := by
  cases g with
  | failed r =>
    cases h
    rfl
  | untested | inFlight | succeeded => cases h

theorem admission_ne_probe (g : ProbeState) : g.admission ≠ .probe := by
  cases g <;> exact nofun

/-! ### What is left of a call -/

/-- What a call does when the gate is settled. -/
def learn : Task ProbeState (Except Error Admission) := .step id fun s => .done (.ok s.admission)

/-- Waits until the gate is settled. -/
def hold : Task ProbeState (Except Error Admission) := .wait { ready := isSettled } fun _ => learn

/-- What is left of a call that has no answer yet, by the state of the gate. -/
inductive Asks (r : Request) (credential : String) (g : ProbeState) :
    Task ProbeState (Except Error Admission) → Prop
  /-- It has not begun. -/
  | arriving : Asks r credential g (consult r credential)
  /-- It does not have the probe, and is about to look whether its request was cancelled. -/
  | checking (tested : g ≠ untested) : Asks r credential g (r.within credential none hold)
  /-- It waits for the outcome of the probe. -/
  | waiting (tested : g ≠ untested) {deadline : Option Instant} {m m' : String} :
      Asks r credential g
        (hold.giveUp r.cancel deadline (.error (.timeout credential m))
          (.error (.timeout credential m')))
  /-- It has been woken by the outcome. -/
  | learning (settled : g.isSettled = true) : Asks r credential g learn
  /-- It has given up. -/
  | leaving (tested : g ≠ untested) (m : String) :
      Asks r credential g (.step id fun _ => .done (.error (.timeout credential m)))

variable {r : Request} {credential : String} {t u : Task ProbeState (Except Error Admission)}
  {w w' : World ProbeState}

theorem Asks.onward (h : Asks r credential g t) (on : Onward g g') : Asks r credential g' t := by
  cases h with
  | arriving => exact .arriving
  | checking tested => exact .checking (on.ne_untested tested)
  | waiting tested => exact .waiting (on.ne_untested tested)
  | learning settled => exact .learning (by rw [on.eq_of_isSettled settled]; exact settled)
  | leaving tested m => exact .leaving (on.ne_untested tested) m

theorem Asks.ne_done (h : Asks r credential g t) (a : Except Error Admission) : t ≠ .done a := by
  cases h <;> exact nofun

/-- The answers to a call that does not get the probe. -/
inductive Answered (credential : String) (g : ProbeState) :
    Task ProbeState (Except Error Admission) → Prop
  | admitted (settled : g.isSettled = true) : Answered credential g (.done (.ok g.admission))
  | gaveUp (m : String) : Answered credential g (.done (.error (.timeout credential m)))

theorem of_wake?_hold {key : CancelKey} {deadline : Option Instant} {x : Wake}
    (h : Wait.wake? { ready := isSettled, cancel := some key, deadline } w = some x) :
    x = .ready → w.state.isSettled = true := by
  rintro rfl
  simp only [Wait.wake?, Option.any_some, Option.any_none, Bool.or_false] at h
  split_ifs at h with hc hs hd
  · cases h
  · exact hs
  · cases h

/-- **The next step of a call** claims the probe, or changes nothing and brings it closer to an
answer. -/
theorem Asks.next (h : Asks r credential w.state t) (next : t.next? w = some (w', u)) :
    (w.state = untested ∧ w'.state = inFlight ∧ u = .done (.ok .probe)) ∨
      (w'.state = w.state ∧ (Asks r credential w.state u ∨ Answered credential w.state u)) := by
  cases h with
  | arriving =>
    cases next
    by_cases hu : w.state = untested
    · refine .inl ⟨hu, ?_, if_pos hu⟩
      show w.state.claim = _
      rw [hu]
      rfl
    · refine .inr ⟨?_, .inl ?_⟩
      · show w.state.claim = _
        cases hs : w.state with
        | untested => exact absurd hs hu
        | inFlight | succeeded | failed => rfl
      · show Asks r credential w.state (if w.state = untested then _ else _)
        rw [if_neg hu]
        exact .checking hu
  | checking tested =>
    cases next
    refine .inr ⟨rfl, ?_⟩
    dsimp only
    split_ifs
    · exact .inr (.gaveUp _)
    · exact .inl (.waiting tested)
  | waiting tested =>
    obtain ⟨x, hx, he⟩ := Option.map_eq_some_iff.mp next
    cases he
    refine .inr ⟨rfl, .inl ?_⟩
    cases x with
    | ready => exact .learning (of_wake?_hold hx rfl)
    | cancelled => exact .leaving tested _
    | expired => exact .leaving tested _
  | learning settled =>
    cases next
    exact .inr ⟨rfl, .inr (.admitted settled)⟩
  | leaving tested m =>
    cases next
    exact .inr ⟨rfl, .inr (.gaveUp m)⟩

/-- **A call that is dropped** changes nothing. -/
theorem Asks.drop (h : Asks r credential g t) (dropped : t.drop? w = some w') :
    w'.state = w.state := by
  cases h with
  | waiting tested =>
    cases dropped
    rfl
  | arriving | checking | learning | leaving => cases dropped

/-- **No call waits** at a gate that is settled. -/
theorem Asks.run (h : Asks r credential g t) (settled : w.state.isSettled = true) :
    ∃ x, t.run w = (w, .done x) := by
  have awake : ∀ {deadline : Option Instant} {m m' : String}, ∃ x,
      (hold.giveUp r.cancel deadline (.error (.timeout credential m))
        (.error (.timeout credential m'))).run w = (w, .done x) := by
    intro deadline m m'
    simp only [hold, giveUp, Task.run, Wait.wake?, Option.any_some, settled, Bool.true_or, if_true]
    cases w.cancelled r.cancel with
    | true => exact ⟨_, rfl⟩
    | false => exact ⟨_, rfl⟩
  have checked : ∃ x, (r.within credential none hold).run w = (w, .done x) := by
    simp only [Request.within, Task.run]
    cases w.cancelled r.cancel with
    | true => exact ⟨_, rfl⟩
    | false => exact awake
  cases h with
  | arriving =>
    have same : w.state.claim = w.state := by
      cases hs : w.state with
      | untested => exact absurd hs (isSettled.ne_untested settled)
      | inFlight | succeeded | failed => rfl
    simp only [consult, Task.run, if_neg (isSettled.ne_untested settled), same]
    exact checked
  | checking tested => exact checked
  | waiting tested => exact awake
  | learning _ => exact ⟨_, rfl⟩
  | leaving tested m => exact ⟨_, rfl⟩

end TokenChain.ProbeState
