import TokenChain.Proofs.Schedule.Solo
import TokenChain.Proofs.Task.Interruption

/-! # How a lone task comes out

The only task of a schedule comes out with an ending in a world (`Task.ComesOut`), or it stalls
(`Task.Stalls`), and only in one way (`ComesOut.unique`, `Stalls.not_comesOut`). It comes out as
what is left of it on its way does (`Comes.comesOut_iff`).

A task that is patient waits for the state or for an instant alone, so a wait of it is over at once,
or at its instant, or never (`Wait.IsPatient.over_of_come`, `Wait.IsPatient.over_of_due`,
`Wait.IsPatient.idle`). What is left of such a task where it waits comes out after the instant that
it waits for (`Patient.lt_of_comesOut`). -/

namespace TokenChain

variable {σ α : Type}

/-- A schedule with a single task, which begins. -/
def Schedule.single (t : Task σ α) (w : World σ) : Schedule σ α :=
  { world := w, queue := [.ofTask 0 none t] }

namespace Task

/-- **A lone task comes out**: it is over from some turn on, with the clock, the log and the state
of a world, and nothing happens any more. -/
def ComesOut (t : Task σ α) (w : World σ) (ending : Ending α) (w' : World σ) : Prop :=
  ∃ n, ∀ turns, n < turns → ((Schedule.single t w).runTo none turns).Over 0 ending w'

/-- **A lone task stalls**: after any number of turns from some on it is not over. -/
def Stalls (t : Task σ α) (w : World σ) : Prop :=
  ∃ n, ∀ turns, n < turns → ((Schedule.single t w).runTo none turns).finished = []

variable {t u : Task σ α} {w w₁ v v' : World σ} {e e' : Ending α} {n : Nat}

theorem ComesOut.unique (h : t.ComesOut w e v) (h' : t.ComesOut w e' v') :
    e = e' ∧ v.now = v'.now ∧ v.log = v'.log ∧ v.state = v'.state := by
  obtain ⟨n, ended⟩ := h
  obtain ⟨m, ended'⟩ := h'
  have first := ended (n + m + 1) (by omega)
  have second := ended' (n + m + 1) (by omega)
  have same := first.finished.symm.trans second.finished
  simp only [List.cons.injEq, Finish.mk.injEq, and_true, true_and] at same
  exact ⟨same.1, same.2, first.log.symm.trans second.log, first.state.symm.trans second.state⟩

theorem ComesOut.congr (h : t.ComesOut w e v) (now : v'.now = v.now) (log : v'.log = v.log)
    (state : v'.state = v.state) : t.ComesOut w e v' := by
  obtain ⟨n, ended⟩ := h
  refine ⟨n, fun turns enough => ?_⟩
  obtain ⟨finished, state', now', log'⟩ := ended turns enough
  exact ⟨now ▸ finished, state'.trans state.symm, now'.trans now.symm, log'.trans log.symm⟩

theorem Stalls.not_comesOut (h : t.Stalls w) : ¬ t.ComesOut w e v := by
  obtain ⟨n, idle⟩ := h
  rintro ⟨m, ended⟩
  have none := idle (n + m + 1) (by omega)
  rw [(ended (n + m + 1) (by omega)).finished] at none
  cases none

theorem Comes.comesOut_of_done {a : α} (h : t.Comes n w (done a) v) : t.ComesOut w (.value a) v :=
  ⟨n, fun _ => Schedule.over_of_done h 0⟩

theorem Comes.comesOut_of_crash (h : t.Comes n w crash v) : t.ComesOut w .crashed v :=
  ⟨n, fun _ => Schedule.over_of_crash h 0⟩

theorem Comes.runTo_single (h : t.Comes n w u w₁) (turns : Nat) :
    (Schedule.single t w).runTo none (turns + n + 1) =
      (Schedule.single u w₁).runTo none (turns + 1) := by
  rw [Schedule.single, Schedule.single, Schedule.runTo_begin, Schedule.runTo_begin,
    Schedule.runTo_comes h]

theorem Comes.comesOut_iff (h : t.Comes n w u w₁) : t.ComesOut w e v ↔ u.ComesOut w₁ e v := by
  constructor
  · rintro ⟨m, ended⟩
    refine ⟨m, fun turns enough => ?_⟩
    obtain ⟨rest, rfl⟩ := Nat.exists_eq_add_one_of_ne_zero (Nat.ne_zero_of_lt enough)
    rw [← h.runTo_single]
    exact ended _ (by omega)
  · rintro ⟨m, ended⟩
    refine ⟨m + n, fun turns enough => ?_⟩
    obtain ⟨rest, rfl⟩ : ∃ rest, turns = rest + n + 1 := ⟨turns - n - 1, by omega⟩
    rw [h.runTo_single]
    exact ended _ (by omega)

theorem Comes.stalls (h : t.Comes n w u w₁) (stalls : u.Stalls w₁) : t.Stalls w := by
  obtain ⟨m, idle⟩ := stalls
  refine ⟨m + n, fun turns enough => ?_⟩
  obtain ⟨rest, rfl⟩ : ∃ rest, turns = rest + n + 1 := ⟨turns - n - 1, by omega⟩
  rw [h.runTo_single]
  exact idle _ (by omega)

end Task

/-! ### Waits of patient tasks -/

namespace Wait

variable {q : Wait σ} {w : World σ} {d : Instant}

/-- Whether what is waited for has come. -/
def come (q : Wait σ) (w : World σ) : Bool :=
  q.ready w.state || q.due.any fun t => decide (t ≤ w.now)

/-- A wait that nothing ends any more. -/
structure Idle (q : Wait σ) (w : World σ) : Prop where
  asleep : q.wake? w = none
  still : q.wake? w.cancelDue = none
  silent : q.alarm? w.cancelDue = none

/-- A wait for the state or for an instant alone. -/
structure IsPatient (q : Wait σ) : Prop where
  cancel : q.cancel = none
  deadline : q.deadline = none

theorem come_eq_false_iff :
    q.come w = false ↔ q.ready w.state = false ∧ ∀ d, q.due = some d → w.now < d := by
  rw [come, Bool.or_eq_false_iff, Option.any_eq_false]
  refine and_congr_right fun _ => forall₂_congr fun d _ => ?_
  rw [decide_eq_false_iff_not]
  exact Int.not_le

theorem IsPatient.wake?_eq (h : q.IsPatient) (w : World σ) :
    q.wake? w = if q.come w then some .ready else none := by
  rw [wake?, h.cancel, h.deadline]
  rfl

theorem IsPatient.alarm?_eq (h : q.IsPatient) (w : World σ) :
    q.alarm? w = q.due.map Instant.ceilMilli := by
  rw [alarm?, alarms, h.cancel, h.deadline]
  cases q.due <;> rfl

theorem IsPatient.asleep (h : q.IsPatient) (rests : q.come w = false) : q.wake? w = none := by
  rw [h.wake?_eq, rests]
  rfl

theorem IsPatient.over_of_come (h : q.IsPatient) (come : q.come w = true) :
    q.Over w 0 .ready w := by
  refine .now ?_
  rw [h.wake?_eq, come]
  rfl

theorem IsPatient.over_of_due (h : q.IsPatient) (rests : q.come w = false) (due : q.due = some d) :
    q.Over w 2 .ready (w.cancelDue.advance d.ceilMilli) := by
  refine .rings (h.asleep rests) (h.asleep (w := w.cancelDue) rests) ?_ ?_
  · rw [h.alarm?_eq, due]
    rfl
  · have come : q.come (w.cancelDue.advance d.ceilMilli) = true := by
      rw [come, due, Option.any_some]
      exact Bool.or_eq_true_iff.mpr (.inr (decide_eq_true d.le_ceilMilli))
    rw [h.wake?_eq, come]
    rfl

theorem IsPatient.idle (h : q.IsPatient) (rests : q.come w = false) (due : q.due = none) :
    q.Idle w where
  asleep := h.asleep rests
  still := h.asleep (w := w.cancelDue) rests
  silent := by rw [h.alarm?_eq, due]; rfl

end Wait

namespace Task

variable {t : Task σ α} {q : Wait σ} {k : Wake → Task σ α} {w v : World σ}
  {e : Ending α} {stop : Instant}

theorem stalls_of_idle (idle : q.Idle w) : (wait q k).Stalls w := by
  refine ⟨1, fun turns enough => ?_⟩
  obtain ⟨rest, rfl⟩ : ∃ rest, turns = rest + 1 + 1 := ⟨turns - 2, by omega⟩
  have begun : Schedule.solo 0 ((wait q k).run w) = Schedule.parked ⟨0, none, q, k⟩ w := by
    rw [run, idle.asleep]
    rfl
  have due : (Schedule.parked ⟨0, none, q, k⟩ w).cancelDue =
      Schedule.parked ⟨0, none, q, k⟩ w.cancelDue :=
    Schedule.rouse_parked_asleep (Schedule.isAwake_of_asleep idle.still)
  rw [Schedule.single, Schedule.runTo_begin, begun, Schedule.runTo, Schedule.parked]
  dsimp only
  rw [← Schedule.parked, due, Schedule.nextAlarm_parked rfl, idle.silent]
  rfl

/-- **Where a patient task comes to**: it comes out, or rests for ever, and the clock has not gone
back. -/
theorem Patient.exists_comes (patient : t.Patient) (w : World σ) :
    ∃ n u v, t.Comes n w u v ∧ w.now ≤ v.now ∧
      ((∃ a, u = done a) ∨ u = crash ∨ ∃ q k, u = wait q k ∧ q.Idle v) := by
  induction t generalizing w with
  | done a => exact ⟨0, _, w, .refl .., Int.le_refl _, .inl ⟨a, rfl⟩⟩
  | crash => exact ⟨0, _, w, .refl .., Int.le_refl _, .inr (.inl rfl)⟩
  | look k ih =>
    obtain ⟨n, u, v, comes, later, shape⟩ := ih w.toMoment (patient _) w
    exact ⟨n, u, v, .look comes, later, shape⟩
  | note e k ih =>
    obtain ⟨n, u, v, comes, later, shape⟩ := ih patient (w.append e)
    exact ⟨n, u, v, .note comes, later, shape⟩
  | step f k ih =>
    obtain ⟨n, u, v, comes, later, shape⟩ := ih w.state (patient _) { w with state := f w.state }
    exact ⟨n, u, v, .step comes, later, shape⟩
  | wait q k ih =>
    obtain ⟨cancel, deadline, patient⟩ := patient
    have waits : q.IsPatient := ⟨cancel, deadline⟩
    cases come : q.come w with
    | true =>
      obtain ⟨n, u, v, comes, later, shape⟩ := ih .ready (patient _) w
      exact ⟨_, u, v, .wait (waits.over_of_come come) comes, later, shape⟩
    | false =>
      cases due : q.due with
      | none =>
        exact ⟨0, _, w, .refl .., Int.le_refl _, .inr (.inr ⟨q, k, rfl, waits.idle come due⟩)⟩
      | some d =>
        obtain ⟨n, u, v, comes, later, shape⟩ :=
          ih .ready (patient _) (w.cancelDue.advance d.ceilMilli)
        have before : w.now ≤ d.ceilMilli :=
          Int.le_trans (Int.le_of_lt ((Wait.come_eq_false_iff.mp come).2 d due)) d.le_ceilMilli
        exact ⟨_, u, v, .wait (waits.over_of_due come due) comes, Int.le_trans before later, shape⟩

theorem Patient.le_of_comesOut (patient : t.Patient) (h : t.ComesOut w e v) : w.now ≤ v.now := by
  obtain ⟨n, u, v', comes, later, ⟨a, rfl⟩ | rfl | ⟨q, k, rfl, idle⟩⟩ := patient.exists_comes w
  · rwa [← (comes.comesOut_of_done.unique h).2.1]
  · rwa [← (comes.comesOut_of_crash.unique h).2.1]
  · exact absurd h (comes.stalls (stalls_of_idle idle)).not_comesOut

theorem Patient.lt_of_comesOut (patient : (wait q k).Patient) (asleep : q.wake? w = none)
    (ahead : ∀ due, q.due = some due → stop < due) (h : (wait q k).ComesOut w e v) :
    stop < v.now := by
  obtain ⟨cancel, deadline, patient⟩ := patient
  have waits : q.IsPatient := ⟨cancel, deadline⟩
  have rests : q.come w = false := by
    rw [waits.wake?_eq, ite_eq_right_iff] at asleep
    exact Bool.eq_false_iff.mpr fun come => by cases asleep come
  cases due : q.due with
  | none => exact absurd h (stalls_of_idle (waits.idle rests due)).not_comesOut
  | some d =>
    have rest : (k .ready).ComesOut (w.cancelDue.advance d.ceilMilli) e v :=
      (Comes.wait (waits.over_of_due rests due) (.refl ..)).comesOut_iff.mp h
    have later : d.ceilMilli ≤ v.now := (patient .ready).le_of_comesOut rest
    exact Int.lt_of_lt_of_le (ahead d due) (Int.le_trans d.le_ceilMilli later)

end Task

end TokenChain
