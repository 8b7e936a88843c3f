import TokenChain.Proofs.Schedule.Turns
import TokenChain.Proofs.Task.Service

/-! # Jobs that are over in time

A job that waits for nothing beyond a certain instant (`Task.Heeds`) is over by then, whatever the
other jobs in the schedule do: as long as it is not, the clock has not passed the instant and
something can still happen (`Schedule.OnTime.inTime`). What carries the proof is `Schedule.OnTime`,
kept by each turn (`OnTime.turn`): a job that waits has an alarm, and the clock does not move beyond
it. -/

namespace TokenChain

variable {σ α : Type} {cancelAt : CancelKey → Option Instant} {late : Instant}

/-- The instant is a whole number of milliseconds. -/
def Instant.IsWhole (t : Instant) : Prop := t.ceilMilli = t

theorem Task.Heeds.run {t : Task σ α} (h : t.Heeds cancelAt late) {w w' : World σ}
    (now : w.now ≤ late) {v : Wait σ} {k : Wake → Task σ α} (run : t.run w = (w', .waiting v k)) :
    (Task.wait v k).Heeds cancelAt late := by
  induction t generalizing w with
  | done a => cases run
  | crash => cases run
  | look q ih => exact ih _ (h _ now) now run
  | note e q ih => exact ih h (w := w.append e) now run
  | step f q ih => exact ih w.state (h _) (w := { w with state := f w.state }) now run
  | wait u q ih =>
    rw [Task.run] at run
    cases wakes : u.wake? w with
    | none =>
      rw [wakes] at run
      cases run
      exact h
    | some x =>
      rw [wakes] at run
      exact ih x (h.2 x) now run

/-- A job can go on at once or is woken by the given instant, and so it is as long as it waits. -/
def Job.Heeds (job : Job σ α) (cancelAt : CancelKey → Option Instant) (late : Instant) : Prop :=
  ((∀ s, job.wait.ready s = true) ∨
    ∃ t ≤ late, job.wait.due = some t ∨ job.wait.deadline = some t ∨
    job.wait.cancel.bind cancelAt = some t) ∧
  ∀ x, (job.resume x).Heeds cancelAt late

/-- Cancellations have taken place, or will at the instants that are given. -/
def World.Cancels (w : World σ) (cancelAt : CancelKey → Option Instant) : Prop :=
  ∀ key t, cancelAt key = some t → w.cancelAt key = some t ∨ w.cancelled key = true

theorem World.cancels_none (w : World σ) : w.Cancels fun _ => none := fun _ _ appointed => by
  cases appointed

theorem Job.Heeds.alarm {job : Job σ α} {w : World σ} (h : job.Heeds cancelAt late)
    (cancels : w.Cancels cancelAt) (asleep : job.isAwake w = false) :
    ∃ a ≤ late, a ∈ job.alarms w := by
  have silent : (job.wait.wake? w).isSome = false := (Bool.or_eq_false_iff.mp asleep).1
  simp only [Wait.isSome_wake?, Bool.or_eq_false_iff] at silent
  simp only [Job.alarms, Wait.alarms, List.mem_append, Option.mem_toList]
  rcases h.1 with ready | ⟨a, ha, due | deadline | cancel⟩
  · rw [ready] at silent
    cases silent.1.2.1
  · exact ⟨a, ha, .inl (.inl (.inl due))⟩
  · exact ⟨a, ha, .inl (.inl (.inr deadline))⟩
  · obtain ⟨key, listens, appointed⟩ := Option.bind_eq_some_iff.mp cancel
    rcases cancels key a appointed with at_a | cancelled
    · exact ⟨a, ha, .inl (.inr (by rw [listens, Option.bind_some, at_a]))⟩
    · rw [listens, Option.any_some, cancelled] at silent
      cases silent.1.1

theorem Job.Goes.heeds {job job' : Job σ α} {w w' : World σ} (goes : job.Goes w w' (.waits job'))
    (h : job.Heeds cancelAt late) (now : w.now ≤ late) : job'.Heeds cancelAt late := by
  cases goes with
  | sleeps => exact h
  | @waits x _ _ _ _ run =>
    have waits := (h.2 x).run now run
    exact ⟨.inr waits.1, waits.2⟩

namespace Schedule

/-- A job is not over. -/
def Runs (s : Schedule σ α) (id : Nat) : Prop := ∃ job ∈ s.jobs, job.id = id

/-- A job is over since the given instant. -/
def Ended (s : Schedule σ α) (id : Nat) (t : Instant) : Prop :=
  ∃ f ∈ s.finished, f.id = id ∧ f.time = t

/-- No job has the number. -/
structure Free (s : Schedule σ α) (id : Nat) : Prop where
  runs : ¬ s.Runs id
  ended : ∀ t, ¬ s.Ended id t

theorem Turn.runs_or_ended {who : Option Nat} {s s' : Schedule σ α}
    (turn : Turn who s s') {id : Nat} (h : s.Runs id ∨ ∃ t, s.Ended id t) :
    s'.Runs id ∨ ∃ t, s'.Ended id t := by
  rcases h with ⟨job, mem, rfl⟩ | ⟨t, f, mem, hid, ht⟩
  · cases turn.turned with
    | clock _ same => exact .inl ⟨job, same.mem_iff.mpr mem, rfl⟩
    | @job _ _ other rest fate _ before goes after finished =>
      rcases List.mem_cons.mp (before.mem_iff.mp mem) with rfl | mem
      · cases fate with
        | waits job' => exact .inl ⟨job', after.mem_iff.mpr List.mem_cons_self, goes.same.1⟩
        | ends ending =>
          exact .inr
            ⟨_, _, finished ▸ List.mem_append_right _ (List.mem_singleton.mpr rfl), rfl, rfl⟩
      · exact .inl ⟨job, after.mem_iff.mpr (List.mem_append_right _ mem), rfl⟩
  · cases turn.turned with
    | clock _ _ finished => exact .inr ⟨t, f, finished ▸ mem, hid, ht⟩
    | job _ _ _ _ finished => exact .inr ⟨t, f, finished ▸ List.mem_append_left _ mem, hid, ht⟩

theorem runs_or_ended_of_comesTo {s s' : Schedule σ α} {id : Nat}
    (h : s.Runs id ∨ ∃ t, s.Ended id t) (comes : ComesTo s s') :
    s'.Runs id ∨ ∃ t, s'.Ended id t := by
  induction comes with
  | refl => exact h
  | tail _ turn ih =>
    obtain ⟨who, turn⟩ := turn
    exact turn.runs_or_ended ih

/-- **A job is on time**: as long as it is not over, the clock has not passed the instant by which
it is woken. -/
structure OnTime (cancelAt : CancelKey → Option Instant) (id : Nat) (late : Instant)
    (s : Schedule σ α) : Prop where
  now : s.Runs id → s.world.now ≤ late
  heeds : ∀ job ∈ s.jobs, job.id = id → job.Heeds cancelAt late
  cancels : s.world.Cancels cancelAt
  ended : ∀ t, s.Ended id t → t ≤ late

/-- A job that is on time has an alarm when everybody waits. -/
theorem OnTime.nextAlarm {id : Nat} {s : Schedule σ α}
    (h : s.OnTime cancelAt id late) (runs : s.Runs id) (asleep : s.cancelDue.queue = []) :
    ∃ t, s.cancelDue.nextAlarm = some t ∧ t ≤ late.ceilMilli := by
  obtain ⟨job, mem, hid⟩ := runs
  have blocked : job ∈ s.cancelDue.blocked := by
    have mem' := s.jobs_cancelDue.mem_iff.mpr mem
    rwa [jobs, asleep, List.nil_append] at mem'
  have cancels : s.cancelDue.world.Cancels cancelAt := fun key t appointed =>
    (h.cancels key t appointed).imp_right fun cancelled => Bool.or_eq_true_iff.mpr (.inl cancelled)
  obtain ⟨a, ha, rings⟩ := (h.heeds job mem hid).alarm cancels
    (settled_rouse { s with world := s.world.cancelDue } job blocked)
  obtain ⟨t, next, ht⟩ := nextAlarm_of_alarm blocked rings
  exact ⟨t, next, Int.le_trans ht (Instant.ceilMilli_mono ha)⟩

/-- **A turn** keeps a job on time. -/
theorem OnTime.turn {id : Nat} {s s' : Schedule σ α} (h : s.OnTime cancelAt id late)
    (whole : late.IsWhole) {who : Option Nat} (turn : Turn who s s') :
    s'.OnTime cancelAt id late := by
  have before : s'.Runs id → s.Runs id := by
    rintro ⟨job, mem, hid⟩
    rcases turn.origin mem with mem | ⟨earlier, mem, same, -⟩
    · exact ⟨job, mem, hid⟩
    · exact ⟨earlier, mem, same.trans hid⟩
  have heeds : ∀ job ∈ s'.jobs, job.id = id → job.Heeds cancelAt late := by
    intro job mem hid
    rcases turn.origin mem with mem | ⟨earlier, mem, same, goes⟩
    · exact h.heeds job mem hid
    · have own := same.trans hid
      exact goes.heeds (h.heeds earlier mem own) (h.now ⟨earlier, mem, own⟩)
  cases turn.turned with
  | @job _ _ job rest fate _ left goes after finished =>
    have still := goes.atOnce
    refine ⟨fun runs => ?_, heeds, ?_, ?_⟩
    · rw [still.now]
      exact h.now (before runs)
    · rw [World.Cancels, still.cancelAt, still.cancelled]
      exact h.cancels
    · rintro t ⟨f, hf, hid, rfl⟩
      rw [finished] at hf
      rcases List.mem_append.mp hf with hf | hf
      · exact h.ended _ ⟨f, hf, hid, rfl⟩
      · cases fate with
        | waits job' => cases hf
        | ends ending =>
          cases List.mem_singleton.mp hf
          show s'.world.now ≤ late
          rw [still.now]
          exact h.now ⟨job, left.mem_iff.mpr List.mem_cons_self, hid⟩
  | clock idle same finished state kept cancelled now =>
    refine ⟨fun runs => ?_, heeds, fun key t appointed => ?_,
      fun t ⟨f, hf, ht⟩ => h.ended t ⟨f, finished ▸ hf, ht⟩⟩
    · rcases now with now | ⟨asleep, alarm⟩
      · rw [now]
        exact h.now (before runs)
      · -- the clock moves to the first alarm, and the job has one that is not late
        obtain ⟨t, next, ht⟩ := h.nextAlarm (before runs) asleep
        rw [alarm] at next
        cases next
        rwa [whole] at ht
    · rw [kept]
      exact (h.cancels key t appointed).imp_right (cancelled key)

theorem OnTime.comesTo {id : Nat} {s s' : Schedule σ α} (h : s.OnTime cancelAt id late)
    (whole : late.IsWhole) (comes : ComesTo s s') : s'.OnTime cancelAt id late := by
  induction comes with
  | refl => exact h
  | tail _ turn ih =>
    obtain ⟨who, turn⟩ := turn
    exact ih.turn whole turn

/-- **Something can still happen** as long as a job that is on time is not over. -/
theorem OnTime.not_runs_of_atRest {id : Nat} {s : Schedule σ α}
    (h : s.OnTime cancelAt id late) (rest : s.AtRest) : ¬ s.Runs id := by
  intro runs
  obtain ⟨t, next, -⟩ := h.nextAlarm runs rest.asleep
  rw [rest.silent] at next
  cases next

/-- A job is over by the given instant, or the instant has not passed and something can still
happen. -/
def InTime (id : Nat) (late : Instant) (s : Schedule σ α) : Prop :=
  (∃ t ≤ late, s.Ended id t) ∨ (s.Runs id ∧ s.world.now ≤ late ∧ ∃ who s', Turn who s s')

/-- **A job that is on time is over in time.** -/
theorem OnTime.inTime {id : Nat} {s s' : Schedule σ α} (h : s.OnTime cancelAt id late)
    (whole : late.IsWhole) (runs : s.Runs id) (comes : ComesTo s s') : s'.InTime id late := by
  have onTime := h.comesTo whole comes
  rcases runs_or_ended_of_comesTo (.inl runs) comes with runs | ⟨t, ended⟩
  · exact .inr ⟨runs, onTime.now runs,
      s'.atRest_or_turn.resolve_left fun rest => onTime.not_runs_of_atRest rest runs⟩
  · exact .inl ⟨t, onTime.ended t ended, ended⟩

/-- When everything has come to rest, a job that was on time is over. -/
theorem OnTime.ended_of_atRest {id : Nat} {s s' : Schedule σ α} (h : s.OnTime cancelAt id late)
    (whole : late.IsWhole) (runs : s.Runs id) (comes : ComesTo s s') (rest : s'.AtRest) :
    ∃ t ≤ late, s'.Ended id t := by
  have onTime := h.comesTo whole comes
  obtain ⟨t, ended⟩ :=
    (runs_or_ended_of_comesTo (.inl runs) comes).resolve_left (onTime.not_runs_of_atRest rest)
  exact ⟨t, onTime.ended t ended, ended⟩

theorem Free.onTime {s : Schedule σ α} {id : Nat} (free : s.Free id) (now : s.world.now ≤ late)
    (abortAt : Option Instant) (cancels : s.world.Cancels cancelAt) {task : Task σ α}
    (heeds : task.Heeds cancelAt late) :
    (s.add (.ofTask id abortAt task)).OnTime cancelAt id late where
  now _ := now
  cancels := cancels
  heeds job mem hid := by
    rcases List.mem_cons.mp ((s.jobs_add _).mem_iff.mp mem) with rfl | mem
    · exact ⟨.inl fun _ => rfl, fun _ => heeds⟩
    · exact absurd ⟨job, mem, hid⟩ free.runs
  ended t h := absurd h (free.ended t)

theorem runs_add (s : Schedule σ α) (job : Job σ α) : (s.add job).Runs job.id :=
  ⟨job, (s.jobs_add job).mem_iff.mpr List.mem_cons_self, rfl⟩

end Schedule

end TokenChain
