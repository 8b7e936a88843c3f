import TokenChain.Proofs.Schedule.Turns
import TokenChain.Proofs.Task.Service

/-! # Schedules come to rest

Jobs that wait only so often (`Schedule.Weighs`) take only so many turns. A job that goes on uses up
a wait, or is over. But a job may be woken in vain, if another one that goes on before it undoes
what it has waited for; and between two jobs that go on the clock may have to move and cancellations
to take place. The rank of a schedule (`Schedule.rank`) counts down what can happen before a wait is
used up: `Turn.descends`.

So every run comes to rest (`exists_atRest`), and `runTo` does if it may take enough turns
(`runTo_atRest`). -/

namespace TokenChain

variable {σ α : Type}

/-- A job waits no more than so often, counting the wait that it is in. -/
def Job.IsPatient (job : Job σ α) (n : Nat) : Prop :=
  ∃ m < n, ∀ x, (job.resume x).Waits (fun _ _ => True) m

namespace Schedule

/-! ### The weight of jobs -/

/-- Jobs wait no more than so often together. -/
def Weighs : List (Job σ α) → Nat → Prop
  | [], _ => True
  | job :: jobs, n => ∃ m k, m + k ≤ n ∧ job.IsPatient m ∧ Weighs jobs k

theorem Weighs.mono {jobs : List (Job σ α)} {n n' : Nat} (h : Weighs jobs n) (le : n ≤ n') :
    Weighs jobs n' := by
  cases jobs with
  | nil => trivial
  | cons job jobs =>
    obtain ⟨m, k, sum, patient, rest⟩ := h
    exact ⟨m, k, Nat.le_trans sum le, patient, rest⟩

theorem Weighs.perm {jobs jobs' : List (Job σ α)} (perm : jobs.Perm jobs') {n : Nat}
    (h : Weighs jobs n) : Weighs jobs' n := by
  induction perm generalizing n with
  | nil => trivial
  | cons job _ ih =>
    obtain ⟨m, k, sum, patient, rest⟩ := h
    exact ⟨m, k, sum, patient, ih rest⟩
  | swap a b jobs =>
    obtain ⟨m, k, sum, patient, m', k', sum', patient', rest⟩ := h
    exact ⟨m', m + k', by omega, patient', m, k', Nat.le_refl _, patient, rest⟩
  | trans _ _ ih ih' => exact ih' (ih h)

theorem Weighs.cons {jobs : List (Job σ α)} {n m : Nat} (h : Weighs jobs n) {job : Job σ α}
    (patient : job.IsPatient m) : Weighs (job :: jobs) (m + n) := ⟨m, n, Nat.le_refl _, patient, h⟩

theorem weighs_of_forall {jobs : List (Job σ α)} {n : Nat}
    (patient : ∀ job ∈ jobs, job.IsPatient n) : Weighs jobs (jobs.length * n) := by
  induction jobs with
  | nil => trivial
  | cons job jobs ih =>
    obtain ⟨first, rest⟩ := List.forall_mem_cons.mp patient
    refine ⟨n, jobs.length * n, ?_, first, ih rest⟩
    rw [List.length_cons, Nat.add_mul, Nat.one_mul]
    omega

end Schedule

/-! ### Turns that use up a wait -/

theorem Task.Waits.run {Quiet : σ → σ → Prop} {t : Task σ α} {n : Nat} (h : t.Waits Quiet n)
    {w w' : World σ} {v : Wait σ} {k : Wake → Task σ α} (run : t.run w = (w', .waiting v k)) :
    (Task.wait v k).Waits Quiet n := by
  induction t generalizing n w with
  | done a => cases run
  | crash => cases run
  | look q ih => exact ih _ (h _) run
  | note e q ih => exact ih h run
  | step f q ih => exact ih _ (h _) run
  | wait u q ih =>
    rw [Task.run] at run
    cases wakes : u.wake? w with
    | none =>
      rw [wakes] at run
      cases run
      exact h
    | some x =>
      rw [wakes] at run
      obtain ⟨-, m, hm, hq⟩ := h
      exact ih x ((hq x).mono (Nat.le_of_lt hm)) run

/-- **A job that has something to do** uses up a wait, or is over. -/
theorem Job.Goes.lighter {job : Job σ α} {w w' : World σ} {fate : Fate σ α}
    (goes : job.Goes w w' fate) (awake : job.isAwake w = true) {n : Nat} (patient : job.IsPatient n)
    {rest : List (Job σ α)} {k : Nat} (weighs : Schedule.Weighs rest k) :
    ∃ m < n, Schedule.Weighs (fate.jobs ++ rest) (m + k) := by
  obtain ⟨m, hm, waits⟩ := patient
  cases goes with
  | sleeps asleep =>
    rw [awake] at asleep
    cases asleep
  | aborted | ended | crashed | cut => exact ⟨m, hm, weighs.mono (Nat.le_add_left k m)⟩
  | @waits x _ v q _ run =>
    obtain ⟨-, m', hm', hq⟩ := (waits x).run run
    exact ⟨m, hm, m, k, Nat.le_refl _, ⟨m', hm', hq⟩, weighs⟩

namespace Schedule

/-- What can still happen before a wait is used up. -/
def rank (s : Schedule σ α) : Nat :=
  if s.queue.isEmpty then (if s.cancelDue.queue.isEmpty then 2 else 1)
  else if s.queue.all fun job => job.isAwake s.world then 0 else 2 + s.queue.length

theorem rank_le (s : Schedule σ α) : s.rank ≤ s.jobs.length + 2 := by
  rw [rank, jobs, List.length_append]
  split_ifs <;> omega

/-- Nobody is woken in vain as soon as jobs are woken from an empty queue. -/
theorem rank_rouse {s : Schedule σ α} (idle : s.queue = []) (woken : s.rouse.queue ≠ []) :
    s.rouse.rank = 0 := by
  have awake : (s.rouse.queue.all fun job => job.isAwake s.rouse.world) = true := by
    rw [rouse, idle, List.nil_append]
    exact List.all_eq_true.mpr fun job hjob => (List.mem_filter.mp hjob).2
  rw [rank, if_neg (by rwa [List.isEmpty_iff]), if_pos awake]

theorem rouse_of_settled {s : Schedule σ α} (settled : s.Settled) : s.rouse = s := by
  have none : (s.blocked.filter fun job => job.isAwake s.world) = [] :=
    List.filter_eq_nil_iff.mpr fun job hjob => by simp [settled job hjob]
  have all : (s.blocked.filter fun job => !job.isAwake s.world) = s.blocked :=
    List.filter_eq_self.mpr fun job hjob => by simp [settled job hjob]
  rw [rouse, none, all, List.append_nil]

theorem go_asleep {s : Schedule σ α} (settled : s.Settled)
    {before after : List (Job σ α)} {job : Job σ α} (asleep : job.isAwake s.world = false) :
    (outcome { s with queue := before ++ after } job.id s.world (.waits job)).rouse =
      { s with queue := before ++ after, blocked := s.blocked ++ [job] } := by
  refine rouse_of_settled fun other hother => ?_
  rcases List.mem_append.mp hother with hother | hother
  · exact settled other hother
  · rw [List.mem_singleton.mp hother]
    exact asleep

theorem rank_asleep {s : Schedule σ α} {before after : List (Job σ α)} {job : Job σ α}
    (queue : s.queue = before ++ job :: after) (asleep : job.isAwake s.world = false)
    (blocked : List (Job σ α)) : rank { s with queue := before ++ after, blocked } < s.rank := by
  have some_asleep : ¬ (s.queue.all fun job => job.isAwake s.world) = true := by
    rw [List.all_eq_true, queue]
    intro awake
    have := awake job (List.mem_append_right before List.mem_cons_self)
    rw [asleep] at this
    cases this
  have nonempty : ¬ s.queue.isEmpty = true := by
    rw [queue, List.isEmpty_iff, List.append_eq_nil_iff]
    exact fun h => List.cons_ne_nil _ _ h.2
  have length : s.queue.length = (before ++ after).length + 1 := by
    rw [queue, List.length_append, List.length_cons, List.length_append]
    omega
  rw [rank, rank, if_neg nonempty, if_neg some_asleep, length]
  dsimp only
  split_ifs <;> omega

/-! ### Turns of the clock -/

end Schedule

/-- **An alarm wakes its job**, at the latest when the cancellations that are due have taken
place. -/
theorem Job.awake_of_alarm {job : Job σ α} {w : World σ} {a : Instant}
    (rings : a ∈ job.alarms w) (due : a ≤ w.now) : job.isAwake w.cancelDue = true := by
  rw [Job.isAwake, Wait.isSome_wake?, Job.isOver]
  rw [Instant.le_iff] at due
  simp only [Job.alarms, Wait.alarms, List.mem_append, Option.mem_toList] at rings
  rcases rings with ((rings | rings) | rings) | rings
  · simp [rings, World.cancelDue, due]
  · simp [rings, World.cancelDue, due]
  · obtain ⟨key, cancel, appointed⟩ := Option.bind_eq_some_iff.mp rings
    simp [cancel, appointed, World.cancelDue, due]
  · simp [rings, World.cancelDue, due]

namespace Schedule

/-- The clock moves for somebody: a job is woken, or will be when the cancellations that are due
have taken place. -/
theorem woken_of_tick {s : Schedule σ α} {t : Instant} (alarm : s.nextAlarm = some t) :
    (s.setClock t).queue ≠ [] ∨ (s.setClock t).cancelDue.queue ≠ [] := by
  obtain ⟨job, blocked, a, rings, rfl⟩ := alarm_of_nextAlarm alarm
  have awake := Job.awake_of_alarm (w := s.world.advance a.ceilMilli) rings a.le_ceilMilli
  by_cases woken : (s.setClock a.ceilMilli).queue = []
  · right
    have mem : job ∈ (s.setClock a.ceilMilli).jobs :=
      (jobs_rouse { s with world := s.world.advance a.ceilMilli }).mem_iff.mpr
        (List.mem_append_right _ blocked)
    rw [jobs, woken, List.nil_append] at mem
    exact List.ne_nil_of_mem (List.mem_append_right _ (List.mem_filter.mpr ⟨mem, awake⟩))
  · exact .inl woken

/-! ### Coming to rest -/

/-- **A turn** uses up a wait or leaves less to happen before one is used up. -/
theorem Turn.descends {who : Option Nat} {s s' : Schedule σ α} (turn : Turn who s s')
    (settled : s.Settled) {n : Nat} (weighs : Weighs s.jobs n) :
    ((∃ m < n, Weighs s'.jobs m) ∨ (Weighs s'.jobs n ∧ s'.rank < s.rank)) ∧
      s'.jobs.length ≤ s.jobs.length := by
  cases turn with
  | @go _ before after job queue =>
    have left := jobs_go queue
    obtain ⟨w, fate, goes, resumed⟩ := exists_goes { s with queue := before ++ after } job
    have after_turn :=
      (jobs_rouse _).trans (jobs_outcome { s with queue := before ++ after } job.id w fate)
    rw [resumed]
    refine ⟨?_, ?_⟩
    · -- a job that was woken in vain uses up no wait, but leaves the queue
      cases awake : job.isAwake s.world with
      | true =>
        obtain ⟨m, k, sum, patient, rest⟩ := weighs.perm left
        obtain ⟨m', hm', lighter⟩ := goes.lighter awake patient rest
        exact .inl ⟨m' + k, by omega, lighter.perm after_turn.symm⟩
      | false =>
        right
        cases goes with
        | sleeps =>
          rw [go_asleep settled awake] at after_turn ⊢
          exact ⟨(weighs.perm left).perm after_turn.symm, rank_asleep queue awake _⟩
        | aborted _ late => simp [Job.isAwake, late] at awake
        | ended wakes | crashed wakes | waits wakes | cut wakes =>
          simp [Job.isAwake, wakes] at awake
    · rw [after_turn.length_eq, left.length_eq, List.length_append, List.length_cons]
      cases fate <;> simp [Fate.jobs, Nat.add_comm]
  | cancel idle woken =>
    refine ⟨.inr ⟨weighs.perm s.jobs_cancelDue.symm, ?_⟩, Nat.le_of_eq s.jobs_cancelDue.length_eq⟩
    have awake : s.cancelDue.rank = 0 :=
      rank_rouse (s := { s with world := s.world.cancelDue }) idle woken
    rw [awake, rank, if_pos (List.isEmpty_iff.mpr idle), if_neg (by rwa [List.isEmpty_iff])]
    exact Nat.zero_lt_one
  | @tick _ t idle asleep alarm =>
    have same : (s.cancelDue.setClock t).jobs.Perm s.jobs := (jobs_rouse _).trans s.jobs_cancelDue
    refine ⟨.inr ⟨weighs.perm same.symm, ?_⟩, Nat.le_of_eq same.length_eq⟩
    have before : s.rank = 2 := by
      rw [rank, if_pos (List.isEmpty_iff.mpr idle), if_pos (List.isEmpty_iff.mpr asleep)]
    rw [before]
    by_cases woken : (s.cancelDue.setClock t).queue = []
    · have later := (woken_of_tick alarm).resolve_left (not_not_intro woken)
      rw [rank, if_pos (List.isEmpty_iff.mpr woken), if_neg (by rwa [List.isEmpty_iff])]
      exact Nat.one_lt_two
    · have awake : (s.cancelDue.setClock t).rank = 0 :=
        rank_rouse (s := { s.cancelDue with world := s.cancelDue.world.advance t }) asleep woken
      rw [awake]
      exact Nat.zero_lt_two

/-- What can still happen in a schedule of so many jobs becomes less with every turn. -/
theorem Turn.potential {who : Option Nat} {s s' : Schedule σ α} (turn : Turn who s s')
    (settled : s.Settled) {n size : Nat} (weighs : Weighs s.jobs n)
    (length : s.jobs.length ≤ size) :
    ∃ m, Weighs s'.jobs m ∧ s'.jobs.length ≤ size ∧
      m * (size + 3) + s'.rank < n * (size + 3) + s.rank := by
  obtain ⟨less, length'⟩ := turn.descends settled weighs
  have few : s'.jobs.length ≤ size := Nat.le_trans length' length
  rcases less with ⟨m, hm, lighter⟩ | ⟨same, rank⟩
  · refine ⟨m, lighter, few, ?_⟩
    have bound := s'.rank_le
    calc m * (size + 3) + s'.rank
        < m * (size + 3) + (size + 3) := by omega
      _ = (m + 1) * (size + 3) := by rw [Nat.add_mul, Nat.one_mul]
      _ ≤ n * (size + 3) := Nat.mul_le_mul_right _ hm
      _ ≤ n * (size + 3) + s.rank := Nat.le_add_right ..
  · exact ⟨n, same, few, Nat.add_lt_add_left rank _⟩

/-- A run that goes on as long as anything can happen. -/
def IsTireless (run : Nat → Schedule σ α) : Prop :=
  ∀ i, (run i).AtRest ∨ ∃ who, Turn who (run i) (run (i + 1))

/-- **A run comes to rest** if every job waits only so often. -/
theorem exists_atRest {run : Nat → Schedule σ α} (tireless : IsTireless run)
    (settled : (run 0).Settled) {n : Nat} (weighs : Weighs (run 0).jobs n) :
    ∃ i, ComesTo (run 0) (run i) ∧ (run i).AtRest := by
  -- by induction on a bound of what can still happen, which every turn makes less
  have bounded :
      ∀ (fuel size : Nat) (run : Nat → Schedule σ α) (n : Nat), IsTireless run → (run 0).Settled →
      Weighs (run 0).jobs n → (run 0).jobs.length ≤ size → n * (size + 3) + (run 0).rank < fuel →
      ∃ i, ComesTo (run 0) (run i) ∧ (run i).AtRest := by
    intro fuel size
    induction fuel with
    | zero => exact fun _ _ _ _ _ _ less => absurd less (Nat.not_lt_zero _)
    | succ fuel ih =>
      intro run n tireless settled weighs length less
      rcases tireless 0 with rest | ⟨who, turn⟩
      · exact ⟨0, .refl, rest⟩
      · obtain ⟨m, weighs', length', less'⟩ := turn.potential settled weighs length
        obtain ⟨i, turns, rest⟩ :=
          ih (fun i => run (i + 1)) m (fun i => tireless (i + 1)) turn.settled weighs' length'
          (by omega)
        exact ⟨i + 1, .head ⟨who, turn⟩ turns, rest⟩
  exact bounded _ _ run n tireless settled weighs (Nat.le_refl _) (Nat.lt_succ_self _)

/-- **`runTo` comes to rest** if it may take enough turns. -/
theorem runTo_atRest (size : Nat) :
    ∀ (turns : Nat) {s : Schedule σ α} {n : Nat}, s.Settled → Weighs s.jobs n →
    s.jobs.length ≤ size → n * (size + 3) + s.rank < turns →
    ∃ s', ComesTo s s' ∧ s'.AtRest ∧ s.runTo none turns = s'.cancelDue
  | 0, _, _, _, _, _, less => absurd less (Nat.not_lt_zero _)
  | turns + 1, s, n, settled, weighs, length, less => by
    rcases s.runTo_succ turns with ⟨rest, stop⟩ | ⟨who, s₁, turn, goes⟩
    · exact ⟨s, .refl, rest, stop⟩
    · obtain ⟨m, weighs', length', less'⟩ := turn.potential settled weighs length
      obtain ⟨s', turns', rest, stop⟩ :=
        runTo_atRest size turns turn.settled weighs' length' (by omega)
      exact ⟨s', .head ⟨who, turn⟩ turns', rest, goes.trans stop⟩

end Schedule

end TokenChain
