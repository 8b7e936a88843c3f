import TokenChain.Proofs.Schedule
import TokenChain.Proofs.Schedule.Termination
import TokenChain.Proofs.Task.Timing

/-! # What a job lives through

A job of a schedule takes its steps turn by turn. `Schedule.Chronicle` collects them, from the
schedule in which the job begins up to some later one; every way on from there has such a chronicle
(`exists_chronicle`).

What a job has lived through (`Schedule.Follows`) is kept by each turn. A turn of the job itself
takes no time, and what it does is a part of its chronicle (`Job.Goes.lives`). Turns of other jobs
do not concern it. And when the clock moves, it moves forward, and not beyond the alarm of the job's
own wait. So a job lives through its chronicle in the sense of `Task.Lives`, up to the present if it
is not over, and else up to its end (`follows_of_chronicle`). -/

namespace TokenChain

variable {σ α : Type} {T : Task σ α} {b : Instant} {h : History σ}

/-! ### The steps of a turn -/

namespace Task

/-- The steps that a task takes until it ends, breaks down or has to wait. -/
def trail : Task σ α → World σ → History σ
  | done _, _ => []
  | crash, _ => []
  | look k, w => (w, w) :: trail (k w.toMoment) w
  | note n k, w => (w, w.append n) :: trail k (w.append n)
  | step f k, w =>
    (w, { w with state := f w.state }) :: trail (k w.state) { w with state := f w.state }
  | wait v k, w =>
    match v.wake? w with
    | some x => (w, w) :: trail (k x) w
    | none => []

/-- **A task that goes on** until its next pause takes the steps of its trail. -/
theorem Lives.run {t : Task σ α} {w w' : World σ} {p : Pause σ α} (lives : T.Lives b h t w.now)
    (run : t.run w = (w', p)) : T.Lives b (h ++ t.trail w) p.rest w'.now := by
  induction t generalizing h w with
  | done a | crash =>
    cases run
    rw [trail, List.append_nil]
    exact lives
  | look k ih =>
    have next : (look k).next? w = some (w, k w.toMoment) := rfl
    rw [trail, List.append_cons]
    exact ih _ (.go lives next) run
  | note n k ih =>
    have next : (note n k).next? w = some (w.append n, k) := rfl
    rw [trail, List.append_cons]
    exact ih (w := w.append n) (.go lives next) run
  | step f k ih =>
    have next : (step f k).next? w = some ({ w with state := f w.state }, k w.state) := rfl
    rw [trail, List.append_cons]
    exact ih _ (w := { w with state := f w.state }) (.go lives next) run
  | wait v k ih =>
    rw [Task.run] at run
    cases wakes : v.wake? w with
    | none =>
      rw [wakes] at run
      cases run
      rw [trail, wakes, List.append_nil]
      exact lives
    | some x =>
      rw [wakes] at run
      have next : (wait v k).next? w = some (w, k x) := by rw [next?, wakes, Option.map_some]
      rw [trail, wakes, List.append_cons]
      exact ih x (.go lives next) run

end Task

namespace Job

/-- What is left of a job. -/
def rest (job : Job σ α) : Task σ α := .wait job.wait job.resume

/-- **A job that has its turn** lives through the steps of the turn. -/
theorem Goes.lives {job : Job σ α} {w w' : World σ} {fate : Fate σ α} (goes : job.Goes w w' fate)
    (lives : T.Lives b h job.rest w.now) :
    ∃ u, T.Lives b (h ++ job.rest.trail w) u w'.now ∧
      ∀ job', fate = .waits job' → u = job'.rest := by
  have sleeps : job.wait.wake? w = none → job.rest.run w = (w, .waiting job.wait job.resume) :=
      fun asleep => by
    rw [rest, Task.run, asleep]
  have wakes : ∀ {x}, job.wait.wake? w = some x → job.rest.run w = (job.resume x).run w :=
      fun awake => by
    rw [rest, Task.run, awake]
  cases goes with
  | sleeps asleep =>
    have silent := Option.isSome_eq_false_iff.mp (Bool.or_eq_false_iff.mp asleep).1
    refine ⟨_, lives.run (sleeps (Option.isNone_iff_eq_none.mp silent)), fun job' same => ?_⟩
    cases same
    rfl
  | aborted asleep =>
    have waits := lives.run (sleeps asleep)
    exact ⟨_, waits, by rintro _ ⟨⟩⟩
  | ended awake run | crashed awake run =>
    exact ⟨_, lives.run ((wakes awake).trans run), by rintro _ ⟨⟩⟩
  | waits awake run =>
    refine ⟨_, lives.run ((wakes awake).trans run), fun job' same => ?_⟩
    cases same
    rfl
  | cut awake run =>
    have waits := lives.run ((wakes awake).trans run)
    exact ⟨_, waits, by rintro _ ⟨⟩⟩

end Job

namespace Schedule

variable {id : Nat} {s s' : Schedule σ α}

/-! ### The clock -/

/-- **The clock moves forward.** -/
theorem now_le_of_nextAlarm {t : Instant} (alarm : s.cancelDue.nextAlarm = some t) :
    s.world.now ≤ t := by
  obtain ⟨job, blocked, a, rings, rfl⟩ := alarm_of_nextAlarm alarm
  have asleep := settled_rouse { s with world := s.world.cancelDue } job blocked
  have early : ¬ a ≤ s.world.now := fun due =>
    absurd (Job.awake_of_alarm (w := s.world) rings due) (Bool.eq_false_iff.mp asleep)
  exact Int.le_trans (Int.le_of_lt (Int.not_le.mp early)) a.le_ceilMilli

/-! ### Jobs of one number -/

/-- The jobs with a number that are not over. -/
def own (s : Schedule σ α) (id : Nat) : List (Job σ α) := s.jobs.filter fun job => job.id == id

theorem mem_own {job : Job σ α} : job ∈ s.own id ↔ job ∈ s.jobs ∧ job.id = id := by
  rw [own, List.mem_filter, beq_iff_eq]

theorem Turned.own_of_ne {who : Option Nat} (turned : Turned who s s') (other : who ≠ some id) :
    (s'.own id).Perm (s.own id) := by
  cases turned with
  | clock _ same => exact same.filter _
  | @job _ _ job rest fate _ before goes after =>
    have ne : (job.id == id) = false :=
      beq_eq_false_iff_ne.mpr fun same => other (congrArg some same)
    have gone : fate.jobs.filter (fun job => job.id == id) = [] := by
      cases fate with
      | ends => rfl
      | waits job' =>
        rw [Fate.jobs, List.filter_cons, goes.same.1, ne]
        rfl
    have left := before.filter fun job => job.id == id
    have still := after.filter fun job => job.id == id
    rw [List.filter_cons, ne] at left
    rw [List.filter_append, gone, List.nil_append] at still
    exact still.trans left.symm

/-- The turn of the only job with a number. -/
theorem Turned.own_of_eq {job : Job σ α} (turned : Turned (some id) s s')
    (only : s.own id = [job]) : ∃ fate, job.Goes s.world s'.world fate ∧ s'.own id = fate.jobs ∧
      s'.finished = s.finished ++ fate.finishes id s'.world.now := by
  cases turned with
  | @job _ _ job' rest fate queued before goes after finished =>
    have mine : (job'.id == job'.id) = true := beq_self_eq_true job'.id
    have left := before.filter fun job => job.id == job'.id
    have still := after.filter fun job => job.id == job'.id
    rw [List.filter_cons, mine, ← own, only] at left
    obtain ⟨rfl, none⟩ := List.cons.inj (List.perm_singleton.mp left.symm)
    rw [List.filter_append, none, List.append_nil] at still
    refine ⟨fate, goes, ?_, finished⟩
    cases fate with
    | ends => exact List.perm_nil.mp still
    | waits job =>
      rw [Fate.jobs, List.filter_cons, goes.same.1, mine] at still
      exact List.perm_singleton.mp still

/-! ### Chronicles -/

/-- **The steps of a job** in the turns from one schedule to another. -/
inductive Chronicle (id : Nat) (s : Schedule σ α) : History σ → Schedule σ α → Prop
  | begin : Chronicle id s [] s
  | beside {h : History σ} {t u : Schedule σ α} {who : Option Nat} (chronicle : Chronicle id s h t)
      (turn : Turn who t u) (other : who ≠ some id) : Chronicle id s h u
  | goes {h : History σ} {t : Schedule σ α} {before after : List (Job σ α)} {job : Job σ α}
      (chronicle : Chronicle id s h t) (queue : t.queue = before ++ job :: after)
      (own : job.id = id) :
      Chronicle id s (h ++ job.rest.trail t.world)
        (({ t with queue := before ++ after }).resume job).rouse

theorem exists_chronicle (id : Nat) (comes : ComesTo s s') : ∃ h, Chronicle id s h s' := by
  induction comes with
  | refl => exact ⟨[], .begin⟩
  | tail _ turn ih =>
    obtain ⟨h, chronicle⟩ := ih
    obtain ⟨who, turn⟩ := turn
    cases turn with
    | @go _ before after job queue =>
      by_cases own : job.id = id
      · exact ⟨_, chronicle.goes queue own⟩
      · exact ⟨h, chronicle.beside (.go queue) fun same => own (Option.some.inj same)⟩
    | cancel idle woken => exact ⟨h, chronicle.beside (.cancel idle woken) nofun⟩
    | tick idle asleep alarm => exact ⟨h, chronicle.beside (.tick idle asleep alarm) nofun⟩

/-- **How far a task has come** in a schedule, as a job that has lived through some steps. -/
inductive Follows (T : Task σ α) (b : Instant) (id : Nat) (h : History σ) (s : Schedule σ α) : Prop
  /-- It is the only job with its number, and has lived up to now. -/
  | runs {job : Job σ α} (only : s.own id = [job]) (runs : ∀ t, ¬ s.Ended id t)
      (lives : T.Lives b h job.rest s.world.now)
  /-- No job with the number is left; it has lived up to its end. -/
  | ended {u : Task σ α} {t : Instant} (none : s.own id = []) (ended : s.Ended id t)
      (once : ∀ t', s.Ended id t' → t' = t) (lives : T.Lives b h u t)

theorem ended_iff_of_append {fs : List (Finish α)}
    (finished : s'.finished = s.finished ++ fs) {t : Instant} :
    s'.Ended id t ↔ s.Ended id t ∨ ∃ f ∈ fs, f.id = id ∧ f.time = t := by
  simp only [Ended, finished, List.mem_append]
  constructor
  · rintro ⟨f, hf | hf, same⟩
    · exact .inl ⟨f, hf, same⟩
    · exact .inr ⟨f, hf, same⟩
  · rintro (⟨f, hf, same⟩ | ⟨f, hf, same⟩)
    · exact ⟨f, .inl hf, same⟩
    · exact ⟨f, .inr hf, same⟩

theorem Turned.ended_of_ne {who : Option Nat} (turned : Turned who s s')
    (other : who ≠ some id) {t : Instant} : s'.Ended id t ↔ s.Ended id t := by
  cases turned with
  | clock _ _ finished => rw [Ended, finished, Ended]
  | @job _ _ job rest fate _ _ _ _ finished =>
    rw [ended_iff_of_append finished, or_iff_left]
    rintro ⟨f, hf, rfl, -⟩
    cases fate with
    | waits => cases hf
    | ends =>
      cases List.mem_singleton.mp hf
      exact other rfl

theorem nextAlarm_of_wait {job : Job σ α} (mem : job ∈ s.jobs)
    (asleep : s.cancelDue.queue = []) {d : Instant}
    (rings : job.wait.due = some d ∨ job.wait.deadline = some d) :
    ∃ t, s.cancelDue.nextAlarm = some t ∧ t ≤ d.ceilMilli := by
  have blocked : job ∈ s.cancelDue.blocked := by
    have mem' := s.jobs_cancelDue.mem_iff.mpr mem
    rwa [jobs, asleep, List.nil_append] at mem'
  have set : d ∈ job.alarms s.cancelDue.world := by
    simp only [Job.alarms, Wait.alarms, List.mem_append, Option.mem_toList]
    exact .inl (.inl rings)
  exact nextAlarm_of_alarm blocked set

/-- **Something can still happen** as long as a job waits for an instant. -/
theorem exists_turn_of_wait {job : Job σ α} (mem : job ∈ s.jobs) {d : Instant}
    (rings : job.wait.due = some d ∨ job.wait.deadline = some d) : ∃ who s', Turn who s s' := by
  refine s.atRest_or_turn.resolve_left fun rest => ?_
  obtain ⟨t, next, -⟩ := nextAlarm_of_wait mem rest.asleep rings
  rw [rest.silent] at next
  cases next

/-- A job that waits lives on while the clock moves. -/
theorem lives_of_turn {who : Option Nat} {job : Job σ α} (turned : Turned who s s')
    (mem : job ∈ s.jobs) (lives : T.Lives b h job.rest s.world.now) :
    T.Lives b h job.rest s'.world.now := by
  cases turned with
  | job _ _ goes =>
    rw [goes.atOnce.now]
    exact lives
  | clock _ _ _ _ _ _ now =>
    rcases now with same | ⟨asleep, alarm⟩
    · rwa [same]
    · refine .stay lives (now_le_of_nextAlarm alarm) fun d rings => .inr ?_
      obtain ⟨t, first, le⟩ := nextAlarm_of_wait mem asleep rings
      cases alarm.symm.trans first
      exact le

theorem Follows.beside {who : Option Nat} (follows : s.Follows T b id h) (turn : Turn who s s')
    (other : who ≠ some id) : s'.Follows T b id h := by
  have same := turn.turned.own_of_ne other
  cases follows with
  | @runs job only runs lives =>
    rw [only] at same
    have mine : job ∈ s.own id := only ▸ List.mem_cons_self
    exact .runs (List.perm_singleton.mp same)
      (fun t ended => runs t ((turn.turned.ended_of_ne other).mp ended))
        (lives_of_turn turn.turned (mem_own.mp mine).1 lives)
  | ended none ended once lives =>
    rw [none] at same
    exact .ended (List.perm_nil.mp same) ((turn.turned.ended_of_ne other).mpr ended)
      (fun t ended => once t ((turn.turned.ended_of_ne other).mp ended)) lives

theorem Follows.goes {before after : List (Job σ α)} {job : Job σ α} (follows : s.Follows T b id h)
    (queue : s.queue = before ++ job :: after) (mine : job.id = id) :
    (({ s with queue := before ++ after }).resume job).rouse.Follows T b id
      (h ++ job.rest.trail s.world) := by
  have here : job ∈ s.own id := mem_own.mpr ⟨(jobs_go queue).mem_iff.mpr List.mem_cons_self, mine⟩
  have turned := (Turn.go queue).turned
  rw [mine] at turned
  cases follows with
  | ended none =>
    rw [none] at here
    cases here
  | runs only runs lives =>
    rw [only] at here
    cases List.mem_singleton.mp here
    obtain ⟨fate, goes, only', finished⟩ := turned.own_of_eq only
    obtain ⟨u, lives', rest⟩ := goes.lives lives
    cases fate with
    | waits job' =>
      rw [rest job' rfl] at lives'
      refine .runs only' (fun t ended => ?_) lives'
      rcases (ended_iff_of_append finished).mp ended with ended | ⟨f, hf, -⟩
      · exact runs t ended
      · cases hf
    | ends ending =>
      refine .ended only'
        ((ended_iff_of_append finished).mpr (.inr ⟨_, List.mem_singleton.mpr rfl, rfl, rfl⟩))
          (fun t ended => ?_) lives'
      rcases (ended_iff_of_append finished).mp ended with ended | ⟨f, hf, -, same⟩
      · exact absurd ended (runs t)
      · cases List.mem_singleton.mp hf
        exact same.symm

/-- **A job lives through its chronicle.** -/
theorem follows_of_chronicle (chronicle : Chronicle id s h s') (begins : s.Follows T b id []) :
    s'.Follows T b id h := by
  induction chronicle with
  | begin => exact begins
  | beside _ turn other ih => exact ih.beside turn other
  | goes _ queue own ih => exact ih.goes queue own

theorem Free.follows (free : s.Free id) (abortAt : Option Instant) (task : Task σ α) :
    (s.add (.ofTask id abortAt task)).Follows
      (Job.ofTask id abortAt task).rest s.world.now id [] := by
  have others : s.jobs.filter (fun job => job.id == id) = [] :=
    List.filter_eq_nil_iff.mpr fun job mem same => free.runs ⟨job, mem, beq_iff_eq.mp same⟩
  have joined := (s.jobs_add (.ofTask id abortAt task)).filter fun job => job.id == id
  have mine : (Job.ofTask id abortAt task).id == id := beq_self_eq_true id
  rw [List.filter_cons, if_pos mine, others] at joined
  exact .runs (List.perm_singleton.mp joined) free.ended (.begin ..)

end Schedule

end TokenChain
