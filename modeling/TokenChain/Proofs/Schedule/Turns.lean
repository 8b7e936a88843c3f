import Mathlib.Data.List.Nodup
import Mathlib.Data.List.Perm.Basic
import Mathlib.Logic.Relation
import Mathlib.Tactic.SplitIfs
import TokenChain.Schedule

/-! # Turns of a schedule

A schedule goes on in turns (`Schedule.Turn`): a job in the queue goes on as far as it can,
whichever of them; or, when the queue is empty, the cancellations that are due take place; or, when
these wake nobody, the clock moves on to the next alarm. `Schedule.runTo` takes such turns, always
with the first job in the queue.

What a turn does to a job is told by `Job.Goes`: it waits on, is aborted at its wait, or wakes and
goes on, until it is over or waits again. No time passes meanwhile (`Job.Goes.atOnce`), and nothing
happens to the other jobs. The clock never moves beyond the alarm of a job that waits
(`nextAlarm_of_alarm`). -/

namespace TokenChain

variable {σ α : Type}

theorem Instant.ceilMilli_mono {a b : Instant} (h : a ≤ b) : a.ceilMilli ≤ b.ceilMilli := by
  simp only [le_iff, ceilMilli] at *
  omega

/-! ### Time stands still while a job goes on -/

/-- No time passes from one world to another, and no cancellation takes place or is arranged. -/
structure World.AtOnce (w w' : World σ) : Prop where
  moment : w'.toMoment = w.toMoment
  cancelAt : w'.cancelAt = w.cancelAt

namespace World

theorem AtOnce.refl (w : World σ) : w.AtOnce w := ⟨rfl, rfl⟩

theorem AtOnce.trans {a b c : World σ} (h : a.AtOnce b) (h' : b.AtOnce c) : a.AtOnce c :=
  ⟨h'.moment.trans h.moment, h'.cancelAt.trans h.cancelAt⟩

theorem AtOnce.now {w w' : World σ} (h : w.AtOnce w') : w'.now = w.now :=
  congrArg Moment.now h.moment

theorem AtOnce.cancelled {w w' : World σ} (h : w.AtOnce w') : w'.cancelled = w.cancelled :=
  congrArg Moment.cancelled h.moment

end World

theorem Task.atOnce_run (t : Task σ α) (w : World σ) : w.AtOnce (t.run w).1 := by
  induction t generalizing w with
  | done a => exact .refl w
  | crash => exact .refl w
  | look k ih => exact ih _ w
  | note n k ih =>
    have noted : w.AtOnce (w.append n) := ⟨rfl, rfl⟩
    exact noted.trans (ih _)
  | step f k ih =>
    have changed : w.AtOnce { w with state := f w.state } := ⟨rfl, rfl⟩
    exact changed.trans (ih ..)
  | wait v k ih =>
    rw [run]
    cases v.wake? w with
    | none => exact .refl w
    | some x => exact ih x w

/-! ### What becomes of a job -/

theorem Wait.isSome_wake? (v : Wait σ) (w : World σ) :
    (v.wake? w).isSome =
      (v.cancel.any w.cancelled || (v.ready w.state || v.due.any fun t => decide (t ≤ w.now)) ||
        v.deadline.any fun t => decide (t ≤ w.now)) := by
  rw [Wait.wake?]
  split_ifs <;> simp_all

/-- What becomes of a job that has had its turn: it waits, or it is over. -/
inductive Fate (σ α : Type) where
  | waits (job : Job σ α)
  | ends (ending : Ending α)

/-- What a turn makes of a job and of the world. -/
inductive Job.Goes (job : Job σ α) (w : World σ) : World σ → Fate σ α → Prop
  | sleeps (asleep : job.isAwake w = false) : Goes job w w (.waits job)
  | aborted (asleep : job.wait.wake? w = none) (late : job.isOver w.now = true) :
      Goes job w { w with state := job.wait.abandon w.state } (.ends .aborted)
  | ended {x : Wake} {w' : World σ} {a : α} (wakes : job.wait.wake? w = some x)
      (run : (job.resume x).run w = (w', .done a)) : Goes job w w' (.ends (.value a))
  | crashed {x : Wake} {w' : World σ} (wakes : job.wait.wake? w = some x)
      (run : (job.resume x).run w = (w', .crashed)) : Goes job w w' (.ends .crashed)
  | waits {x : Wake} {w' : World σ} {v : Wait σ} {k : Wake → Task σ α}
      (wakes : job.wait.wake? w = some x) (run : (job.resume x).run w = (w', .waiting v k))
      (early : job.isOver w.now = false) :
      Goes job w w' (.waits { job with wait := v, resume := k })
  | cut {x : Wake} {w' : World σ} {v : Wait σ} {k : Wake → Task σ α}
      (wakes : job.wait.wake? w = some x) (run : (job.resume x).run w = (w', .waiting v k))
      (late : job.isOver w.now = true) :
      Goes job w { w' with state := v.abandon w'.state } (.ends .aborted)

theorem Job.Goes.atOnce {job : Job σ α} {w w' : World σ} {fate : Fate σ α}
    (h : job.Goes w w' fate) : w.AtOnce w' := by
  cases h with
  | sleeps => exact .refl w
  | aborted => exact ⟨rfl, rfl⟩
  | @ended x _ _ _ run | @crashed x _ _ run | @waits x _ _ _ _ run =>
    have still := (job.resume x).atOnce_run w
    rwa [run] at still
  | @cut x _ _ _ _ run =>
    have still := (job.resume x).atOnce_run w
    rw [run] at still
    exact still.trans ⟨rfl, rfl⟩

theorem Job.Goes.same {job job' : Job σ α} {w w' : World σ} (h : job.Goes w w' (.waits job')) :
    job'.id = job.id ∧ job'.abortAt = job.abortAt := by
  cases h <;> exact ⟨rfl, rfl⟩

/-- What is left of a job that has had its turn. -/
def Fate.jobs : Fate σ α → List (Job σ α)
  | .waits job => [job]
  | .ends _ => []

/-- How a job that has had its turn is over. -/
def Fate.finishes (id : Nat) (now : Instant) : Fate σ α → List (Finish α)
  | .waits _ => []
  | .ends ending => [⟨id, ending, now⟩]

namespace Schedule

/-- All jobs that are not over. -/
def jobs (s : Schedule σ α) : List (Job σ α) := s.queue ++ s.blocked

/-- The schedule once a job has had its turn. -/
def outcome (s : Schedule σ α) (id : Nat) (w : World σ) : Fate σ α → Schedule σ α
  | .waits job => { s with world := w, blocked := s.blocked ++ [job] }
  | .ends ending => { s with world := w, finished := s.finished ++ [⟨id, ending, w.now⟩] }

/-- **A job that has its turn.** -/
theorem exists_goes (s : Schedule σ α) (job : Job σ α) :
    ∃ w fate, job.Goes s.world w fate ∧ s.resume job = s.outcome job.id w fate := by
  rw [resume]
  cases wakes : job.wait.wake? s.world with
  | none =>
    dsimp only
    rw [park]
    split_ifs with late
    · exact ⟨_, _, .aborted wakes late, rfl⟩
    · refine ⟨_, _, .sleeps ?_, rfl⟩
      rw [Job.isAwake, wakes, Bool.eq_false_iff.mpr late]
      rfl
  | some x =>
    have still := (job.resume x).atOnce_run s.world
    rcases run : (job.resume x).run s.world with ⟨w, pause⟩
    rw [run] at still
    simp only [run]
    cases pause with
    | done a => exact ⟨_, _, .ended wakes run, rfl⟩
    | crashed => exact ⟨_, _, .crashed wakes run, rfl⟩
    | waiting v k =>
      dsimp only
      rw [park]
      split_ifs with late
      · exact ⟨_, _, .cut wakes run (still.now ▸ late), rfl⟩
      · exact ⟨_, _, .waits wakes run (still.now ▸ Bool.eq_false_iff.mpr late), rfl⟩

/-! ### Turns -/

/-- **A turn** of a schedule, with the number of the job that goes on. -/
inductive Turn : Option Nat → Schedule σ α → Schedule σ α → Prop
  | go {s : Schedule σ α} {before after : List (Job σ α)} {job : Job σ α}
      (queue : s.queue = before ++ job :: after) : Turn (some job.id) s
        (({ s with queue := before ++ after }).resume job).rouse
  | cancel {s : Schedule σ α} (idle : s.queue = []) (woken : s.cancelDue.queue ≠ []) :
      Turn none s s.cancelDue
  | tick {s : Schedule σ α} {t : Instant} (idle : s.queue = []) (asleep : s.cancelDue.queue = [])
      (alarm : s.cancelDue.nextAlarm = some t) : Turn none s (s.cancelDue.setClock t)

theorem Turn.first {s : Schedule σ α} {job : Job σ α} {rest : List (Job σ α)}
    (queue : s.queue = job :: rest) :
    Turn (some job.id) s (({ s with queue := rest }).resume job).rouse :=
  @Turn.go _ _ s [] rest job queue

/-- Any number of turns. -/
abbrev ComesTo : Schedule σ α → Schedule σ α → Prop :=
  Relation.ReflTransGen fun s s' => ∃ who, Turn who s s'

/-- Nothing happens any more. -/
structure AtRest (s : Schedule σ α) : Prop where
  idle : s.queue = []
  asleep : s.cancelDue.queue = []
  silent : s.cancelDue.nextAlarm = none

/-- **A schedule goes on** unless it is at rest. -/
theorem atRest_or_turn (s : Schedule σ α) : s.AtRest ∨ ∃ who s', Turn who s s' := by
  cases queue : s.queue with
  | cons job rest => exact .inr ⟨_, _, .first queue⟩
  | nil =>
    by_cases asleep : s.cancelDue.queue = []
    · cases alarm : s.cancelDue.nextAlarm with
      | none => exact .inl ⟨queue, asleep, alarm⟩
      | some t => exact .inr ⟨_, _, .tick queue asleep alarm⟩
    · exact .inr ⟨_, _, .cancel queue asleep⟩

/-- **What `runTo` does** is to take turns until the schedule is at rest. -/
theorem runTo_succ (s : Schedule σ α) (turns : Nat) :
    (s.AtRest ∧ s.runTo none (turns + 1) = s.cancelDue) ∨
      ∃ who s', Turn who s s' ∧ s.runTo none (turns + 1) = s'.runTo none turns := by
  rw [runTo]
  cases queue : s.queue with
  | cons job rest => exact .inr ⟨_, _, .first queue, rfl⟩
  | nil =>
    cases asleep : s.cancelDue.queue with
    | cons job rest =>
      refine .inr ⟨none, _, .cancel queue ?_, by simp [asleep]⟩
      rw [asleep]
      exact List.cons_ne_nil _ _
    | nil =>
      cases alarm : s.cancelDue.nextAlarm with
      | none => exact .inl ⟨⟨queue, asleep, alarm⟩, by simp [asleep, alarm]⟩
      | some t => exact .inr ⟨none, _, .tick queue asleep alarm, by simp [asleep, alarm]⟩

/-! ### Jobs that wake -/

theorem jobs_rouse (s : Schedule σ α) : s.rouse.jobs.Perm s.jobs := by
  have split := List.filter_append_perm (fun job : Job σ α => job.isAwake s.world) s.blocked
  rw [jobs, jobs, rouse, List.append_assoc]
  exact split.append_left s.queue

theorem jobs_cancelDue (s : Schedule σ α) : s.cancelDue.jobs.Perm s.jobs :=
  jobs_rouse { s with world := s.world.cancelDue }

/-- Jobs that wait have nothing to do. -/
def Settled (s : Schedule σ α) : Prop := ∀ job ∈ s.blocked, job.isAwake s.world = false

theorem settled_rouse (s : Schedule σ α) : s.rouse.Settled := by
  intro job hjob
  have asleep := List.of_mem_filter hjob
  rwa [Bool.not_eq_true'] at asleep

theorem Turn.settled {who : Option Nat} {s s' : Schedule σ α} (turn : Turn who s s') :
    s'.Settled := by
  cases turn with
  | go => exact settled_rouse _
  | cancel => exact settled_rouse _
  | tick => exact settled_rouse _

theorem jobs_add (s : Schedule σ α) (job : Job σ α) : (s.add job).jobs.Perm (job :: s.jobs) := by
  rw [jobs, jobs, add, List.append_assoc]
  exact List.perm_middle

theorem jobs_outcome (s : Schedule σ α) (id : Nat) (w : World σ) (fate : Fate σ α) :
    (s.outcome id w fate).jobs.Perm (fate.jobs ++ s.jobs) := by
  cases fate with
  | waits job =>
    rw [jobs, outcome, ← List.append_assoc]
    exact List.perm_append_singleton job s.jobs
  | ends ending => exact .refl _

theorem jobs_go {s : Schedule σ α} {before after : List (Job σ α)} {job : Job σ α}
    (queue : s.queue = before ++ job :: after) :
    s.jobs.Perm (job :: ({ s with queue := before ++ after } : Schedule σ α).jobs) := by
  rw [jobs, jobs, queue, ← List.cons_append]
  exact List.perm_middle.append_right s.blocked

/-- All that a turn does. -/
inductive Turned : Option Nat → Schedule σ α → Schedule σ α → Prop
  | job {s s' : Schedule σ α} {job : Job σ α} {rest : List (Job σ α)} {fate : Fate σ α}
      (queued : job ∈ s.queue) (before : s.jobs.Perm (job :: rest))
      (goes : job.Goes s.world s'.world fate) (after : s'.jobs.Perm (fate.jobs ++ rest))
      (finished : s'.finished = s.finished ++ fate.finishes job.id s'.world.now) :
        Turned (some job.id) s s'
  | clock {s s' : Schedule σ α} (idle : s.queue = []) (same : s'.jobs.Perm s.jobs)
      (finished : s'.finished = s.finished) (state : s'.world.state = s.world.state)
      (cancelAt : s'.world.cancelAt = s.world.cancelAt)
      (cancelled : ∀ key, s.world.cancelled key = true → s'.world.cancelled key = true)
      (now : s'.world.now = s.world.now ∨
        (s.cancelDue.queue = [] ∧ s.cancelDue.nextAlarm = some s'.world.now)) : Turned none s s'

/-- **What a turn does**: one job goes on, or the clock moves and cancellations take place. -/
theorem Turn.turned {who : Option Nat} {s s' : Schedule σ α} (turn : Turn who s s') :
    Turned who s s' := by
  have kept : ∀ {b c : Bool}, b = true → (b || c) = true := fun h => by rw [h, Bool.true_or]
  cases turn with
  | @go _ before after job queue =>
    obtain ⟨w, fate, goes, resumed⟩ := exists_goes { s with queue := before ++ after } job
    rw [resumed]
    have world : (outcome { s with queue := before ++ after } job.id w fate).rouse.world = w := by
      cases fate <;> rfl
    refine .job (queue ▸ List.mem_append_right _ List.mem_cons_self)
      (jobs_go queue) (world.symm ▸ goes) ((jobs_rouse _).trans (jobs_outcome ..)) ?_
    cases fate with
    | waits job => exact (List.append_nil _).symm
    | ends ending => rfl
  | cancel idle => exact .clock idle (jobs_cancelDue s) rfl rfl rfl (fun _ => kept) (.inl rfl)
  | tick idle asleep alarm =>
    exact .clock idle ((jobs_rouse _).trans (jobs_cancelDue s)) rfl rfl rfl
      (fun _ h => kept (kept h)) (.inr ⟨asleep, alarm⟩)

/-- **Where a job comes from** that is not over after a turn: it was there before, or has just had
its turn. -/
theorem Turn.origin {who : Option Nat} {s s' : Schedule σ α} (turn : Turn who s s') {job : Job σ α}
    (mem : job ∈ s'.jobs) :
    job ∈ s.jobs ∨ ∃ earlier ∈ s.jobs, earlier.id = job.id ∧
      earlier.Goes s.world s'.world (.waits job) := by
  cases turn.turned with
  | clock _ same => exact .inl (same.mem_iff.mp mem)
  | @job _ _ earlier rest fate _ before goes after _ =>
    rcases List.mem_append.mp (after.mem_iff.mp mem) with mem | mem
    · cases fate with
      | ends ending => cases mem
      | waits job' =>
        cases List.mem_singleton.mp mem
        exact .inr ⟨earlier, before.mem_iff.mpr List.mem_cons_self, goes.same.1.symm, goes⟩
    · exact .inl (before.mem_iff.mpr (List.mem_cons_of_mem _ mem))

/-! ### Schedules that take the same turns -/

/-- Turns that are taken one after another, with the numbers of the jobs that go on. -/
inductive Takes : List (Option Nat) → Schedule σ α → Schedule σ α → Prop
  | none {s : Schedule σ α} : Takes [] s s
  | next {who : Option Nat} {later : List (Option Nat)} {s t u : Schedule σ α} (turn : Turn who s t)
      (takes : Takes later t u) : Takes (who :: later) s u

/-- No two jobs have the same number. -/
def Distinct (s : Schedule σ α) : Prop := (s.jobs.map Job.id).Nodup

theorem Turn.distinct {who : Option Nat} {s t : Schedule σ α} (turn : Turn who s t)
    (h : s.Distinct) : t.Distinct := by
  cases turn.turned with
  | @job _ _ job rest fate _ before goes after _ =>
    have kept : ((job :: rest).map Job.id).Nodup := (before.map Job.id).nodup_iff.mp h
    refine (after.map Job.id).nodup_iff.mpr ?_
    cases fate with
    | ends ending => exact (List.nodup_cons.mp kept).2
    | waits job' =>
      show (job'.id :: rest.map Job.id).Nodup
      rwa [goes.same.1]
  | clock _ same => exact (same.map Job.id).nodup_iff.mpr h

theorem Distinct.queue_unique {s : Schedule σ α} (h : s.Distinct)
    {before before' after after' : List (Job σ α)} {job job' : Job σ α}
    (queue : s.queue = before ++ job :: after) (queue' : s.queue = before' ++ job' :: after')
    (same : job.id = job'.id) : before = before' ∧ job = job' ∧ after = after' := by
  have distinct : (s.queue.map Job.id).Nodup := h.sublist ((List.sublist_append_left ..).map _)
  have mem : job ∈ s.queue := queue ▸ List.mem_append_right _ List.mem_cons_self
  have mem' : job' ∈ s.queue := queue' ▸ List.mem_append_right _ List.mem_cons_self
  cases List.inj_on_of_nodup_map distinct mem mem' same
  -- the one job stands nowhere else in the queue, so the two splits are the same
  have once := distinct.of_map
  rw [queue, List.nodup_middle, List.nodup_cons, List.mem_append, not_or] at once
  exact (List.append_cons_inj_of_notMem once.1.1 once.1.2).mp (queue.symm.trans queue')

/-- **A turn** is known by the number of the job that goes on. -/
theorem Turn.unique {who : Option Nat} {s t t' : Schedule σ α} (distinct : s.Distinct)
    (turn : Turn who s t) (turn' : Turn who s t') : t = t' := by
  generalize again : who = who' at turn'
  cases turn with
  | go queue =>
    cases turn' with
    | go queue' =>
      obtain ⟨rfl, rfl, rfl⟩ := distinct.queue_unique queue queue' (Option.some.inj again)
      rfl
    | cancel | tick => cases again
  | cancel idle woken =>
    cases turn' with
    | go => cases again
    | cancel => rfl
    | tick _ asleep => exact (woken asleep).elim
  | tick idle asleep alarm =>
    cases turn' with
    | go => cases again
    | cancel _ woken => exact (woken asleep).elim
    | tick _ _ alarm' =>
      cases alarm.symm.trans alarm'
      rfl

theorem Takes.unique {who : List (Option Nat)} {s t t' : Schedule σ α} (takes : Takes who s t)
    (distinct : s.Distinct) (takes' : Takes who s t') : t = t' := by
  induction takes with
  | none =>
    cases takes'
    rfl
  | next turn _ ih =>
    cases takes' with
    | next turn' later =>
      cases turn.unique distinct turn'
      exact ih (turn.distinct distinct) later

/-! ### Alarms -/

theorem foldl_earliest (ts : List Instant) (c : Instant) :
    ∃ t, ts.foldl (fun first t => Instant.earliest first (some t)) (some c) = some t ∧ t ∈ c :: ts ∧
      ∀ a ∈ c :: ts, t ≤ a := by
  induction ts generalizing c with
  | nil =>
    exact ⟨c, rfl, List.mem_singleton.mpr rfl,
      fun a ha => List.mem_singleton.mp ha ▸ Int.le_refl _⟩
  | cons b ts ih =>
    obtain ⟨t, last, mem, least⟩ := ih (min c b)
    have first := least (min c b) List.mem_cons_self
    refine ⟨t, last, ?_, fun a ha => ?_⟩
    · have either : min c b = c ∨ min c b = b := by
        rcases Int.le_total c.nanos b.nanos with le | le
        · exact .inl (congrArg Instant.mk (Int.min_eq_left le))
        · exact .inr (congrArg Instant.mk (Int.min_eq_right le))
      rcases List.mem_cons.mp mem with rfl | mem
      · rcases either with he | he <;> simp [he]
      · exact List.mem_cons_of_mem c (List.mem_cons_of_mem b mem)
    · rcases List.mem_cons.mp ha with rfl | ha
      · exact Int.le_trans first (Int.min_le_left ..)
      · rcases List.mem_cons.mp ha with rfl | ha
        · exact Int.le_trans first (Int.min_le_right ..)
        · exact least a (List.mem_cons_of_mem _ ha)

/-- The alarms of the jobs that wait. -/
def alarms (s : Schedule σ α) : List Instant := s.blocked.flatMap fun job => job.alarms s.world

theorem nextAlarm_eq (s : Schedule σ α) :
    (s.alarms = [] ∧ s.nextAlarm = none) ∨ ∃ t ∈ s.alarms, s.nextAlarm = some t.ceilMilli ∧
      ∀ a ∈ s.alarms, t ≤ a := by
  rw [nextAlarm, ← alarms]
  cases s.alarms with
  | nil => exact .inl ⟨rfl, rfl⟩
  | cons c ts =>
    obtain ⟨t, last, mem, least⟩ := foldl_earliest ts c
    refine .inr ⟨t, mem, ?_, least⟩
    rw [List.foldl_cons]
    exact congrArg _ last

/-- **The clock does not move beyond an alarm.** -/
theorem nextAlarm_of_alarm {s : Schedule σ α} {job : Job σ α} {a : Instant}
    (blocked : job ∈ s.blocked) (rings : a ∈ job.alarms s.world) :
    ∃ t, s.nextAlarm = some t ∧ t ≤ a.ceilMilli := by
  have mem : a ∈ s.alarms := List.mem_flatMap.mpr ⟨job, blocked, rings⟩
  rcases s.nextAlarm_eq with ⟨none, -⟩ | ⟨t, -, next, least⟩
  · rw [none] at mem
    cases mem
  · exact ⟨_, next, Instant.ceilMilli_mono (least a mem)⟩

theorem alarm_of_nextAlarm {s : Schedule σ α} {t : Instant} (h : s.nextAlarm = some t) :
    ∃ job ∈ s.blocked, ∃ a ∈ job.alarms s.world, t = a.ceilMilli := by
  rcases s.nextAlarm_eq with ⟨-, none⟩ | ⟨a, mem, next, -⟩
  · rw [none] at h
    cases h
  · rw [next] at h
    cases h
    obtain ⟨job, blocked, rings⟩ := List.mem_flatMap.mp mem
    exact ⟨job, blocked, a, rings, rfl⟩

end Schedule

end TokenChain
