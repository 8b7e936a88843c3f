import TokenChain.Proofs.Schedule.Turns

/-! # A schedule with a single job

Where no other job is there, only time and cancellations end a wait. `Wait.Over` says how a wait is
over that began in a world: at once, by a cancellation that is due, at the first alarm, or by a
cancellation that is due when the alarm rings. `Task.Comes` puts this together for a task: it comes
to what is left of it in a later world, in so many turns. What a task comes to, a schedule with no
other job comes to (`Schedule.runTo_comes`), and so a task that comes to its end is over
(`Schedule.over_of_done`, `Schedule.over_of_crash`).

A wait for an instant, a deadline and one cancellation is over by one of them
(`Wait.IsTimed.exists_over`): timers ring at whole milliseconds (`Instant.ring`), and of two that
ring together what is waited for comes before the deadline. -/

namespace TokenChain

variable {σ α β : Type}

/-! ### Waits -/

namespace Wait

/-- The first whole millisecond at which time ends a wait. -/
def alarm? (v : Wait σ) (w : World σ) : Option Instant :=
  ((v.alarms w).foldl (fun first t => Instant.earliest first (some t)) none).map Instant.ceilMilli

/-- **How a lone wait is over**, after so many turns. -/
inductive Over (v : Wait σ) (w : World σ) : Nat → Wake → World σ → Prop
  | now {x : Wake} (wakes : v.wake? w = some x) : Over v w 0 x w
  | cancelled {x : Wake} (asleep : v.wake? w = none) (wakes : v.wake? w.cancelDue = some x) :
      Over v w 2 x w.cancelDue
  | rings {x : Wake} {t : Instant} (asleep : v.wake? w = none) (still : v.wake? w.cancelDue = none)
      (alarm : v.alarm? w.cancelDue = some t) (wakes : v.wake? (w.cancelDue.advance t) = some x) :
      Over v w 2 x (w.cancelDue.advance t)
  | ringsIn {x : Wake} {t : Instant} (asleep : v.wake? w = none)
      (still : v.wake? w.cancelDue = none) (alarm : v.alarm? w.cancelDue = some t)
      (silent : v.wake? (w.cancelDue.advance t) = none)
      (wakes : v.wake? (w.cancelDue.advance t).cancelDue = some x) : Over v w 3 x
        (w.cancelDue.advance t).cancelDue

end Wait

/-! ### Tasks -/

namespace Task

/-- **What a lone task comes to**, after so many turns. -/
inductive Comes : Nat → Task σ α → World σ → Task σ α → World σ → Prop
  | refl (t : Task σ α) (w : World σ) : Comes 0 t w t w
  | look {n : Nat} {k : Moment → Task σ α} {u : Task σ α} {w w' : World σ}
      (rest : Comes n (k w.toMoment) w u w') : Comes n (look k) w u w'
  | note {n : Nat} {e : Note} {t u : Task σ α} {w w' : World σ}
      (rest : Comes n t (w.append e) u w') : Comes n (note e t) w u w'
  | step {n : Nat} {f : σ → σ} {k : σ → Task σ α} {u : Task σ α} {w w' : World σ}
      (rest : Comes n (k w.state) { w with state := f w.state } u w') : Comes n (step f k) w u w'
  | wait {m n : Nat} {v : Wait σ} {k : Wake → Task σ α} {x : Wake} {u : Task σ α}
      {w w₁ w' : World σ} (passed : v.Over w m x w₁) (rest : Comes n (k x) w₁ u w') :
      Comes (m + n) (wait v k) w u w'

theorem Comes.bind {n : Nat} {t u : Task σ α} {w w' : World σ} (h : Comes n t w u w')
    (g : α → Task σ β) : Comes n (t.bind g) w (u.bind g) w' := by
  induction h with
  | refl => exact .refl ..
  | look _ ih => exact .look ih
  | note _ ih => exact .note ih
  | step _ ih => exact .step ih
  | wait passed _ ih => exact .wait passed ih

theorem Comes.trans {m n : Nat} {t u v : Task σ α} {w w₁ w' : World σ} (h : Comes m t w u w₁)
    (h' : Comes n u w₁ v w') : Comes (m + n) t w v w' := by
  induction h with
  | refl => rwa [Nat.zero_add]
  | look _ ih => exact .look (ih h')
  | note _ ih => exact .note (ih h')
  | step _ ih => exact .step (ih h')
  | wait passed _ ih =>
    rw [Nat.add_assoc]
    exact .wait passed (ih h')

/-- **A sequence**: a task comes to its end, and what follows goes on from there. -/
theorem Comes.then {m n : Nat} {t : Task σ α} {g : α → Task σ β} {a : α}
    {u : Task σ β} {w w₁ w' : World σ} (h : Comes m t w (done a) w₁) (h' : Comes n (g a) w₁ u w') :
    Comes (m + n) (t.bind g) w u w' :=
  (h.bind g).trans h'

theorem asleep_of_run {t : Task σ α} {w w' : World σ} {v : Wait σ} {k : Wake → Task σ α}
    (run : t.run w = (w', .waiting v k)) : v.wake? w' = none := by
  induction t generalizing w with
  | done a => cases run
  | crash => cases run
  | look q ih => exact ih _ run
  | note e q ih => exact ih run
  | step f q ih => exact ih _ run
  | wait u q ih =>
    rw [Task.run] at run
    cases wakes : u.wake? w with
    | none =>
      rw [wakes] at run
      cases run
      exact wakes
    | some x =>
      rw [wakes] at run
      exact ih x run

end Task

/-! ### The schedule -/

namespace Schedule

section Single
variable {job : Job σ α} {w : World σ} {t : Instant}

/-- A schedule with a single job, which is in the queue. -/
def queued (job : Job σ α) (w : World σ) : Schedule σ α := { world := w, queue := [job] }

/-- A schedule with a single job, which waits. -/
def parked (job : Job σ α) (w : World σ) : Schedule σ α := { world := w, blocked := [job] }

theorem rouse_parked_awake (awake : job.isAwake w = true) :
    (parked job w).rouse = queued job w := by
  simp [parked, queued, rouse, awake]

theorem rouse_parked_asleep (asleep : job.isAwake w = false) :
    (parked job w).rouse = parked job w := by
  simp [parked, rouse, asleep]

theorem nextAlarm_parked (abortAt : job.abortAt = none) :
    (parked job w).nextAlarm = job.wait.alarm? w := by
  simp [parked, nextAlarm, Wait.alarm?, Job.alarms, abortAt]

theorem runTo_parked_cancelled (awake : job.isAwake w.cancelDue = true) (turns : Nat) :
    (parked job w).runTo none (turns + 1) = (queued job w.cancelDue).runTo none turns := by
  have due : (parked job w).cancelDue = queued job w.cancelDue := rouse_parked_awake awake
  rw [runTo, parked]
  dsimp only
  rw [← parked, due]
  rfl

theorem runTo_parked_rings (abortAt : job.abortAt = none) (asleep : job.isAwake w.cancelDue = false)
    (alarm : job.wait.alarm? w.cancelDue = some t) (turns : Nat) :
    (parked job w).runTo none (turns + 1) =
      (parked job (w.cancelDue.advance t)).rouse.runTo none turns := by
  have due : (parked job w).cancelDue = parked job w.cancelDue := rouse_parked_asleep asleep
  rw [runTo, parked]
  dsimp only
  rw [← parked, due, nextAlarm_parked abortAt, alarm]
  rfl

end Single

/-- A schedule with a single job that has come to a pause. -/
def solo (id : Nat) : World σ × Pause σ α → Schedule σ α
  | (w, .done a) => { world := w, finished := [⟨id, .value a, w.now⟩] }
  | (w, .crashed) => { world := w, finished := [⟨id, .crashed, w.now⟩] }
  | (w, .waiting v k) => parked ⟨id, none, v, k⟩ w

section Solo
variable {id : Nat} {v : Wait σ} {k : Wake → Task σ α} {x : Wake} {w w' : World σ}

theorem isAwake_of_wakes (wakes : v.wake? w = some x) : Job.isAwake ⟨id, none, v, k⟩ w = true := by
  rw [Job.isAwake, wakes]
  rfl

theorem isAwake_of_asleep (asleep : v.wake? w = none) : Job.isAwake ⟨id, none, v, k⟩ w = false := by
  rw [Job.isAwake, asleep]
  rfl

theorem runTo_queued (wakes : v.wake? w = some x) (turns : Nat) :
    (queued ⟨id, none, v, k⟩ w).runTo none (turns + 1) =
      (solo id ((k x).run w)).runTo none turns := by
  rw [runTo, queued]
  dsimp only
  rw [resume]
  simp only [wakes]
  rcases run : (k x).run w with ⟨w', a | _ | ⟨v', k'⟩⟩
  · rfl
  · rfl
  · exact congrArg (runTo none turns)
      (rouse_parked_asleep (isAwake_of_asleep (Task.asleep_of_run run)))

/-- **A wait that is over**: the task goes on. -/
theorem runTo_over {n : Nat} (passed : v.Over w n x w') (turns : Nat) :
    (solo id ((Task.wait v k).run w)).runTo none (turns + n) =
      (solo id ((k x).run w')).runTo none turns := by
  have begun : v.wake? w = none → solo id ((Task.wait v k).run w) = parked ⟨id, none, v, k⟩ w :=
      fun asleep => by
    rw [Task.run, asleep]
    rfl
  cases passed with
  | now wakes => rw [Task.run, wakes, Nat.add_zero]
  | cancelled asleep wakes =>
    rw [begun asleep, runTo_parked_cancelled (isAwake_of_wakes wakes), runTo_queued wakes]
  | rings asleep still alarm wakes =>
    rw [begun asleep, runTo_parked_rings rfl (isAwake_of_asleep still) alarm,
      rouse_parked_awake (isAwake_of_wakes wakes), runTo_queued wakes]
  | ringsIn asleep still alarm silent wakes =>
    rw [begun asleep, runTo_parked_rings rfl (isAwake_of_asleep still) alarm,
      rouse_parked_asleep (isAwake_of_asleep silent),
      runTo_parked_cancelled (isAwake_of_wakes wakes), runTo_queued wakes]

end Solo

/-- **What a lone task comes to**, a schedule with no other job comes to. -/
theorem runTo_comes {n : Nat} {t u : Task σ α} {w w' : World σ}
    (h : t.Comes n w u w') (id turns : Nat) :
    (solo id (t.run w)).runTo none (turns + n) = (solo id (u.run w')).runTo none turns := by
  induction h generalizing turns with
  | refl => rfl
  | look _ ih => exact ih turns
  | note _ ih => exact ih turns
  | step _ ih => exact ih turns
  | @wait m n _ _ _ _ _ _ _ passed _ ih =>
    rw [Nat.add_comm m n, ← Nat.add_assoc, runTo_over passed, ih]

/-- What a schedule shows once its only job is over. -/
structure Over (s : Schedule σ α) (id : Nat) (ending : Ending α) (w : World σ) : Prop where
  finished : s.finished = [⟨id, ending, w.now⟩]
  state : s.world.state = w.state
  now : s.world.now = w.now
  log : s.world.log = w.log

theorem over_runTo (id : Nat) (ending : Ending α) (w : World σ) (turns : Nat) :
    ({ world := w, finished := [⟨id, ending, w.now⟩] : Schedule σ α }.runTo none turns).Over id
      ending w := by
  cases turns with
  | zero => exact ⟨rfl, rfl, rfl, rfl⟩
  | succ turns => exact ⟨rfl, rfl, rfl, rfl⟩

theorem runTo_begin (id : Nat) (t : Task σ α) (w : World σ) (turns : Nat) :
    ({ world := w, queue := [.ofTask id none t] } : Schedule σ α).runTo none (turns + 1) =
      (solo id (t.run w)).runTo none turns := by
  have wakes : ({ ready := fun _ => true } : Wait σ).wake? w = some .ready := rfl
  exact runTo_queued (k := fun _ => t) wakes turns

/-- **A lone task that comes to its end** is over. -/
theorem over_of_done {n turns : Nat} {t : Task σ α} {a : α} {w w' : World σ}
    (h : t.Comes n w (.done a) w') (id : Nat) (enough : n < turns) :
    (({ world := w, queue := [.ofTask id none t] } : Schedule σ α).runTo none turns).Over id
      (.value a) w' := by
  obtain ⟨rest, rfl⟩ : ∃ rest, turns = rest + n + 1 := ⟨turns - n - 1, by omega⟩
  rw [runTo_begin, runTo_comes h]
  exact over_runTo id (.value a) w' rest

theorem over_of_crash {n turns : Nat} {t : Task σ α} {w w' : World σ}
    (h : t.Comes n w .crash w') (id : Nat) (enough : n < turns) :
    (({ world := w, queue := [.ofTask id none t] } : Schedule σ α).runTo none turns).Over id
      .crashed w' := by
  obtain ⟨rest, rfl⟩ : ∃ rest, turns = rest + n + 1 := ⟨turns - n - 1, by omega⟩
  rw [runTo_begin, runTo_comes h]
  exact over_runTo id .crashed w' rest

end Schedule

/-! ### How waits are over -/

namespace Instant

/-- When a timer rings that is set for an instant: at once if the instant has come, at the next
whole millisecond if not. -/
def ring (now due : Instant) : Instant := if due ≤ now then now else due.ceilMilli

theorem ring_of_le {now due : Instant} (h : due ≤ now) : now.ring due = now := if_pos h

theorem ring_of_lt {now due : Instant} (h : now < due) : now.ring due = due.ceilMilli :=
  if_neg (Int.not_le.mpr h)

theorem le_ring (now due : Instant) : due ≤ now.ring due := by
  rw [ring]
  split_ifs with h
  · exact h
  · exact due.le_ceilMilli

theorem now_le_ring (now due : Instant) : now ≤ now.ring due := by
  rw [ring]
  split_ifs with h
  · exact Int.le_refl _
  · exact Int.le_trans (Int.le_of_lt (Int.not_le.mp h)) due.le_ceilMilli

/-- No timer rings later than at the next whole millisecond. -/
theorem ring_lt (now due : Instant) (h : now ≤ due) :
    (now.ring due).nanos < due.nanos + 1000000 := by
  rw [ring]
  split_ifs with le
  · have : now.nanos ≤ due.nanos := h
    omega
  · exact due.ceilMilli_lt

end Instant

namespace World

/-- Time has passed and cancellations have taken place, and nothing else has happened. -/
structure Elapses (w w' : World σ) : Prop where
  state : w'.state = w.state
  log : w'.log = w.log
  cancelAt : w'.cancelAt = w.cancelAt
  now : w.now ≤ w'.now
  cancelled : ∀ key, w.cancelled key = true → w'.cancelled key = true
  appointed : ∀ key, w'.cancelled key = true → w.cancelled key = true ∨
    ∃ t ≤ w'.now, w.cancelAt key = some t

theorem Elapses.refl (w : World σ) : w.Elapses w :=
  ⟨rfl, rfl, rfl, Int.le_refl _, fun _ h => h, fun _ => .inl⟩

theorem Elapses.trans {w w₁ w' : World σ} (h : w.Elapses w₁) (h' : w₁.Elapses w') :
    w.Elapses w' where
  state := h'.state.trans h.state
  log := h'.log.trans h.log
  cancelAt := h'.cancelAt.trans h.cancelAt
  now := Int.le_trans h.now h'.now
  cancelled key hk := h'.cancelled key (h.cancelled key hk)
  appointed key hk := by
    rcases h'.appointed key hk with earlier | ⟨t, ht, due⟩
    · exact (h.appointed key earlier).imp_right fun ⟨t, ht, due⟩ => ⟨t, Int.le_trans ht h'.now, due⟩
    · exact .inr ⟨t, ht, h.cancelAt ▸ due⟩

theorem elapses_cancelDue (w : World σ) : w.Elapses w.cancelDue where
  state := rfl
  log := rfl
  cancelAt := rfl
  now := Int.le_refl _
  cancelled key hk := Bool.or_eq_true_iff.mpr (.inl hk)
  appointed key hk := by
    rcases Bool.or_eq_true_iff.mp hk with earlier | due
    · exact .inl earlier
    · obtain ⟨t, at_t, ht⟩ := (Option.any_eq_true ..).mp due
      exact .inr ⟨t, of_decide_eq_true ht, at_t⟩

theorem elapses_advance (w : World σ) {t : Instant} (later : w.now ≤ t) :
    w.Elapses (w.advance t) where
  state := rfl
  log := rfl
  cancelAt := rfl
  now := later
  cancelled key hk := Bool.or_eq_true_iff.mpr (.inl hk)
  appointed key hk := by
    rcases Bool.or_eq_true_iff.mp hk with earlier | due
    · exact .inl earlier
    · obtain ⟨t', at_t, ht⟩ := (Option.any_eq_true ..).mp due
      have earlier : t' < t := of_decide_eq_true ht
      exact .inr ⟨t', Int.le_of_lt earlier, at_t⟩

/-- A cancellation neither has taken place nor will. -/
structure Spares (w : World σ) (key : CancelKey) : Prop where
  cancelled : w.cancelled key = false
  cancelAt : w.cancelAt key = none

theorem Spares.elapses {w w' : World σ} {key : CancelKey} (h : w.Spares key)
    (passes : w.Elapses w') : w'.Spares key where
  cancelled := by
    by_contra hk
    rcases passes.appointed key (Bool.not_eq_false _ ▸ hk) with earlier | ⟨t, -, due⟩
    · rw [h.cancelled] at earlier
      cases earlier
    · rw [h.cancelAt] at due
      cases due
  cancelAt := passes.cancelAt ▸ h.cancelAt

/-- One if a cancellation has not taken place, zero if it has. -/
def pending (w : World σ) (key : CancelKey) : Nat := if w.cancelled key then 0 else 1

theorem pending_of_cancelled {w : World σ} {key : CancelKey} (h : w.cancelled key = true) :
    w.pending key = 0 := if_pos h

theorem pending_of_not {w : World σ} {key : CancelKey} (h : w.cancelled key = false) :
    w.pending key = 1 := by
  rw [pending, h, if_neg Bool.false_ne_true]

theorem Elapses.pending_le {w w' : World σ} (h : w.Elapses w') (key : CancelKey) :
    w'.pending key ≤ w.pending key := by
  cases earlier : w.cancelled key with
  | false =>
    rw [pending_of_not earlier, pending]
    split_ifs <;> omega
  | true => exact (pending_of_cancelled (h.cancelled key earlier)) ▸ Nat.zero_le _

end World

namespace Wait

variable {v : Wait σ} {key : CancelKey} {w : World σ}

/-- A wait for an instant, a deadline and one cancellation. -/
structure IsTimed (v : Wait σ) (key : CancelKey) : Prop where
  unready : ∀ s, v.ready s = false
  hears : v.cancel = some key

/-- Whether such a wait is over, and why. -/
inductive Wakes (v : Wait σ) (key : CancelKey) (w : World σ) : Option Wake → Prop
  | cancelled (off : w.cancelled key = true) : Wakes v key w (some .cancelled)
  | ready {due : Instant} (on : w.cancelled key = false) (appointed : v.due = some due)
      (come : due ≤ w.now) : Wakes v key w (some .ready)
  | expired {d : Instant} (on : w.cancelled key = false)
      (early : ∀ due, v.due = some due → w.now < due) (appointed : v.deadline = some d)
      (come : d ≤ w.now) : Wakes v key w (some .expired)
  | asleep (on : w.cancelled key = false) (early : ∀ due, v.due = some due → w.now < due)
      (inTime : ∀ d, v.deadline = some d → w.now < d) : Wakes v key w none

theorem IsTimed.wakes (h : v.IsTimed key) (w : World σ) : v.Wakes key w (v.wake? w) := by
  have early :
      ∀ {t? : Option Instant}, ¬ (t?.any fun t => decide (t ≤ w.now)) = true →
      ∀ t, t? = some t → w.now < t := by
    rintro _ no t rfl
    exact Int.not_le.mp fun le => no (decide_eq_true le)
  rw [wake?, h.hears, h.unready, Bool.false_or, Option.any_some]
  split_ifs with off come come'
  · exact .cancelled off
  · obtain ⟨due, appointed, le⟩ := (Option.any_eq_true ..).mp come
    exact .ready (Bool.eq_false_iff.mpr off) appointed (of_decide_eq_true le)
  · obtain ⟨d, appointed, le⟩ := (Option.any_eq_true ..).mp come'
    exact .expired (Bool.eq_false_iff.mpr off) (early come) appointed (of_decide_eq_true le)
  · exact .asleep (Bool.eq_false_iff.mpr off) (early come) (early come')

theorem alarm?_eq (v : Wait σ) (w : World σ) :
    v.alarms w = [] ∨ ∃ a ∈ v.alarms w, v.alarm? w = some a.ceilMilli ∧
      ∀ b ∈ v.alarms w, a ≤ b := by
  let job : Job σ Unit := ⟨0, none, v, fun _ => .crash⟩
  have alarms : (Schedule.parked job w).alarms = v.alarms w := by
    simp [Schedule.alarms, Schedule.parked, Job.alarms, job]
  have next : (Schedule.parked job w).nextAlarm = v.alarm? w := Schedule.nextAlarm_parked rfl
  rw [← alarms, ← next]
  exact (Schedule.nextAlarm_eq _).imp_left And.left

/-- **Which of them ends the wait**, and when. -/
inductive Tells (v : Wait σ) (key : CancelKey) (now : Instant) (w : World σ) : Wake → Prop
  | cancelled (off : w.cancelled key = true) : Tells v key now w .cancelled
  | ready {due : Instant} (on : w.cancelled key = false) (appointed : v.due = some due)
      (rings : w.now = now.ring due) (first : ∀ d, v.deadline = some d →
        now.ring due ≤ now.ring d) : Tells v key now w .ready
  | expired {d : Instant} (on : w.cancelled key = false) (appointed : v.deadline = some d)
      (rings : w.now = now.ring d) (first : ∀ due, v.due = some due → now.ring d < now.ring due) :
      Tells v key now w .expired

theorem Wakes.tells {x : Wake} (h : v.Wakes key w (some x)) : v.Tells key w.now w x := by
  cases h with
  | cancelled off => exact .cancelled off
  | ready on appointed come =>
    refine .ready on appointed (Instant.ring_of_le come).symm fun d _ => ?_
    rw [Instant.ring_of_le come]
    exact Instant.now_le_ring w.now d
  | expired on early appointed come =>
    refine .expired on appointed (Instant.ring_of_le come).symm fun due hdue => ?_
    rw [Instant.ring_of_le come]
    exact Int.lt_of_lt_of_le (early due hdue) (Instant.le_ring w.now due)

theorem Wakes.tells_of_alarm {a : Instant} {x : Wake}
    (wakes : v.Wakes key (w.advance a.ceilMilli) (some x))
    (early : ∀ due, v.due = some due → w.now < due) (inTime : ∀ d, v.deadline = some d → w.now < d)
    (first : ∀ b ∈ v.alarms w, a ≤ b) : v.Tells key w.now (w.advance a.ceilMilli) x := by
  have isDue : ∀ {due}, v.due = some due → due ∈ v.alarms w := fun e => by simp [alarms, e]
  have isDeadline : ∀ {d}, v.deadline = some d → d ∈ v.alarms w := fun e => by simp [alarms, e]
  -- what has come when the alarm rings rings with it
  have together :
      ∀ {b}, b ∈ v.alarms w → w.now < b → b ≤ a.ceilMilli → a.ceilMilli = w.now.ring b := by
    intro b hb later come
    rw [Instant.ring_of_lt later]
    have := first b hb
    simp only [Instant.ceilMilli, Instant.le_iff, Instant.mk.injEq] at *
    omega
  have notBefore : ∀ {b}, b ∈ v.alarms w → w.now < b → a.ceilMilli ≤ w.now.ring b :=
      fun hb later => by
    rw [Instant.ring_of_lt later]
    exact Instant.ceilMilli_mono (first _ hb)
  cases wakes with
  | cancelled off => exact .cancelled off
  | @ready due on appointed come =>
    have rings := together (isDue appointed) (early due appointed) come
    exact .ready on appointed rings fun d hd => rings ▸ notBefore (isDeadline hd) (inTime d hd)
  | @expired d on early' appointed come =>
    have rings := together (isDeadline appointed) (inTime d appointed) come
    exact .expired on appointed rings fun due hdue => rings ▸ Int.lt_of_lt_of_le (early' due hdue)
      (Instant.le_ring w.now due)

theorem IsTimed.later (h : v.IsTimed key) (on : w.cancelDue.cancelled key = false)
    (early : ∀ due, v.due = some due → w.now < due)
    (inTime : ∀ d, v.deadline = some d → w.now < d) {a : Instant} (mem : a ∈ v.alarms w.cancelDue) :
    w.now < a := by
  simp only [alarms, h.hears, Option.bind_some, List.mem_append, Option.mem_toList] at mem
  rcases mem with (due | deadline) | (cancel : w.cancelAt key = some a)
  · exact early a due
  · exact inTime a deadline
  · have notYet := (Bool.or_eq_false_iff.mp on).2
    rw [cancel, Option.any_some] at notYet
    have notCome : ¬ a ≤ w.now := of_decide_eq_false notYet
    exact Int.not_le.mp notCome

/-- If only a cancellation was waited for at the first alarm, it takes place then. -/
theorem IsTimed.cancelled_of_silent (h : v.IsTimed key) {a : Instant} (mem : a ∈ v.alarms w)
    (silent : v.wake? (w.advance a.ceilMilli) = none) :
    (w.advance a.ceilMilli).cancelDue.cancelled key = true := by
  have asleep := h.wakes (w.advance a.ceilMilli)
  rw [silent] at asleep
  cases asleep with
  | asleep _ early inTime =>
    simp only [alarms, h.hears, Option.bind_some, List.mem_append, Option.mem_toList] at mem
    rcases mem with (due | deadline) | cancel
    · exact absurd a.le_ceilMilli (Int.not_le.mpr (early a due))
    · exact absurd a.le_ceilMilli (Int.not_le.mpr (inTime a deadline))
    · have come : (some a).any (fun t => decide (t ≤ a.ceilMilli)) = true :=
        decide_eq_true a.le_ceilMilli
      exact Bool.or_eq_true_iff.mpr (.inr (cancel.symm ▸ come))

/-- A wait that is not over at once is over when its first alarm rings, or once the cancellation has
taken place then. -/
theorem IsTimed.exists_rung (h : v.IsTimed key) (asleep : v.wake? w = none)
    (asleep' : v.wake? w.cancelDue = none) {a : Instant} (mem : a ∈ v.alarms w.cancelDue)
    (alarm : v.alarm? w.cancelDue = some a.ceilMilli) (first : ∀ b ∈ v.alarms w.cancelDue, a ≤ b) :
    ∃ n x w', v.Over w n x w' ∧ w.Elapses w' ∧ n + w'.pending key ≤ 2 + w.pending key ∧
      v.Tells key w.now w' x := by
  have sleeps := h.wakes w.cancelDue
  rw [asleep'] at sleeps
  cases sleeps with
  | asleep on early inTime =>
  have later : w.now ≤ a.ceilMilli :=
    Int.le_trans (Int.le_of_lt (h.later on early inTime mem)) a.le_ceilMilli
  have advanced := w.elapses_cancelDue.trans (w.cancelDue.elapses_advance later)
  have rung := h.wakes (w.cancelDue.advance a.ceilMilli)
  cases wakes : v.wake? (w.cancelDue.advance a.ceilMilli) with
  | some x =>
    rw [wakes] at rung
    have le := advanced.pending_le key
    exact ⟨2, x, _, .rings asleep asleep' alarm wakes,
      advanced, by omega, rung.tells_of_alarm early inTime first⟩
  | none =>
    have off := h.cancelled_of_silent mem wakes
    have closed := World.pending_of_cancelled off
    have opened : w.pending key = 1 := World.pending_of_not (Bool.or_eq_false_iff.mp on).1
    refine ⟨3, .cancelled, _, .ringsIn asleep asleep' alarm wakes ?_,
      advanced.trans (World.elapses_cancelDue _), by omega, .cancelled off⟩
    rw [wake?, h.hears, Option.any_some, if_pos off]

/-- **A wait for an instant, a deadline and one cancellation** is over by one of them, after two
turns; it takes another one if the cancellation takes place meanwhile. -/
theorem IsTimed.exists_over (h : v.IsTimed key) (w : World σ)
    (bounded : v.due ≠ none ∨ v.deadline ≠ none) :
    ∃ n x w', v.Over w n x w' ∧ w.Elapses w' ∧ n + w'.pending key ≤ 2 + w.pending key ∧
      v.Tells key w.now w' x := by
  have wakes := h.wakes w
  cases at_once : v.wake? w with
  | some x =>
    rw [at_once] at wakes
    exact ⟨0, x, w, .now at_once, .refl w, by omega, wakes.tells⟩
  | none =>
    rw [at_once] at wakes
    cases wakes with
    | asleep on early inTime =>
    have open_ := World.pending_of_not on
    have due := h.wakes w.cancelDue
    cases cancelled : v.wake? w.cancelDue with
    | some x =>
      rw [cancelled] at due
      cases due with
      | cancelled off =>
        have closed := World.pending_of_cancelled off
        exact ⟨2, _, _, .cancelled at_once cancelled, w.elapses_cancelDue, by omega, .cancelled off⟩
      | ready _ appointed come => exact absurd come (Int.not_le.mpr (early _ appointed))
      | expired _ _ appointed come => exact absurd come (Int.not_le.mpr (inTime _ appointed))
    | none =>
      rcases v.alarm?_eq w.cancelDue with silent | ⟨a, mem, alarm, first⟩
      · simp only [alarms, List.append_eq_nil_iff, Option.toList_eq_nil_iff] at silent
        exact absurd (bounded.elim (absurd silent.1.1) (absurd silent.1.2)) not_false
      · exact h.exists_rung at_once cancelled mem alarm first

end Wait

end TokenChain
