import TokenChain.Proofs.Retry.Conduct

/-! # Attempts within the bounds of a request

How an attempt comes out on behalf of a request can be told beforehand, whatever the deadline of the
request is and whenever it is cancelled (`Attempt.bounded`): with its own result if it ends by the
time a timer rings for the first of its bounds, and otherwise with the error of that bound; but a
cancellation that comes before either is what ends it. Of what comes at one instant the end of an
attempt is before a bound, and a bound is before a cancellation.

`Wait.Settles` says so of a single wait, `Attempt.exists_bounded` of an attempt, and
`Request.exists_pause` of the pause that follows it. -/

namespace TokenChain

variable {σ α : Type}

/-! ### Waits and cancellations -/

namespace World

theorem cancelled_cancelDue_iff (w : World σ) (key : CancelKey) :
    w.cancelDue.cancelled key = true ↔ w.cancelled key = true ∨
      ∃ c, w.cancelAt key = some c ∧ c ≤ w.now := by
  simp [cancelDue, Option.any_eq_true]

theorem cancelled_advance_iff (w : World σ) (t : Instant) (key : CancelKey) :
    (w.advance t).cancelled key = true ↔ w.cancelled key = true ∨
      ∃ c, w.cancelAt key = some c ∧ c < t := by
  simp [advance, Option.any_eq_true]

end World

namespace Wait

variable {v : Wait σ} {key : CancelKey} {w w' : World σ}

/-- The instants at which a wait is over without a cancellation. -/
def Bound (v : Wait σ) (b : Instant) : Prop := v.due = some b ∨ v.deadline = some b

/-- **Whether a cancellation ends a wait**, given the worlds in which the wait begins and in which
it is over. -/
inductive Settles (v : Wait σ) (key : CancelKey) (w w' : World σ) : Wake → Prop
  | cancelled {c : Instant} (appointed : w.cancelAt key = some c) (rings : w'.now = w.now.ring c)
      (first : ∀ b, v.Bound b → w.now < b ∧ c < w.now.ring b) : Settles v key w w' .cancelled
  | spared {x : Wake} (on : w'.cancelled key = false)
      (last : ∀ c, w.cancelAt key = some c → w'.now ≤ w.now ∨ w'.now ≤ c) : Settles v key w w' x

theorem IsTimed.of_asleep (timed : v.IsTimed key) (asleep : v.wake? w = none) :
    w.cancelled key = false ∧ ∀ b, v.Bound b → w.now < b := by
  have sleeps := timed.wakes w
  rw [asleep] at sleeps
  cases sleeps with
  | asleep on early inTime => exact ⟨on, fun b hb => hb.elim (early b) (inTime b)⟩

theorem IsTimed.wake?_of_off (timed : v.IsTimed key) (off : w.cancelled key = true) :
    v.wake? w = some .cancelled := by
  rw [wake?, timed.hears, Option.any_some, if_pos off]

theorem IsTimed.exists_alarm (timed : v.IsTimed key) {t : Instant}
    (still : v.wake? w.cancelDue = none) (alarm : v.alarm? w.cancelDue = some t) :
    ∃ a : Instant, t = a.ceilMilli ∧ (∀ b, v.Bound b → w.now < b ∧ a ≤ b) ∧
      ∀ c, w.cancelAt key = some c → w.now < c ∧ a ≤ c := by
  obtain ⟨on, early⟩ := timed.of_asleep still
  rcases v.alarm?_eq w.cancelDue with none | ⟨a, -, first, least⟩
  · rw [alarm?, none] at alarm
    cases alarm
  · refine ⟨a, Option.some.inj (alarm.symm.trans first), fun b hb => ⟨early b hb, least b ?_⟩,
      fun c hc => ⟨?_, least c ?_⟩⟩
    · rcases hb with due | deadline
      · simp [alarms, due]
      · simp [alarms, deadline]
    · rw [Bool.eq_false_iff, ne_eq, World.cancelled_cancelDue_iff] at on
      exact Int.not_le.mp fun come => on (.inr ⟨c, hc, come⟩)
    · simp [alarms, timed.hears, World.cancelDue, hc]

/-- A cancellation that is not later than the first alarm, to the millisecond, rings with it. -/
theorem Settles.of_alarm {a c : Instant} (appointed : w.cancelAt key = some c)
    (later : w.now < c) (least : a ≤ c) (come : c ≤ a.ceilMilli) (now : w'.now = a.ceilMilli)
    (ahead : ∀ b, v.Bound b → w.now < b ∧ c < b.ceilMilli) : v.Settles key w w' .cancelled := by
  refine .cancelled appointed ?_ fun b hb => ?_
  · rw [now, Instant.ring_of_lt later]
    simp only [Instant.ceilMilli, Instant.le_iff, Instant.mk.injEq] at *
    omega
  · obtain ⟨early, before⟩ := ahead b hb
    exact ⟨early, Instant.ring_of_lt early ▸ before⟩

/-- **How a cancellation and what a wait is for compete.** -/
theorem Over.settles {n : Nat} {x : Wake} (passed : v.Over w n x w') (timed : v.IsTimed key)
    (on : w.cancelled key = false) : v.Settles key w w' x := by
  -- a wait that has not been cancelled when it is over is spared; so let it be cancelled then
  by_cases off : w'.cancelled key = false
  · refine .spared off fun c hc => ?_
    cases passed with
    | now => exact .inl (Int.le_refl _)
    | cancelled => exact .inl (Int.le_refl _)
    | rings =>
      rw [Bool.eq_false_iff, ne_eq, World.cancelled_advance_iff] at off
      exact .inr (Int.not_lt.mp fun before => off (.inr ⟨c, hc, before⟩))
    | @ringsIn _ t =>
      rw [Bool.eq_false_iff, ne_eq, World.cancelled_cancelDue_iff] at off
      exact .inr (Int.le_of_lt (Int.not_le.mp fun come => off (.inr ⟨c, hc, come⟩)))
  rw [Bool.not_eq_false] at off
  have woken := timed.wake?_of_off off
  cases passed with
  | now =>
    rw [on] at off
    cases off
  | cancelled asleep wakes =>
    obtain rfl : _ = Wake.cancelled := Option.some.inj (wakes.symm.trans woken)
    obtain ⟨-, early⟩ := timed.of_asleep asleep
    obtain ⟨c, appointed, come⟩ :=
      ((w.cancelled_cancelDue_iff key).mp off).resolve_left (Bool.eq_false_iff.mp on)
    refine .cancelled appointed (Instant.ring_of_le come).symm fun b hb => ⟨early b hb, ?_⟩
    exact Int.lt_of_le_of_lt come (Int.lt_of_lt_of_le (early b hb) (Instant.le_ring w.now b))
  | rings asleep still alarm wakes =>
    obtain rfl : _ = Wake.cancelled := Option.some.inj (wakes.symm.trans woken)
    obtain ⟨a, rfl, ahead, appointed⟩ := timed.exists_alarm still alarm
    have notYet := (timed.of_asleep still).1
    obtain ⟨c, hc, before⟩ :=
      ((w.cancelDue.cancelled_advance_iff _ key).mp off).resolve_left (Bool.eq_false_iff.mp notYet)
    obtain ⟨later, least⟩ := appointed c hc
    refine .of_alarm hc later least (Int.le_of_lt before) rfl fun b hb => ?_
    obtain ⟨early, least⟩ := ahead b hb
    exact ⟨early, Int.lt_of_lt_of_le before (Instant.ceilMilli_mono least)⟩
  | ringsIn asleep still alarm silent wakes =>
    obtain rfl : _ = Wake.cancelled := Option.some.inj (wakes.symm.trans woken)
    obtain ⟨a, rfl, ahead, appointed⟩ := timed.exists_alarm still alarm
    obtain ⟨notYet, after⟩ := timed.of_asleep silent
    obtain ⟨c, hc, come⟩ :=
      ((World.cancelled_cancelDue_iff _ key).mp off).resolve_left (Bool.eq_false_iff.mp notYet)
    obtain ⟨later, least⟩ := appointed c hc
    refine .of_alarm hc later least come rfl fun b hb => ⟨(ahead b hb).1, ?_⟩
    exact Int.lt_of_le_of_lt come (Int.lt_of_lt_of_le (after b hb) b.le_ceilMilli)

end Wait

/-! ### Attempts -/

/-- The end of a limit, or the deadline of a request if it comes before. -/
def Request.lastMoment (r : Request) (limitEnd : Instant) : Instant :=
  r.deadline.elim limitEnd fun d => min d limitEnd

theorem Request.earliest_eq (r : Request) (limitEnd : Instant) :
    Instant.earliest r.deadline (some limitEnd) = some (r.lastMoment limitEnd) := by
  unfold lastMoment Instant.earliest
  cases r.deadline <;> rfl

namespace Attempt

/-- How work comes out that a cancellation may end before. -/
def Outcome.unlessCancelled (credential : String) (now : Instant) (c? : Option Instant)
    (o : Outcome α) : Outcome α :=
  match c? with
  | none => o
  | some c =>
    if now < o.stop ∧ c < o.stop then ⟨now.ring c, some (cancelledResult credential)⟩ else o

/-- How an attempt comes out that is not cancelled: with its own result if it ends by the time the
timer of its first bound rings. -/
def uncancelled (r : Request) (credential : String) (limit : Duration) (now : Instant)
    (a : Attempt α) : Outcome α :=
  match now.after? limit with
  | none => ⟨now, none⟩
  | some limitEnd =>
    let last := now.ring (r.lastMoment limitEnd)
    match a with
    | hangs => ⟨last, some (expiredResult r credential limit now)⟩
    | ends after result =>
      if now + after ≤ last then ⟨now.ring (now + after), some result⟩
        else ⟨last, some (expiredResult r credential limit now)⟩

/-- **How an attempt comes out** that is begun at an instant on behalf of a request, in a world in
which the request has been cancelled or is to be. -/
def bounded (r : Request) (credential : String) (limit : Duration) (w : World σ) (now : Instant)
    (a : Attempt α) : Outcome α :=
  if w.cancelled r.cancel then ⟨now, some (cancelledResult credential)⟩
  else (a.uncancelled r credential limit now).unlessCancelled credential now (w.cancelAt r.cancel)

variable {r : Request} {credential : String} {limit : Duration} {w w' : World σ}

section
variable {now limitEnd : Instant} {after : Duration} (shown : now.after? limit = some limitEnd)
include shown

/-- An attempt that ends by the time the timer of its first bound rings. -/
theorem uncancelled_of_le (credential : String)
    (inTime : now + after ≤ now.ring (r.lastMoment limitEnd)) (result : Except Error α) :
    (ends after result).uncancelled r credential limit now =
      ⟨now.ring (now + after), some result⟩ := by
  unfold uncancelled
  simp only [shown, if_pos inTime]

theorem uncancelled_of_lt (credential : String)
    (late : now.ring (r.lastMoment limitEnd) < now + after) (result : Except Error α) :
    (ends after result).uncancelled r credential limit now =
      ⟨now.ring (r.lastMoment limitEnd), some (expiredResult r credential limit now)⟩ := by
  have late : ¬ now + after ≤ now.ring (r.lastMoment limitEnd) := Int.not_le.mpr late
  unfold uncancelled
  simp only [shown, if_neg late]

theorem uncancelled_of_now (credential : String) (atOnce : after.nanos = 0)
    (result : Except Error α) :
    (ends after result).uncancelled r credential limit now = ⟨now, some result⟩ := by
  have come : now + after ≤ now := by
    rw [Instant.le_iff, Instant.add_nanos, atOnce]
    omega
  rw [uncancelled_of_le shown credential (Int.le_trans come (Instant.now_le_ring ..)),
    Instant.ring_of_le come]

end

theorem Outcome.unlessCancelled_of_spared {o : Outcome α} {now : Instant} {c? : Option Instant}
    (last : ∀ c, c? = some c → o.stop ≤ now ∨ o.stop ≤ c) :
    o.unlessCancelled credential now c? = o := by
  unfold unlessCancelled
  split
  · rfl
  next c =>
    refine if_neg fun ⟨running, before⟩ => ?_
    rcases last c rfl with ended | first
    · exact Int.not_le.mpr running ended
    · exact Int.not_le.mpr before first

theorem Outcome.unlessCancelled_of_now (credential : String) (now : Instant) (c? : Option Instant)
    (result : Option (Except Error α)) :
    unlessCancelled credential now c? ⟨now, result⟩ = ⟨now, result⟩ :=
  unlessCancelled_of_spared fun _ _ => .inl (Int.le_refl _)

/-- **A wait of an attempt that is over**, given how the attempt comes out if it is not cancelled,
and that this is when a bound of the wait rings. -/
theorem Outcome.unlessCancelled_of_settles {o : Outcome α} {v : Wait σ} {x : Wake}
    {u : Task σ (Except Error α)} {b : Instant} (bound : v.Bound b) (stop : o.stop = w.now.ring b)
    (settles : v.Settles r.cancel w w' x)
    (cancelled : x = .cancelled → u = .done (cancelledResult credential))
    (spared : w'.cancelled r.cancel = false → w'.now = o.stop ∧ u = o.task) :
    u = (o.unlessCancelled credential w.now (w.cancelAt r.cancel)).task ∧
      w'.now = (o.unlessCancelled credential w.now (w.cancelAt r.cancel)).stop := by
  cases settles with
  | @cancelled c appointed rings first =>
    obtain ⟨early, before⟩ := first b bound
    have running : w.now < o.stop := stop ▸ Int.lt_of_lt_of_le early (Instant.le_ring w.now b)
    have cut : o.unlessCancelled credential w.now (w.cancelAt r.cancel) =
        ⟨w.now.ring c, some (cancelledResult credential)⟩ := by
      rw [appointed, unlessCancelled]
      exact if_pos ⟨running, stop ▸ before⟩
    rw [cut]
    exact ⟨cancelled rfl, rings⟩
  | spared on last =>
    obtain ⟨rings, rfl⟩ := spared on
    rw [unlessCancelled_of_spared (rings ▸ last)]
    exact ⟨rfl, rings⟩

variable (credential) in
theorem exists_giveUp_bounded {limitEnd : Instant} (shown : w.now.after? limit = some limitEnd)
    (on : w.cancelled r.cancel = false) (a : Attempt α) :
    ∃ n u w', (a.task.giveUp r.cancel (Instant.earliest r.deadline (some limitEnd))
      (cancelledResult credential)
        (expiredResult r credential limit w.now)).Comes n w u w' ∧ w.Elapses w' ∧
      n + w'.pending r.cancel ≤ 2 + w.pending r.cancel ∧
      u = (a.bounded r credential limit w w.now).task ∧
      w'.now = (a.bounded r credential limit w w.now).stop := by
  have timed :
      ∀ due?, ({ due := due?, cancel := some r.cancel, deadline := some (r.lastMoment limitEnd) } :
        Wait σ).IsTimed r.cancel :=
    fun _ => ⟨fun _ => rfl, rfl⟩
  rw [r.earliest_eq, bounded, on, if_neg Bool.false_ne_true]
  cases a with
  | hangs =>
    obtain ⟨n, x, w', comes, passes, turns, tells, passed⟩ :=
      Task.exists_afterWake r.cancel (Option.some_ne_none (r.lastMoment limitEnd)) none
        (cancelledResult credential) (expiredResult r credential limit w.now) (fun _ => .crash) w
    refine ⟨n, _, w', comes, passes, turns, ?_⟩
    refine Outcome.unlessCancelled_of_settles (.inr rfl) ?_ (passed.settles (timed none) on)
      (fun cancelled => ?_) fun spared => ?_
    · simp only [uncancelled, shown]
    · rw [cancelled]
      rfl
    · simp only [uncancelled, shown]
      cases tells with
      | cancelled off =>
        rw [spared] at off
        cases off
      | ready _ appointed => cases appointed
      | expired _ appointed rings =>
        cases appointed
        exact ⟨rings, rfl⟩
  | ends after result =>
    rw [task]
    by_cases atOnce : after.nanos = 0
    · rw [if_pos atOnce, uncancelled_of_now shown credential atOnce, Outcome.unlessCancelled_of_now]
      exact ⟨0, .done result, w, .refl .., .refl w, by omega, rfl, rfl⟩
    · obtain ⟨n, x, w', comes, passes, turns, tells, passed⟩ :=
        Task.exists_afterWake r.cancel (Option.some_ne_none (r.lastMoment limitEnd))
          (some (w.now + after)) (cancelledResult credential)
            (expiredResult r credential limit w.now) (fun _ => .done result) w
      have settles := passed.settles (timed _) on
      rw [if_neg atOnce]
      refine ⟨n, _, w', .look comes, passes, turns, ?_⟩
      by_cases inTime : w.now + after ≤ w.now.ring (r.lastMoment limitEnd)
      · have own := uncancelled_of_le (r := r) shown credential inTime result
        rw [own]
        refine Outcome.unlessCancelled_of_settles (.inl rfl) rfl settles
          (fun cancelled => ?_) fun spared => ?_
        · rw [cancelled]
          rfl
        · cases tells with
          | cancelled off =>
            rw [spared] at off
            cases off
          | ready _ appointed rings =>
            cases appointed
            exact ⟨rings, rfl⟩
          | expired _ appointed _ first =>
            cases appointed
            exact absurd ((Instant.ring_le_ring_iff ..).mpr inTime) (Int.not_le.mpr (first _ rfl))
      · have late := uncancelled_of_lt (r := r) shown credential (Int.not_le.mp inTime) result
        rw [late]
        refine Outcome.unlessCancelled_of_settles (.inr rfl) rfl settles
          (fun cancelled => ?_) fun spared => ?_
        · rw [cancelled]
          rfl
        · cases tells with
          | cancelled off =>
            rw [spared] at off
            cases off
          | ready _ appointed _ first =>
            cases appointed
            exact absurd ((Instant.ring_le_ring_iff ..).mp (first _ rfl)) inTime
          | expired _ appointed rings =>
            cases appointed
            exact ⟨rings, rfl⟩

/-- **An attempt on behalf of a request** comes out as it is bounded. -/
theorem exists_bounded (limit : Duration) (r : Request) (credential : String)
    (a : Attempt α) (w : World σ) :
    ∃ n w', (r.within credential (some limit) a.task).Comes n w
      (a.bounded r credential limit w w.now).task w' ∧ w.Elapses w' ∧
      n + w'.pending r.cancel ≤ 2 + w.pending r.cancel ∧
      w'.now = (a.bounded r credential limit w w.now).stop := by
  cases off : w.cancelled r.cancel with
  | true =>
    rw [bounded, if_pos off]
    refine ⟨0, w, .look ?_, .refl w, by omega, rfl⟩
    rw [if_pos off]
    exact .refl ..
  | false =>
    cases shown : w.now.after? limit with
    | none =>
      have broken : a.bounded r credential limit w w.now = ⟨w.now, none⟩ := by
        simp only [bounded, off, uncancelled, shown, Bool.false_eq_true, if_false]
        exact Outcome.unlessCancelled_of_now ..
      rw [broken]
      refine ⟨0, w, .look ?_, .refl w, by omega, rfl⟩
      simp only [off, Request.limitEnd?, shown, Option.map_none, Bool.false_eq_true, if_false]
      exact .refl ..
    | some limitEnd =>
      obtain ⟨n, u, w', comes, passes, turns, rfl, stop⟩ :=
        exists_giveUp_bounded credential shown off a
      refine ⟨n, w', .look ?_, passes, turns, stop⟩
      simp only [off, Request.limitEnd?, shown, Option.map_some, Bool.false_eq_true, if_false]
      exact comes

end Attempt

end TokenChain
