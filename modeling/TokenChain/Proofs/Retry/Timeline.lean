import TokenChain.Proofs.Schedule.Solo
import TokenChain.Retry.Trial

/-! # The timeline of an execution

When attempts that go as a list says are begun and how they come out can be told beforehand. An
attempt that is bounded by the policy alone comes out as `Attempt.outcome` says: with its own
result, or without a response if it has none when the timer of its limit rings. The next one is
begun when the timer of the pause between them has rung (`RetryPolicy.begins`).

An attempt on behalf of a request comes out as it does without the request, unless the request is
cancelled or its deadline comes first (`RetryPolicy.exists_attempt`); and a pause lasts as long as
it does without the request, unless it is refused for the deadline or cut short by a cancellation
(`Request.exists_pause`). -/

namespace TokenChain

variable {σ α : Type}

/-! ### Attempts within their limit -/

namespace Instant

theorem ring_mono (now : Instant) {a b : Instant} (h : a ≤ b) : now.ring a ≤ now.ring b := by
  by_cases ha : a ≤ now
  · rw [ring_of_le ha]
    exact now_le_ring now b
  · rw [ring_of_lt (Int.not_le.mp ha), ring_of_lt (Int.lt_of_lt_of_le (Int.not_le.mp ha) h)]
    exact ceilMilli_mono h

/-- What has come when a timer rings rings with it, or before. -/
theorem ring_le_ring_iff (now a b : Instant) : now.ring a ≤ now.ring b ↔ a ≤ now.ring b := by
  refine ⟨fun h => Int.le_trans (le_ring now a) h, fun h => ?_⟩
  by_cases ha : a ≤ now
  · rw [ring_of_le ha]
    exact now_le_ring now b
  · by_cases hb : b ≤ now
    · rw [ring_of_le hb] at h
      exact absurd h ha
    · rw [ring_of_lt (Int.not_le.mp hb)] at h ⊢
      rw [ring_of_lt (Int.not_le.mp ha)]
      simp only [ceilMilli, le_iff] at *
      omega

/-- When a pause is over. -/
def resumes (t : Instant) (delay : Duration) : Instant := t.ring ((t.after? delay).getD t.farAhead)

/-- A pause lasts as long as it is asked to, and less than a millisecond longer. -/
theorem resumes_bounds {t u : Instant} {delay : Duration} (shown : t.after? delay = some u) :
    u ≤ t.resumes delay ∧ (t.resumes delay).nanos < u.nanos + 1000000 := by
  have later : t ≤ u := by
    rw [after?_eq_some shown, le_iff, add_nanos]
    omega
  rw [resumes, shown, Option.getD_some]
  exact ⟨le_ring t u, ring_lt t u later⟩

theorem earliest_cases (d? : Option Instant) (e : Instant) :
    (earliest d? (some e) = some e ∧ ∀ d, d? = some d → e ≤ d) ∨
      ∃ d, d? = some d ∧ d < e ∧ earliest d? (some e) = some d := by
  cases d? with
  | none => exact .inl ⟨rfl, nofun⟩
  | some d =>
    rcases Int.lt_or_le d.nanos e.nanos with lt | le
    · exact .inr ⟨d, rfl, lt, congrArg (some ∘ Instant.mk) (Int.min_eq_left (Int.le_of_lt lt))⟩
    · refine .inl ⟨congrArg (some ∘ Instant.mk) (Int.min_eq_right le), ?_⟩
      rintro _ ⟨⟩
      exact le

end Instant

namespace Attempt

/-- How an attempt comes out: when it is over, and with what, unless it breaks down. -/
structure Outcome (α : Type) where
  stop : Instant
  result : Option (Except Error α)

/-- The error of an attempt that the end of its limit has ended. -/
def noResponse (credential : String) (limit : Duration) : Error :=
  .timeout credential ("no response within " ++ toString limit.wholeMillis ++ "ms")

/-- **How an attempt comes out** within its limit. A limit whose end no clock can show breaks it
down. -/
def outcome (credential : String) (limit : Duration) (now : Instant) (a : Attempt α) : Outcome α :=
  match now.after? limit, a with
  | none, _ => ⟨now, none⟩
  | some limitEnd, .hangs => ⟨now.ring limitEnd, some (.error (noResponse credential limit))⟩
  | some limitEnd, .ends after result =>
    if now + after ≤ now.ring limitEnd then ⟨now.ring (now + after), some result⟩
    else ⟨now.ring limitEnd, some (.error (noResponse credential limit))⟩

namespace Outcome

/-- What is left of an attempt that has come out. -/
def task (o : Outcome α) : Task σ (Except Error α) := o.result.elim .crash .done

/-- Whether an attempt has failed with an error that may pass. -/
def isTransient (o : Outcome α) : Bool :=
  match o.result with
  | some (.error e) => e.isRetryable
  | _ => false

end Outcome

section
variable (credential : String) {limit after : Duration} {now limitEnd : Instant}
  (shown : now.after? limit = some limitEnd)
include shown

theorem outcome_of_le (h : now + after ≤ now.ring limitEnd) (result : Except Error α) :
    (ends after result).outcome credential limit now = ⟨now.ring (now + after), some result⟩ := by
  simp only [outcome, shown, if_pos h]

theorem outcome_of_lt (h : now.ring limitEnd < now + after) (result : Except Error α) :
    (ends after result).outcome credential limit now =
      ⟨now.ring limitEnd, some (.error (noResponse credential limit))⟩ := by
  have late : ¬ now + after ≤ now.ring limitEnd := Int.not_le.mpr h
  simp only [outcome, shown, if_neg late]

theorem outcome_of_hangs :
    (hangs : Attempt α).outcome credential limit now =
      ⟨now.ring limitEnd, some (.error (noResponse credential limit))⟩ := by
  simp only [outcome, shown]

theorem outcome_of_now (h : after.nanos = 0) (result : Except Error α) :
    (ends after result).outcome credential limit now = ⟨now, some result⟩ := by
  have come : now + after ≤ now := by
    rw [Instant.le_iff, Instant.add_nanos, h]
    omega
  rw [outcome_of_le credential shown (Int.le_trans come (Instant.now_le_ring now limitEnd)),
    Instant.ring_of_le come]

end

theorem now_le_stop (credential : String) (limit : Duration) (now : Instant) (a : Attempt α) :
    now ≤ (a.outcome credential limit now).stop := by
  cases shown : now.after? limit with
  | none =>
    simp only [outcome, shown]
    exact Int.le_refl _
  | some limitEnd =>
    cases a with
    | hangs =>
      rw [outcome_of_hangs credential shown]
      exact Instant.now_le_ring ..
    | ends after result =>
      rcases Int.lt_or_le (now.ring limitEnd).nanos (now + after).nanos with late | inTime
      · rw [outcome_of_lt credential shown late]
        exact Instant.now_le_ring ..
      · rw [outcome_of_le credential shown inTime]
        exact Instant.now_le_ring ..

end Attempt

/-! ### Attempts on behalf of a request -/

/-- What is left of a task that may be given up, once its wait is over. -/
def Task.afterWake (key : CancelKey) (deadline : Option Instant) (cancelled expired : α)
    (k : Wake → Task σ α) : Wake → Task σ α
  | .ready => (k .ready).giveUp key deadline cancelled expired
  | .cancelled => .done cancelled
  | .expired => .done expired

theorem Task.exists_afterWake (key : CancelKey) {deadline : Option Instant}
    (bounded : deadline ≠ none) (due? : Option Instant) (a b : α)
    (k : Wake → Task σ α) (w : World σ) :
    ∃ n x w', ((wait { due := due? } k).giveUp key deadline a b).Comes n w
      (afterWake key deadline a b k x) w' ∧ w.Elapses w' ∧ n + w'.pending key ≤ 2 + w.pending key ∧
      Wait.Tells { due := due?, cancel := some key, deadline } key w.now w' x ∧
      Wait.Over { due := due?, cancel := some key, deadline } w n x w' := by
  have timed : ({ due := due?, cancel := some key, deadline } : Wait σ).IsTimed key :=
    ⟨fun _ => rfl, rfl⟩
  obtain ⟨n, x, w', passed, passes, turns, tells⟩ := timed.exists_over w (.inr bounded)
  refine ⟨n + 0, x, w', .wait passed ?_, passes, turns, tells, passed⟩
  cases x with
  | ready => exact .refl ..
  | cancelled => exact .step (.refl ..)
  | expired => exact .step (.refl ..)

variable {p : RetryPolicy} {r : Request} {credential : String}

/-- **What becomes of an attempt** on behalf of a request: it comes out as it would without the
request, or is given up when the request is cancelled or its deadline comes. -/
inductive Attempt.Tried (r : Request) (o : Outcome α) (w : World σ) : Task σ (Except Error α) → Prop
  | same (stop : w.now = o.stop) : Tried r o w o.task
  | cancelled (off : w.cancelled r.cancel = true) (e : Error) : Tried r o w (.done (.error e))
  | late {d : Instant} (deadline : r.deadline = some d) (passed : d ≤ w.now) (e : Error) :
      Tried r o w (.done (.error e))

theorem Request.timeout_expiredMessage {limit : Duration} {now limitEnd : Instant}
    (shown : now.after? limit = some limitEnd) (first : ∀ d, r.deadline = some d → limitEnd ≤ d) :
    Error.timeout credential (r.expiredMessage (some limit) now) =
      Attempt.noResponse credential limit := by
  have notFirst : r.deadlineFirst (now + limit) = false := by
    rw [← Instant.after?_eq_some shown, deadlineFirst]
    cases hd : r.deadline with
    | none => rfl
    | some d => exact decide_eq_false (Int.not_lt.mpr (first d hd))
  simp only [expiredMessage, notFirst, Bool.false_eq_true, if_false, Attempt.noResponse]

/-- The value of work that is given up for a cancellation. -/
abbrev Attempt.cancelledResult (credential : String) : Except Error α :=
  .error (.timeout credential Request.cancelledMessage)

/-- The value of work that is given up at a deadline. -/
abbrev Attempt.expiredResult (r : Request) (credential : String) (limit : Duration)
    (now : Instant) : Except Error α :=
  .error (.timeout credential (r.expiredMessage (some limit) now))

/-- **A wait of an attempt that is over**, given how the attempt comes out with and without what it
waits for. -/
theorem Attempt.tried_of_tells {limit : Duration} {now limitEnd : Instant}
    (shown : now.after? limit = some limitEnd) {o : Outcome α} {due? : Option Instant}
    {k : Wake → Task σ (Except Error α)}
    (silent : (∀ due, due? = some due → now.ring limitEnd < now.ring due) →
      o = ⟨now.ring limitEnd, some (.error (noResponse credential limit))⟩)
    (ready : ∀ due, due? = some due → now.ring due ≤ now.ring limitEnd →
      ∃ result, o = ⟨now.ring due, some result⟩ ∧ k .ready = .done result)
    {w : World σ} {x : Wake}
    (tells : Wait.Tells
      { due := due?, cancel := some r.cancel,
        deadline := Instant.earliest r.deadline (some limitEnd) } r.cancel now w x) :
    Tried r o w (Task.afterWake r.cancel (Instant.earliest r.deadline (some limitEnd))
      (cancelledResult credential) (expiredResult r credential limit now) k x) := by
  cases tells with
  | cancelled off => exact .cancelled off _
  | @ready due _ appointed rings first =>
    have inTime : now.ring due ≤ now.ring limitEnd := by
      rcases Instant.earliest_cases r.deadline limitEnd with ⟨earliest, -⟩ | ⟨d, -, lt, earliest⟩
      · exact first limitEnd earliest
      · exact Int.le_trans (first d earliest) (Instant.ring_mono now (Int.le_of_lt lt))
    obtain ⟨result, rfl, goesOn⟩ := ready due appointed inTime
    rw [Task.afterWake, goesOn]
    exact .same rings
  | @expired d _ appointed rings first =>
    rcases Instant.earliest_cases r.deadline limitEnd with
      ⟨earliest, last⟩ | ⟨d', deadline, -, earliest⟩
    · cases earliest.symm.trans appointed
      rw [Task.afterWake, expiredResult, Request.timeout_expiredMessage shown last, silent first]
      exact .same rings
    · cases earliest.symm.trans appointed
      have passed : d ≤ w.now := rings ▸ Instant.le_ring now d
      exact .late deadline passed _

variable (r credential) in
/-- An attempt that has begun comes out within the bounds of a request. -/
theorem Attempt.exists_giveUp {limit : Duration} {w : World σ} {limitEnd : Instant}
    (shown : w.now.after? limit = some limitEnd) (a : Attempt α) :
    ∃ n u w', (a.task.giveUp r.cancel (Instant.earliest r.deadline (some limitEnd))
      (cancelledResult credential)
        (expiredResult r credential limit w.now)).Comes n w u w' ∧ w.Elapses w' ∧
        n + w'.pending r.cancel ≤ 2 + w.pending r.cancel ∧
      Tried r (a.outcome credential limit w.now) w' u := by
  have bounded : Instant.earliest r.deadline (some limitEnd) ≠ none := by
    rcases Instant.earliest_cases r.deadline limitEnd with ⟨earliest, -⟩ | ⟨d, -, -, earliest⟩ <;>
      rw [earliest] <;> nofun
  cases a with
  | hangs =>
    obtain ⟨n, x, w', comes, passes, turns, tells, -⟩ :=
      Task.exists_afterWake r.cancel bounded none (cancelledResult credential)
        (expiredResult r credential limit w.now) (fun _ => .crash) w
    refine ⟨n, _, w', comes, passes, turns,
      tried_of_tells shown (fun _ => outcome_of_hangs credential shown)
        (fun _ none => by cases none) tells⟩
  | ends after result =>
    rw [task]
    by_cases atOnce : after.nanos = 0
    · refine ⟨0, .done result, w, ?_, .refl w, by omega, ?_⟩
      · rw [if_pos atOnce]
        exact .refl ..
      · rw [outcome_of_now credential shown atOnce]
        exact .same rfl
    · obtain ⟨n, x, w', comes, passes, turns, tells, -⟩ :=
        Task.exists_afterWake r.cancel bounded (some (w.now + after)) (cancelledResult credential)
          (expiredResult r credential limit w.now) (fun _ => .done result) w
      have tried : Tried r ((ends after result).outcome credential limit w.now) w'
          (Task.afterWake r.cancel (Instant.earliest r.deadline (some limitEnd))
            (cancelledResult credential) (expiredResult r credential limit w.now)
              (fun _ => .done result) x) := by
        refine tried_of_tells shown (fun late => ?_) (fun due appointed inTime => ?_) tells
        · refine outcome_of_lt credential shown (Int.not_le.mp fun inTime => ?_) result
          exact Int.not_le.mpr (late _ rfl) ((Instant.ring_le_ring_iff ..).mpr inTime)
        · cases appointed
          exact ⟨result,
            outcome_of_le credential shown ((Instant.ring_le_ring_iff ..).mp inTime) result, rfl⟩
      refine ⟨n, _, w', ?_, passes, turns, tried⟩
      rw [if_neg atOnce]
      exact .look comes

/-- **An attempt on behalf of a request.** -/
theorem Attempt.exists_within (limit : Duration) (r : Request) (credential : String)
    (a : Attempt α) (w : World σ) :
    ∃ n u w', (r.within credential (some limit) a.task).Comes n w u w' ∧ w.Elapses w' ∧
      n + w'.pending r.cancel ≤ 2 + w.pending r.cancel ∧
      Tried r (a.outcome credential limit w.now) w' u := by
  cases off : w.cancelled r.cancel with
  | true =>
    refine ⟨0, .done (.error (.timeout credential Request.cancelledMessage)), w, .look ?_,
      .refl w, by omega, .cancelled off _⟩
    rw [if_pos off]
    exact .refl ..
  | false =>
    cases shown : w.now.after? limit with
    | none =>
      have broken : a.outcome credential limit w.now = ⟨w.now, none⟩ := by
        simp only [outcome, shown]
      refine ⟨0, .crash, w, .look ?_, .refl w, by omega, broken ▸ .same rfl⟩
      simp only [off, Request.limitEnd?, shown, Option.map_none, Bool.false_eq_true, if_false]
      exact .refl ..
    | some limitEnd =>
      obtain ⟨n, u, w', comes, rest⟩ := exists_giveUp r credential shown a
      refine ⟨n, u, w', .look ?_, rest⟩
      simp only [off, Request.limitEnd?, shown, Option.map_some, Bool.false_eq_true, if_false]
      exact comes

/-! ### Pauses -/

/-- **What becomes of a pause** on behalf of a request: it lasts as long as it would without the
request, or is refused for the deadline, or cut short by a cancellation. -/
inductive Request.Paused (r : Request) (delay : Duration) (now : Instant) (w : World σ) :
    Option String → Prop
  | slept (on : w.cancelled r.cancel = false) (rings : w.now = now.resumes delay)
      (room : ∀ d, r.deadline = some d → delay ≤ d.since now) : Paused r delay now w none
  | refused {d : Instant} (deadline : r.deadline = some d) (short : d.since now < delay) :
      Paused r delay now w (some (refusal delay))
  | cancelled (off : w.cancelled r.cancel = true) : Paused r delay now w (some cancelledMessage)

/-- **A pause on behalf of a request.** -/
theorem Request.exists_pause (r : Request) (delay : Duration) (w : World σ) :
    ∃ n x w', (r.pause delay).Comes n w (.done x) w' ∧ w.Elapses w' ∧
      n + w'.pending r.cancel ≤ 2 + w.pending r.cancel ∧ r.Paused delay w.now w' x := by
  by_cases short : (r.remaining w.now).any (fun left => decide (left < delay)) = true
  · obtain ⟨left, hleft, hshort⟩ := (Option.any_eq_true ..).mp short
    obtain ⟨d, deadline, rfl⟩ := Option.map_eq_some_iff.mp hleft
    refine ⟨0, some (refusal delay), w, .look ?_,
      .refl w, by omega, .refused deadline (of_decide_eq_true hshort)⟩
    rw [if_pos short]
    exact .refl ..
  · have room : ∀ d, r.deadline = some d → delay ≤ d.since w.now := by
      intro d deadline
      rw [remaining, deadline, Option.map_some, Option.any_some] at short
      exact Nat.not_lt.mp fun lt => short (decide_eq_true lt)
    have timed :
        ({ due := some ((w.now.after? delay).getD w.now.farAhead), cancel := some r.cancel } :
          Wait σ).IsTimed r.cancel :=
      ⟨fun _ => rfl, rfl⟩
    obtain ⟨n, x, w', passed, passes, turns, tells⟩ := timed.exists_over w (.inl nofun)
    cases tells with
    | cancelled off =>
      refine ⟨n + 0, some cancelledMessage, w', .look ?_, passes, turns, .cancelled off⟩
      rw [if_neg short]
      exact .wait passed (.refl ..)
    | ready on appointed rings =>
      cases appointed
      refine ⟨n + 0, none, w', .look ?_, passes, turns, .slept on rings room⟩
      rw [if_neg short]
      exact .wait passed (.refl ..)
    | expired _ appointed => cases appointed

/-! ### Rounds -/

namespace RetryPolicy

section Rounds
variable (p : RetryPolicy) (r : Request) (credential : String) (begins : Nat → Task σ Unit)
  (operation : Nat → Task σ (Except Error α))

/-- What an execution does after an attempt. -/
def sequel : Nat → Nat → Except Error α → Task σ (Except Error α)
  | _, _, .ok a => .done (.ok a)
  | 0, spent, .error e => surrender credential spent e
  | left + 1, spent, .error e =>
    if e.isRetryable then p.backOff r credential spent e
      (p.executeFrom r credential begins operation left (spent + 1))
    else surrender credential spent e

/-- **A round of an execution** is an attempt and what is done after it. -/
theorem executeFrom_eq (left spent : Nat) : p.executeFrom r credential begins operation left spent =
    (p.attempt r credential begins operation spent).bind
      (p.sequel r credential begins operation left spent) := by
  cases left with
  | zero =>
    refine congrArg (Task.bind _) (funext fun x => ?_)
    cases x <;> rfl
  | succ left =>
    refine congrArg (Task.bind _) (funext fun x => ?_)
    cases x <;> rfl

theorem sequel_of_last {left spent : Nat} {e : Error} (last : left = 0 ∨ e.isRetryable = false) :
    p.sequel r credential begins operation left spent (.error e) =
      surrender credential spent e := by
  cases left with
  | zero => rfl
  | succ left => exact if_neg (Bool.eq_false_iff.mp (last.resolve_left (Nat.succ_ne_zero left)))

end Rounds

end RetryPolicy

/-! ### The timeline -/

namespace RetryPolicy

section Timeline
variable (p : RetryPolicy) (credential : String) (attempts : List (Attempt α)) (t : Instant)

/-- When an attempt of an execution is begun that begins at the given instant. -/
def begins : Nat → Instant
  | 0 => t
  | n + 1 =>
    ((Attempt.nth attempts n).outcome credential p.attemptTimeout (begins n)).stop.resumes
      (p.delayFor n)

/-- How the attempt comes out. -/
def outcome (n : Nat) : Attempt.Outcome α :=
  (Attempt.nth attempts n).outcome credential p.attemptTimeout (p.begins credential attempts t n)

theorem begins_succ (n : Nat) :
    p.begins credential attempts t (n + 1) =
      (p.outcome credential attempts t n).stop.resumes (p.delayFor n) := rfl

theorem begins_mono {m n : Nat} (h : m ≤ n) :
    p.begins credential attempts t m ≤ p.begins credential attempts t n := by
  induction n with
  | zero =>
    rw [Nat.eq_zero_of_le_zero h]
    exact Int.le_refl _
  | succ n ih =>
    rcases Nat.eq_or_lt_of_le h with rfl | lt
    · exact Int.le_refl _
    · have stop :=
        Attempt.now_le_stop credential p.attemptTimeout (p.begins credential attempts t n)
          (Attempt.nth attempts n)
      exact Int.le_trans (ih (Nat.le_of_lt_succ lt)) (Int.le_trans stop (Instant.now_le_ring ..))

end Timeline

variable (p : RetryPolicy) (r : Request) (credential : String) (attempts : List (Attempt α))

/-- **An attempt of an execution.** -/
theorem exists_attempt (n : Nat) (w : World Starts) :
    ∃ m u w', (p.attempt r credential recordStart (fun n => (Attempt.nth attempts n).task) n).Comes
      m w u w' ∧ World.Elapses { w with state := w.state ++ [(n, w.now)] } w' ∧
      m + w'.pending r.cancel ≤ 2 + w.pending r.cancel ∧
      Attempt.Tried r
        ((Attempt.nth attempts n).outcome credential p.attemptTimeout w.now) w' u := by
  obtain ⟨m, u, w', comes, rest⟩ :=
    Attempt.exists_within p.attemptTimeout r credential (Attempt.nth attempts n)
    { w with state := w.state ++ [(n, w.now)] }
  exact ⟨m, u, w', .look (.step comes), rest⟩

end RetryPolicy

end TokenChain
