import TokenChain.Proofs.Retry.Bounds
import TokenChain.Proofs.Retry.Curtailment

/-! # What an execution gives back

On behalf of any request an execution gives back what its last attempt has come out with, as it is;
or, if the pause behind that attempt is refused or cut short, a timeout that says how many attempts
have been begun and what the last one has failed with (`RetryPolicy.Gives`). An attempt is followed
by another one only if it has failed with an error that may pass, so no value and no other error is
lost (`RetryPolicy.faithful_of_tryOut`).

When attempts are begun and how they come out is told by `Attempt.bounded`, one attempt after
another; the induction is on the retries that are left. -/

namespace TokenChain

variable {α : Type}

theorem Attempt.bounded_congr {σ : Type} {w w' : World σ} {r : Request}
    (off : w'.cancelled r.cancel = w.cancelled r.cancel)
    (cancelAt : w'.cancelAt r.cancel = w.cancelAt r.cancel) (credential : String) (limit : Duration)
    (now : Instant) (a : Attempt α) :
    a.bounded r credential limit w' now = a.bounded r credential limit w now := by
  unfold bounded
  rw [off, cancelAt]

namespace RetryPolicy

/-! ### Attempts within their bounds -/

section Timeline
variable (p : RetryPolicy) (r : Request) (credential : String)
  (attempts : List (Attempt α)) (w : World Starts)

/-- When an attempt is begun of an execution that begins in a world and gets so far. -/
def beginsWithin : Nat → Instant
  | 0 => w.now
  | n + 1 =>
    ((Attempt.nth attempts n).bounded r credential p.attemptTimeout w
      (beginsWithin n)).stop.resumes (p.delayFor n)

/-- How the attempt comes out within the bounds of the policy and the request. -/
def outcomeWithin (n : Nat) : Attempt.Outcome α :=
  (Attempt.nth attempts n).bounded r credential p.attemptTimeout w
    (p.beginsWithin r credential attempts w n)

end Timeline

/-! ### The last attempt -/

section Last
variable (p : RetryPolicy) (r : Request) (credential : String) (w : World Starts)

/-- Why a pause behind an attempt is not a pause to the end: the deadline is too near, or the
request is cancelled by the time at which the execution stops. -/
inductive Interrupts (delay : Duration) (ended stop : Instant) : String → Prop
  | refused {d : Instant} (deadline : r.deadline = some d) (short : d.since ended < delay) :
      Interrupts delay ended stop (Request.refusal delay)
  | cancelled (off : w.cancelled r.cancel = true ∨ ∃ c ≤ stop, w.cancelAt r.cancel = some c) :
      Interrupts delay ended stop Request.cancelledMessage

/-- **What an execution gives back**, given its last attempt and how that has come out. -/
inductive Gives (k : Nat) (last : Attempt.Outcome α) (stop : Instant) :
    Ending (Except Error α) → Prop
  | asIs (final : k = p.maxRetries.toNat ∨ last.isTransient = false) : Gives k last stop last.ending
  | cutShort {e : Error} {reason : String} (failed : last.result = some (.error e))
      (retryable : e.isRetryable = true) (retriesLeft : k < p.maxRetries.toNat)
      (why : Interrupts r w (p.delayFor k) last.stop stop reason) :
      Gives k last stop (.value (.error (.timeout credential
        (reason ++ " after attempt " ++ toString (k + 1) ++ ": " ++ e.message))))

variable {p r credential w} {k : Nat} {last : Attempt.Outcome α} {stop : Instant}
  {ending : Ending (Except Error α)}

theorem Gives.of_value (gives : p.Gives r credential w k last stop ending) {a : α}
    (h : last.result = some (.ok a)) : ending = .value (.ok a) := by
  cases gives with
  | asIs => exact last.ending_of_some h
  | cutShort failed =>
    rw [h] at failed
    cases failed

theorem Gives.of_error (gives : p.Gives r credential w k last stop ending) {e : Error}
    (h : last.result = some (.error e)) (lasting : e.isRetryable = false) :
    ending = .value (.error e) := by
  cases gives with
  | asIs => exact last.ending_of_some h
  | cutShort failed retryable =>
    rw [h] at failed
    cases failed
    rw [lasting] at retryable
    cases retryable

end Last

/-! ### The rounds -/

/-- A world that comes after another one: time may have passed, and the request may have been
cancelled meanwhile. -/
structure After (r : Request) (w w' : World Starts) : Prop where
  now : w.now ≤ w'.now
  cancelAt : w'.cancelAt r.cancel = w.cancelAt r.cancel
  cancelled : w.cancelled r.cancel = true → w'.cancelled r.cancel = true
  appointed : w'.cancelled r.cancel = true → w.cancelled r.cancel = true ∨
    ∃ c ≤ w'.now, w.cancelAt r.cancel = some c

theorem After.refl (r : Request) (w : World Starts) : After r w w := ⟨Int.le_refl _, rfl, id, .inl⟩

theorem After.trans {r : Request} {w w₁ w' : World Starts} (h : After r w w₁) (h' : After r w₁ w') :
    After r w w' where
  now := Int.le_trans h.now h'.now
  cancelAt := h'.cancelAt.trans h.cancelAt
  cancelled := h'.cancelled ∘ h.cancelled
  appointed off := by
    rcases h'.appointed off with earlier | ⟨c, come, due⟩
    · exact (h.appointed earlier).imp_right fun ⟨c, come, due⟩ => ⟨c, Int.le_trans come h'.now, due⟩
    · exact .inr ⟨c, come, h.cancelAt ▸ due⟩

theorem After.of_elapses (r : Request) {w w₁ w' : World Starts} (passes : w₁.Elapses w')
    (now : w₁.now = w.now) (cancelAt : w₁.cancelAt = w.cancelAt)
    (cancelled : w₁.cancelled = w.cancelled) : After r w w' where
  now := now ▸ passes.now
  cancelAt := by rw [passes.cancelAt, cancelAt]
  cancelled off := passes.cancelled r.cancel (cancelled ▸ off)
  appointed off := by
    have earlier := passes.appointed r.cancel off
    rwa [cancelled, cancelAt] at earlier

/-- **The rounds of an execution** from one attempt on, up to the last one. -/
structure Given (p : RetryPolicy) (r : Request) (credential : String) (attempts : List (Attempt α))
    (w : World Starts) (n k : Nat) (o : Attempt.Outcome α) (w₁ w' : World Starts) : Prop where
  first : n ≤ k
  budget : k ≤ p.maxRetries.toNat
  transient : ∀ i, n ≤ i → i < k → (p.outcomeWithin r credential attempts w i).isTransient = true
  state : w'.state = w₁.state ++ startsAt (p.beginsWithin r credential attempts w) n k
  gives : p.Gives r credential w k (p.outcomeWithin r credential attempts w k) w'.now o.ending

variable {p : RetryPolicy} {r : Request} {credential : String}
  {attempts : List (Attempt α)} {w : World Starts}

theorem Given.of_last {n : Nat} {o : Attempt.Outcome α} {w₁ w' : World Starts}
    (budget : n ≤ p.maxRetries.toNat) (now : w₁.now = p.beginsWithin r credential attempts w n)
    (state : w'.state = w₁.state ++ [(n, w₁.now)])
    (gives : p.Gives r credential w n (p.outcomeWithin r credential attempts w n) w'.now o.ending) :
    p.Given r credential attempts w n n o w₁ w' where
  first := Nat.le_refl n
  budget := budget
  transient i hn hk := absurd hk (Nat.not_lt.mpr hn)
  state := by rw [state, startsAt_self, now]
  gives := gives

theorem Given.next {n k : Nat} {o : Attempt.Outcome α} {w₁ w₂ w' : World Starts}
    (now : w₁.now = p.beginsWithin r credential attempts w n)
    (state : w₂.state = w₁.state ++ [(n, w₁.now)])
    (transient : (p.outcomeWithin r credential attempts w n).isTransient = true)
    (rest : p.Given r credential attempts w (n + 1) k o w₂ w') :
    p.Given r credential attempts w n k o w₁ w' where
  first := Nat.le_of_succ_le rest.first
  budget := rest.budget
  transient := forall_of_next transient rest.transient
  state := by
    rw [rest.state, state, startsAt_of_lt _ rest.first, now, List.append_assoc,
      List.singleton_append]
  gives := rest.gives

theorem exists_attempt_within {n : Nat} {w₁ : World Starts}
    (now : w₁.now = p.beginsWithin r credential attempts w n) (since : After r w w₁)
    (same : w₁.cancelled r.cancel = w.cancelled r.cancel) :
    ∃ m w₂, (p.attempt r credential recordStart (fun n => (Attempt.nth attempts n).task) n).Comes
        m w₁ (p.outcomeWithin r credential attempts w n).task w₂ ∧
      m + w₂.pending r.cancel ≤ 2 + w₁.pending r.cancel ∧ w₂.state = w₁.state ++ [(n, w₁.now)] ∧
      After r w w₂ ∧ w₂.now = (p.outcomeWithin r credential attempts w n).stop := by
  obtain ⟨m, w₂, comes, passes, turns, stop⟩ :=
    Attempt.exists_bounded p.attemptTimeout r credential (Attempt.nth attempts n)
    { w₁ with state := w₁.state ++ [(n, w₁.now)] }
  have begun :
      World.pending { w₁ with state := w₁.state ++ [(n, w₁.now)] } r.cancel = w₁.pending r.cancel :=
    rfl
  have bounded : (Attempt.nth attempts n).bounded r credential p.attemptTimeout
      { w₁ with state := w₁.state ++ [(n, w₁.now)] } w₁.now =
        p.outcomeWithin r credential attempts w n := by
    rw [outcomeWithin, ← now]
    exact Attempt.bounded_congr same since.cancelAt ..
  dsimp only at comes stop
  rw [bounded] at comes stop
  exact ⟨m, w₂,
    .look (.step comes), by
    omega, passes.state, since.trans (.of_elapses r passes rfl rfl rfl), stop⟩

/-- **Behind an attempt** that has failed with an error that may pass an execution pauses and goes
on, or is cut short. -/
theorem exists_backOff {n : Nat} {w₂ : World Starts} {e : Error}
    (failed : (p.outcomeWithin r credential attempts w n).result = some (.error e))
    (retryable : e.isRetryable = true) (retriesLeft : n < p.maxRetries.toNat) (since : After r w w₂)
    (stop : w₂.now = (p.outcomeWithin r credential attempts w n).stop)
    (next : Task Starts (Except Error α)) :
    ∃ m w₃, m + w₃.pending r.cancel ≤ 2 + w₂.pending r.cancel ∧ w₃.state = w₂.state ∧
      w₃.log = w₂.log.append
        (p.noticeEntry credential n (p.outcomeWithin r credential attempts w n)) ∧ After r w w₃ ∧
      ((∃ o : Attempt.Outcome α, (p.backOff r credential n e next).Comes m w₂ o.task w₃ ∧
          p.Gives r credential w n (p.outcomeWithin r credential attempts w n) w₃.now o.ending) ∨
        (p.backOff r credential n e next).Comes m w₂ next w₃ ∧
          w₃.now = p.beginsWithin r credential attempts w (n + 1) ∧
          w₃.cancelled r.cancel = false) := by
  let noted : World Starts := w₂.append ⟨.warning, credential, retryNotice n e (p.delayFor n)⟩
  obtain ⟨m, why, w₃, pauses, passes, turns, paused⟩ := r.exists_pause (p.delayFor n) noted
  have later : After r w w₃ := since.trans (.of_elapses r passes rfl rfl rfl)
  have log : w₃.log =
      w₂.log.append (p.noticeEntry credential n (p.outcomeWithin r credential attempts w n)) := by
    rw [passes.log, noticeEntry, Attempt.Outcome.error_of_error failed, ← stop]
    rfl
  refine ⟨m, w₃, turns, passes.state, log, later, ?_⟩
  have number : attemptsAfter n = n + 1 := by
    have small : p.maxRetries.toNat < 4294967296 := p.maxRetries.toNat_lt
    exact Nat.mod_eq_of_lt (by omega)
  -- whatever the reason, what is given back is a timeout with it
  have interrupted :
      ∀ reason, Interrupts r w (p.delayFor n)
        (p.outcomeWithin r credential attempts w n).stop w₃.now reason →
      ∀ t : Task Starts (Except Error α),
      t.Comes m w₂ (.done (.error (.timeout credential (cutShortMessage reason n e)))) w₃ →
      ∃ o : Attempt.Outcome α, t.Comes m w₂ o.task w₃ ∧
        p.Gives r credential w n (p.outcomeWithin r credential attempts w n) w₃.now o.ending := by
    intro reason why t comes
    refine ⟨⟨w₃.now, some (.error (.timeout credential (cutShortMessage reason n e)))⟩, comes, ?_⟩
    unfold cutShortMessage
    rw [number]
    exact .cutShort failed retryable retriesLeft why
  cases paused with
  | slept on rings =>
    refine .inr ⟨.note (pauses.bind _), ?_, on⟩
    rw [rings, beginsWithin, ← outcomeWithin, ← stop]
    rfl
  | refused deadline short =>
    exact .inl (interrupted _ (.refused deadline (stop ▸ short)) _ (.note (pauses.bind _)))
  | cancelled off =>
    exact .inl (interrupted _ (.cancelled (later.appointed off)) _ (.note (pauses.bind _)))

/-- Behind an attempt that has failed with an error that may pass an execution backs off, if there
are retries left. -/
theorem comes_backOff (begins : Nat → Task Starts Unit)
    (operation : Nat → Task Starts (Except Error α)) (left : Nat) {m n : Nat}
    {o : Attempt.Outcome α} {w₁ w₂ : World Starts} (transient : o.isTransient = true)
    (comes : (p.attempt r credential begins operation n).Comes m w₁ o.task w₂) :
    (p.executeFrom r credential begins operation (left + 1) n).Comes m w₁
      (p.backOff r credential n o.error (p.executeFrom r credential begins operation left (n + 1)))
        w₂ := by
  obtain ⟨failed, retryable⟩ := Attempt.Outcome.result_of_isTransient transient
  rw [Attempt.Outcome.task, failed, Option.elim_some] at comes
  have after := comes.bind (p.sequel r credential begins operation (left + 1) n)
  rw [Task.bind, sequel, if_pos retryable] at after
  rwa [executeFrom_eq]

theorem exists_last {left n : Nat} {w₁ : World Starts} (spent : n + left = p.maxRetries.toNat)
    (now : w₁.now = p.beginsWithin r credential attempts w n) (since : After r w w₁)
    (same : w₁.cancelled r.cancel = w.cancelled r.cancel)
    (final : left = 0 ∨ (p.outcomeWithin r credential attempts w n).isTransient = false) :
    ∃ m w', (p.trying r credential attempts left n).Comes m w₁
      (p.outcomeWithin r credential attempts w n).task w' ∧ m ≤ 2 + w₁.pending r.cancel ∧
      p.Given r credential attempts w n n (p.outcomeWithin r credential attempts w n) w₁ w' := by
  obtain ⟨m, w₂, comes, turns, state, -, stop⟩ := exists_attempt_within now since same
  obtain ⟨w', ends, -, state', -⟩ :=
    comes_last p r credential (n := n) recordStart
      (fun n => (Attempt.nth attempts n).task) final stop
  refine ⟨m + 0, w', ?_, by omega, .of_last (by omega) now (state'.trans state) (.asIs ?_)⟩
  · rw [trying, executeFrom_eq]
    exact (comes.bind _).trans ends
  · exact final.imp_left fun none => by omega

/-- **The rounds of an execution** on behalf of any request, with so many retries left. -/
theorem exists_given (left : Nat) : ∀ {n : Nat} {w₁ : World Starts}, n + left = p.maxRetries.toNat →
    w₁.now = p.beginsWithin r credential attempts w n → After r w w₁ →
    w₁.cancelled r.cancel = w.cancelled r.cancel →
      ∃ m k w', ∃ o :
      Attempt.Outcome α, (p.trying r credential attempts left n).Comes m w₁ o.task w' ∧
        m ≤ 4 * left + 2 + w₁.pending r.cancel ∧ p.Given r credential attempts w n k o w₁ w' := by
  induction left with
  | zero =>
    intro n w₁ spent now since same
    obtain ⟨m, w', comes, turns, given⟩ := exists_last spent now since same (.inl rfl)
    exact ⟨m, n, w', _, comes, by omega, given⟩
  | succ left ih =>
    intro n w₁ spent now since same
    cases transient : (p.outcomeWithin r credential attempts w n).isTransient with
    | false =>
      obtain ⟨m, w', comes, turns, given⟩ := exists_last spent now since same (.inr transient)
      exact ⟨m, n, w', _, comes, by omega, given⟩
    | true =>
      obtain ⟨failed, retryable⟩ := Attempt.Outcome.result_of_isTransient transient
      obtain ⟨m, w₂, comes, turns, state, since₂, stop⟩ := exists_attempt_within now since same
      obtain ⟨m', w₃, turns', state', -, since₃, ends⟩ :=
        exists_backOff failed retryable (by omega) since₂ stop
        (p.trying r credential attempts left (n + 1))
      have begun :=
        comes_backOff recordStart (fun n => (Attempt.nth attempts n).task) left transient comes
      rcases ends with ⟨o, ends, gives⟩ | ⟨goesOn, now₃, on⟩
      · exact ⟨m + m', n, w₃, o,
          begun.trans ends, by omega, .of_last (by omega) now (state'.trans state) gives⟩
      · -- an execution goes on only for a request that has never been cancelled
        have same₃ : w₃.cancelled r.cancel = w.cancelled r.cancel := by
          rw [on]
          exact (Bool.eq_false_iff.mpr fun off =>
            Bool.eq_false_iff.mp on (since₃.cancelled off)).symm
        obtain ⟨m'', k, w', o, rest, turns'', given⟩ := ih (by omega) now₃ since₃ same₃
        exact ⟨m + (m' + m''), k, w', o, begun.trans (goesOn.trans rest), by omega,
          given.next now (state'.trans state) transient⟩

/-! ### Trials -/

/-- **What a trial tells of an execution**, given its last attempt. -/
structure Faithful (p : RetryPolicy) (r : Request) (credential : String)
    (attempts : List (Attempt α)) (w : World Starts) (trial : RetryTrial α) (k : Nat) : Prop where
  budget : k ≤ p.maxRetries.toNat
  transient : ∀ n < k, (p.outcomeWithin r credential attempts w n).isTransient = true
  starts : trial.starts = w.state ++
    (List.range (k + 1)).map fun n => (n, p.beginsWithin r credential attempts w n)
  returned : ∃ ending, trial.result = some ending ∧
    p.Gives r credential w k (p.outcomeWithin r credential attempts w k) trial.stop ending
  value : ∀ n ≤ k, ∀ a, (p.outcomeWithin r credential attempts w n).result = some (.ok a) →
    trial.result = some (.value (.ok a))
  lasting : ∀ n ≤ k, ∀ e, (p.outcomeWithin r credential attempts w n).result = some (.error e) →
    e.isRetryable = false → trial.result = some (.value (.error e))

/-- **An execution gives back what its last attempt has come out with**, or tells why it has not
been tried again. -/
theorem faithful_of_tryOut (p : RetryPolicy) (r : Request) (credential : String)
    (attempts : List (Attempt α)) (w : World Starts) :
    ∃ k, p.Faithful r credential attempts w (p.tryOut w r credential attempts) k := by
  have all : 0 + p.maxRetries.toNat = p.maxRetries.toNat := Nat.zero_add _
  obtain ⟨m, k, w', o, comes, turns, given⟩ :=
    exists_given p.maxRetries.toNat all rfl (After.refl r w) rfl
  have pending : w.pending r.cancel ≤ 1 := by
    unfold World.pending
    split_ifs <;> omega
  have last : ∀ n ≤ k, (p.outcomeWithin r credential attempts w n).isTransient = false → n = k := by
    intro n hn final
    by_contra other
    rw [given.transient n (Nat.zero_le n) (by omega)] at final
    cases final
  rw [tryOut_of_comes comes (by omega)]
  refine ⟨k, given.budget, fun n hn => given.transient n (Nat.zero_le n) hn, ?_,
    ⟨o.ending, rfl, given.gives⟩, fun n hn a value => ?_, fun n hn e error lasting => ?_⟩
  · have numbered := given.state
    rw [startsAt, Nat.sub_zero, ← List.range_eq_range'] at numbered
    exact numbered
  · obtain rfl := last n hn ((p.outcomeWithin r credential attempts w n).isTransient_of_ok value)
    rw [given.gives.of_value value]
  · have final :=
      ((p.outcomeWithin r credential attempts w n).isTransient_of_error error).trans lasting
    obtain rfl := last n hn final
    rw [given.gives.of_error error lasting]

/-- A limit whose end no clock can show breaks an execution down at its first attempt, whatever the
deadline. -/
theorem tryOut_endlessLimit :
    ((⟨3, ⟨0⟩, ⟨0⟩, .longest⟩ : RetryPolicy).tryOut fresh ⟨["scope"], some ⟨1000000000⟩, 0⟩ "mi"
        [.ends ⟨0⟩ (.ok 1)]).result = some .crashed ∧
      ((⟨3, ⟨0⟩, ⟨0⟩, .longest⟩ : RetryPolicy).tryOut fresh ⟨["scope"], some ⟨1000000000⟩, 0⟩ "mi"
        [.ends ⟨0⟩ (.ok 1)]).starts = [(0, ⟨0⟩)] := by
  constructor
  · rfl
  · rfl

end RetryPolicy

end TokenChain
