import TokenChain.Proofs.Retry.Timeline

/-! # How an execution goes

An execution for a request without a deadline that is not cancelled follows its timeline: attempts
are begun, one after another, until one comes out with something else than an error that may pass,
or the budget is spent. What the last one comes out with is what the execution ends with, and all
that is logged is a notice about every other attempt, and one more if the budget is spent on retries
in vain.

`RetryPolicy.Executed` says so of the attempts from one on; `RetryPolicy.exists_executed` is the
induction over the retries that are left, and `RetryPolicy.conducted_of_unbounded` reads the whole
trial off it. -/

namespace TokenChain

variable {α : Type}

namespace Attempt.Outcome

variable {o : Outcome α}

/-- The error that an attempt has failed with, if it has. -/
def error (o : Outcome α) : Error :=
  match o.result with
  | some (.error e) => e
  | _ => default

/-- What an execution ends with when the attempt is its last one. -/
def ending (o : Outcome α) : Ending (Except Error α) := o.result.elim .crashed .value

theorem ending_of_some {x : Except Error α} (h : o.result = some x) : o.ending = .value x := by
  rw [ending, h, Option.elim_some]

theorem ending_of_none (h : o.result = none) : o.ending = .crashed := by
  rw [ending, h, Option.elim_none]

theorem isTransient_of_none (h : o.result = none) : o.isTransient = false := by
  rw [isTransient, h]

theorem isTransient_of_ok {a : α} (h : o.result = some (.ok a)) : o.isTransient = false := by
  rw [isTransient, h]

theorem isTransient_of_error {e : Error} (h : o.result = some (.error e)) :
    o.isTransient = e.isRetryable := by
  rw [isTransient, h]

theorem error_of_error {e : Error} (h : o.result = some (.error e)) : o.error = e := by
  rw [error, h]

theorem result_of_isTransient (h : o.isTransient = true) :
    o.result = some (.error o.error) ∧ o.error.isRetryable = true := by
  rw [isTransient] at h
  split at h
  next e result =>
    rw [error, result]
    exact ⟨rfl, h⟩
  next => cases h

end Attempt.Outcome

/-- **A lone task that comes to what is left of an attempt** ends as the attempt does. -/
theorem Schedule.over_of_outcome {σ : Type} {n turns : Nat} {t : Task σ (Except Error α)}
    {o : Attempt.Outcome α} {w w' : World σ} (comes : t.Comes n w o.task w') (id : Nat)
    (enough : n < turns) :
    (({ world := w, queue := [.ofTask id none t] } : Schedule σ (Except Error α)).runTo none
      turns).Over id o.ending w' := by
  unfold Attempt.Outcome.task at comes
  cases result : o.result with
  | none =>
    rw [result] at comes
    rw [o.ending_of_none result]
    exact over_of_crash comes id enough
  | some x =>
    rw [result] at comes
    rw [o.ending_of_some result]
    exact over_of_done comes id enough

namespace RetryPolicy

/-! ### What is logged -/

section Entries
variable (p : RetryPolicy) (credential : String) (n : Nat) (o : Attempt.Outcome α)

/-- The entry about an attempt that is followed by another one. -/
def noticeEntry : Entry := ⟨⟨.warning, credential, retryNotice n o.error (p.delayFor n)⟩, o.stop⟩

/-- The entry about the last attempt, if there were others and it has failed with an error that may
pass. -/
def partingEntries : List Entry :=
  if 0 < n && o.isTransient then [⟨⟨.warning, credential, surrenderNotice n o.error⟩, o.stop⟩]
    else []

end Entries

/-! ### The rounds -/

theorem forall_of_next {P : Nat → Prop} {n k : Nat} (here : P n)
    (rest : ∀ i, n + 1 ≤ i → i < k → P i) : ∀ i, n ≤ i → i < k → P i := by
  intro i hn hk
  rcases Nat.eq_or_lt_of_le hn with rfl | lt
  · exact here
  · exact rest i lt hk

/-- The attempts from one number to another, given the instants at which they are begun. -/
def startsAt (times : Nat → Instant) (n k : Nat) : Starts :=
  (List.range' n (k + 1 - n)).map fun i => (i, times i)

theorem startsAt_self (times : Nat → Instant) (n : Nat) : startsAt times n n = [(n, times n)] := by
  have one : n + 1 - n = 1 := by omega
  rw [startsAt, one, List.range'_one, List.map_singleton]

theorem startsAt_of_lt (times : Nat → Instant) {n k : Nat} (h : n < k) :
    startsAt times n k = (n, times n) :: startsAt times (n + 1) k := by
  have more : k + 1 - n = (k + 1 - (n + 1)) + 1 := by omega
  rw [startsAt, startsAt, more, List.range'_succ, List.map_cons]

section Rounds
variable (p : RetryPolicy) (credential : String) (attempts : List (Attempt α)) (t : Instant)

/-- What is logged about the attempts from one number to another, the last of which is not followed
by another one. -/
def entriesFrom (n k : Nat) : List Entry :=
  ((List.range' n (k - n)).map fun i =>
    p.noticeEntry credential i (p.outcome credential attempts t i)) ++
      partingEntries credential k (p.outcome credential attempts t k)

/-- **The rounds of an execution** from one attempt on, up to the last one. -/
structure Executed (n left k : Nat) (w w' : World Starts) : Prop where
  first : n ≤ k
  budget : k ≤ n + left
  transient : ∀ i, n ≤ i → i < k → (p.outcome credential attempts t i).isTransient = true
  last : k = n + left ∨ (p.outcome credential attempts t k).isTransient = false
  now : w'.now = (p.outcome credential attempts t k).stop
  state : w'.state = w.state ++ startsAt (p.begins credential attempts t) n k
  log : w'.log = (p.entriesFrom credential attempts t n k).foldl Log.append w.log

variable {p credential attempts t}

theorem Executed.of_last {n left : Nat} {w w₁ w' : World Starts}
    (now : w.now = p.begins credential attempts t n)
    (last : left = 0 ∨ (p.outcome credential attempts t n).isTransient = false)
    (passes : World.Elapses { w with state := w.state ++ [(n, w.now)] } w₁)
    (stop : w'.now = (p.outcome credential attempts t n).stop) (state : w'.state = w₁.state)
    (log : w'.log =
      (partingEntries credential n (p.outcome credential attempts t n)).foldl Log.append w₁.log) :
        p.Executed credential attempts t n left n w w' where
  first := Nat.le_refl n
  budget := Nat.le_add_right n left
  transient i hn hk := absurd hk (Nat.not_lt.mpr hn)
  last := last.imp_left fun h => by rw [h, Nat.add_zero]
  now := stop
  state := by rw [state, passes.state, startsAt_self, now]
  log := by rw [log, passes.log, entriesFrom, Nat.sub_self, List.range'_zero,
    List.map_nil, List.nil_append]

theorem Executed.next {n left k : Nat} {w w₁ w₂ w' : World Starts}
    (now : w.now = p.begins credential attempts t n)
    (transient : (p.outcome credential attempts t n).isTransient = true)
    (passes : World.Elapses { w with state := w.state ++ [(n, w.now)] } w₁)
    (state : w₂.state = w₁.state)
    (log : w₂.log = w₁.log.append (p.noticeEntry credential n (p.outcome credential attempts t n)))
    (rest : p.Executed credential attempts t (n + 1) left k w₂ w') :
    p.Executed credential attempts t n (left + 1) k w w' where
  first := Nat.le_of_succ_le rest.first
  budget := by
    have := rest.budget
    omega
  transient := forall_of_next transient rest.transient
  last := rest.last.imp_left fun h => by omega
  now := rest.now
  state := by
    rw [rest.state, state, passes.state, startsAt_of_lt _ rest.first, now, List.append_assoc,
      List.singleton_append]
  log := by
    have first := rest.first
    have more : k - n = (k - (n + 1)) + 1 := by omega
    rw [rest.log, log, passes.log, entriesFrom, entriesFrom, more, List.range'_succ,
      List.map_cons, List.cons_append, List.foldl_cons]

end Rounds

/-! ### Executions -/

variable {p : RetryPolicy} {r : Request} {credential : String}
  {attempts : List (Attempt α)} {t : Instant}

theorem comes_surrender {σ : Type} (credential : String) (n : Nat)
    {o : Attempt.Outcome α} {e : Error} (failed : o.result = some (.error e)) {w : World σ}
    (stop : w.now = o.stop) :
    ∃ w', (surrender credential n e : Task σ (Except Error α)).Comes 0 w (.done (.error e)) w' ∧
      w'.now = o.stop ∧ w'.state = w.state ∧
      w'.log = (partingEntries credential n o).foldl Log.append w.log := by
  rw [surrender, partingEntries, o.isTransient_of_error failed, o.error_of_error failed]
  split_ifs
  · refine ⟨_, .note (.refl ..), stop, rfl, ?_⟩
    rw [World.append, stop]
    rfl
  · exact ⟨w, .refl .., stop, rfl, rfl⟩

theorem comes_last {σ : Type} (p : RetryPolicy) (r : Request) (credential : String)
    (begins : Nat → Task σ Unit) (operation : Nat → Task σ (Except Error α)) {left n : Nat}
    {o : Attempt.Outcome α} (last : left = 0 ∨ o.isTransient = false) {w : World σ}
    (stop : w.now = o.stop) :
    ∃ w', (o.task.bind (p.sequel r credential begins operation left n)).Comes 0 w o.task w' ∧
      w'.now = o.stop ∧ w'.state = w.state ∧
      w'.log = (partingEntries credential n o).foldl Log.append w.log := by
  have quiet :
      o.isTransient = false → w.log = (partingEntries credential n o).foldl Log.append w.log :=
      fun h => by
    rw [partingEntries, h, Bool.and_false]
    rfl
  rcases result : o.result with _ | e | a
  · have broken : o.task = (.crash : Task σ (Except Error α)) := by
      rw [Attempt.Outcome.task, result]; rfl
    rw [broken]
    exact ⟨w, .refl .., stop, rfl, quiet (o.isTransient_of_none result)⟩
  · have failed : o.task = (.done (.error e) : Task σ (Except Error α)) := by
      rw [Attempt.Outcome.task, result]; rfl
    obtain ⟨w', comes, rest⟩ := comes_surrender credential n result stop
    refine ⟨w', ?_, rest⟩
    rw [o.isTransient_of_error result] at last
    rw [failed, Task.bind, sequel_of_last p r credential begins operation last]
    exact comes
  · have succeeded : o.task = (.done (.ok a) : Task σ (Except Error α)) := by
      rw [Attempt.Outcome.task, result]; rfl
    refine ⟨w, ?_, stop, rfl, quiet (o.isTransient_of_ok result)⟩
    rw [succeeded]
    cases left <;> exact .refl ..

theorem exists_attempt_of_spares (free : r.deadline = none) {w : World Starts}
    (spared : w.Spares r.cancel) {n : Nat} (now : w.now = p.begins credential attempts t n) :
    ∃ m w', (p.attempt r credential recordStart (fun n => (Attempt.nth attempts n).task) n).Comes
        m w (p.outcome credential attempts t n).task w' ∧
      m ≤ 2 ∧ World.Elapses { w with state := w.state ++ [(n, w.now)] } w' ∧ w'.Spares r.cancel ∧
      w'.now = (p.outcome credential attempts t n).stop := by
  obtain ⟨m, u, w', comes, passes, turns, tried⟩ := p.exists_attempt r credential attempts n w
  have begun : World.Spares { w with state := w.state ++ [(n, w.now)] } r.cancel :=
    ⟨spared.cancelled, spared.cancelAt⟩
  have spared' := begun.elapses passes
  have open_ := World.pending_of_not spared.cancelled
  have open' := World.pending_of_not spared'.cancelled
  rw [now] at tried
  cases tried with
  | same stop => exact ⟨m, w', comes, by omega, passes, spared', stop⟩
  | cancelled off =>
    rw [spared'.cancelled] at off
    cases off
  | late deadline =>
    rw [free] at deadline
    cases deadline

theorem exists_pause_of_spares {σ : Type} (free : r.deadline = none) {w : World σ}
    (spared : w.Spares r.cancel) (delay : Duration) :
    ∃ m w', (r.pause delay).Comes m w (.done none) w' ∧ m ≤ 2 ∧ w.Elapses w' ∧ w'.Spares r.cancel ∧
      w'.now = w.now.resumes delay := by
  obtain ⟨m, x, w', comes, passes, turns, paused⟩ := r.exists_pause delay w
  have spared' := spared.elapses passes
  have open_ := World.pending_of_not spared.cancelled
  have open' := World.pending_of_not spared'.cancelled
  cases paused with
  | slept _ rings => exact ⟨m, w', comes, by omega, passes, spared', rings⟩
  | refused deadline =>
    rw [free] at deadline
    cases deadline
  | cancelled off =>
    rw [spared'.cancelled] at off
    cases off

/-- **The rounds of an execution**, with so many retries left. -/
theorem exists_executed (free : r.deadline = none) (left : Nat) :
    ∀ {n : Nat} {w : World Starts}, w.Spares r.cancel → w.now = p.begins credential attempts t n →
      ∃ m k w', (p.executeFrom r credential recordStart
        (fun n => (Attempt.nth attempts n).task) left n).Comes m w
          (p.outcome credential attempts t k).task w' ∧
        m ≤ 4 * left + 2 ∧ p.Executed credential attempts t n left k w w' := by
  induction left with
  | zero =>
    intro n w spared now
    obtain ⟨m, w₁, comes, turns, passes, -, stop⟩ := exists_attempt_of_spares free spared now
    obtain ⟨w', ends, rest⟩ :=
      comes_last p r credential recordStart (fun n => (Attempt.nth attempts n).task) (.inl rfl) stop
    refine ⟨m + 0, n, w', ?_, by omega, .of_last now (.inl rfl) passes rest.1 rest.2.1 rest.2.2⟩
    rw [executeFrom_eq]
    exact (comes.bind _).trans ends
  | succ left ih =>
    intro n w spared now
    rw [executeFrom_eq]
    obtain ⟨m, w₁, comes, turns, passes, spared₁, stop⟩ := exists_attempt_of_spares free spared now
    cases transient : (p.outcome credential attempts t n).isTransient with
    | false =>
      obtain ⟨w', ends, rest⟩ :=
        comes_last p r credential recordStart (fun n => (Attempt.nth attempts n).task)
          (.inr transient) stop
      exact ⟨m + 0, n, w',
        (comes.bind _).trans ends, by
        omega, .of_last now (.inr transient) passes rest.1 rest.2.1 rest.2.2⟩
    | true =>
      obtain ⟨failed, retryable⟩ := Attempt.Outcome.result_of_isTransient transient
      have noted :
          (w₁.append ⟨.warning, credential,
            retryNotice n (p.outcome credential attempts t n).error (p.delayFor n)⟩
        ).Spares r.cancel := ⟨spared₁.cancelled, spared₁.cancelAt⟩
      obtain ⟨m', w₂, pauses, turns', passes', spared₂, resumed⟩ :=
        exists_pause_of_spares free noted (p.delayFor n)
      have now₂ : w₂.now = p.begins credential attempts t (n + 1) := by
        rw [resumed, begins_succ, ← stop]
        rfl
      obtain ⟨m'', k, w', rest, turns'', executed⟩ := ih spared₂ now₂
      have log : w₂.log =
          w₁.log.append (p.noticeEntry credential n (p.outcome credential attempts t n)) := by
        rw [passes'.log, noticeEntry, ← stop]
        rfl
      refine ⟨m + (m' + m''), k, w',
        (comes.bind _).trans ?_, by omega, executed.next now transient passes passes'.state log⟩
      rw [Attempt.Outcome.task, failed, Option.elim_some, Task.bind, sequel, if_pos retryable]
      exact .note (pauses.then rest)

/-! ### Delays -/

theorem factor_mono {m n : Nat} (h : m ≤ n) : factor m ≤ factor n := by
  have bounded : ∀ {k}, k < 32 → Nat.pow 2 k ≤ 2147483648 := fun hk =>
    Nat.pow_le_pow_right (Nat.succ_pos 1) (Nat.le_of_lt_succ hk)
  rw [factor, factor]
  split_ifs with hm hn
  · exact Nat.pow_le_pow_right (Nat.succ_pos 1) h
  · have := bounded hm
    omega
  · omega
  · exact Nat.le_refl _

theorem delayFor_le_maxDelay (p : RetryPolicy) (n : Nat) : p.delayFor n ≤ p.maxDelay :=
  Nat.min_le_right ..

theorem delayFor_mono (p : RetryPolicy) {m n : Nat} (h : m ≤ n) : p.delayFor m ≤ p.delayFor n := by
  have product : p.baseDelay.nanos * factor m ≤ p.baseDelay.nanos * factor n :=
    Nat.mul_le_mul_left _ (factor_mono h)
  have capped : p.delayFor m ≤ p.maxDelay := p.delayFor_le_maxDelay m
  by_cases fits : p.baseDelay.nanos * factor n ≤ Duration.longest.nanos
  · have fits' := Nat.le_trans product fits
    simp only [delayFor, Duration.times?, if_pos fits, if_pos fits', Option.getD_some]
    show min (p.baseDelay.nanos * factor m) p.maxDelay.nanos ≤
      min (p.baseDelay.nanos * factor n) p.maxDelay.nanos
    omega
  · have full : p.delayFor n = p.maxDelay := by
      simp only [delayFor, Duration.times?, if_neg fits, Option.getD_none]
      exact congrArg Duration.mk (Nat.min_self _)
    rwa [full]

theorem delays_of_le {k : Nat} (h : k ≤ p.maxRetries.toNat) :
    p.delays k = (List.range k).map p.delayFor := by
  rw [delays, Nat.min_eq_left h]

/-! ### Trials -/

/-- **What a trial comes to** if nothing but the policy bounds it, given its last attempt. -/
structure Conducted (p : RetryPolicy) (credential : String)
    (attempts : List (Attempt α)) (w : World Starts) (trial : RetryTrial α) (k : Nat) : Prop where
  budget : k ≤ p.maxRetries.toNat
  transient : ∀ n < k, (p.outcome credential attempts w.now n).result =
      some (.error (p.outcome credential attempts w.now n).error) ∧
    (p.outcome credential attempts w.now n).error.isRetryable = true
  last : k = p.maxRetries.toNat ∨ (p.outcome credential attempts w.now k).isTransient = false
  starts : trial.starts = w.state ++
    (List.range (k + 1)).map fun n => (n, p.begins credential attempts w.now n)
  result : trial.result = some (p.outcome credential attempts w.now k).ending
  stop : trial.stop = (p.outcome credential attempts w.now k).stop
  log : trial.log =
    (((List.range k).map fun n => p.noticeEntry credential n
      (p.outcome credential attempts w.now n)) ++
        partingEntries credential k (p.outcome credential attempts w.now k)).foldl Log.append w.log
  numbers : ∀ n ≤ k, attemptsAfter n = n + 1
  paced : ∀ n u, (p.outcome credential attempts w.now n).stop.after? (p.delayFor n) = some u →
    u ≤ p.begins credential attempts w.now (n + 1) ∧
    (p.begins credential attempts w.now (n + 1)).nanos < u.nanos + 1000000
  delays : p.delays k = (List.range k).map p.delayFor
  rising : ∀ m n, m ≤ n → p.delayFor m ≤ p.delayFor n
  capped : ∀ n, p.delayFor n ≤ p.maxDelay

theorem tryOut_of_comes {m : Nat} {w w' : World Starts} {o : Attempt.Outcome α}
    (comes : (p.execute r credential recordStart fun n =>
      (Attempt.nth attempts n).task).Comes m w o.task w')
    (turns : m ≤ 4 * p.maxRetries.toNat + 5) :
    p.tryOut w r credential attempts = ⟨some o.ending, w'.state, w'.now, w'.log⟩ := by
  have enough : m < 2 * p.patience 1 + 4 := by
    rw [patience]
    omega
  have ended := Schedule.over_of_outcome comes 0 enough
  rw [tryOut]
  simp only [ended.finished, ended.state, ended.now, ended.log, List.head?_cons, Option.map_some]

/-- **A trial for a request without a deadline** that is not cancelled. -/
theorem conducted_of_unbounded (p : RetryPolicy) (r : Request) (credential : String)
    (attempts : List (Attempt α)) (w : World Starts) (free : r.deadline = none)
    (spared : w.Spares r.cancel) (few : p.maxRetries.toNat < 4294967295) :
    ∃ k, p.Conducted credential attempts w (p.tryOut w r credential attempts) k := by
  have now : w.now = p.begins credential attempts w.now 0 := rfl
  obtain ⟨m, k, w', comes, turns, executed⟩ := exists_executed free p.maxRetries.toNat spared now
  have budget : k ≤ p.maxRetries.toNat := Nat.zero_add p.maxRetries.toNat ▸ executed.budget
  rw [tryOut_of_comes comes (by omega)]
  refine ⟨k, budget, fun n hn => ?_, ?_, ?_, rfl, executed.now, ?_, fun n hn => ?_,
    fun n u shown => ?_, delays_of_le budget, fun m n => p.delayFor_mono, p.delayFor_le_maxDelay⟩
  · exact Attempt.Outcome.result_of_isTransient (executed.transient n (Nat.zero_le n) hn)
  · exact Nat.zero_add p.maxRetries.toNat ▸ executed.last
  · rw [executed.state, startsAt, Nat.sub_zero, List.range_eq_range']
  · rw [executed.log, entriesFrom, Nat.sub_zero, List.range_eq_range']
  · exact Nat.mod_eq_of_lt (by omega)
  · exact Instant.resumes_bounds shown

/-- A trial in which nothing has happened. -/
def fresh : World Starts := .initial ⟨0⟩ (.ofCapacity 8) []

/-- An operation that fails once with an error that may pass. -/
def busyOnce : List (Attempt Nat) :=
  [.ends ⟨0⟩ (.error (.service "mi" 503 "busy")), .ends ⟨0⟩ (.ok 1)]

theorem conducted_of_unbounded_busyOnce :
    (⟨["scope"], none, 0⟩ : Request).deadline = none ∧ fresh.Spares 0 ∧
      standard.maxRetries.toNat < 4294967295 ∧
      ∃ k, standard.Conducted "mi" busyOnce fresh
        (standard.tryOut fresh ⟨["scope"], none, 0⟩ "mi" busyOnce) k :=
  have spared : fresh.Spares 0 := ⟨rfl, rfl⟩
  ⟨rfl, spared, by decide, conducted_of_unbounded standard ⟨["scope"], none,
    0⟩ "mi" busyOnce fresh rfl spared (by decide)⟩

/-- The bound of an attempt ends when its timer rings: an attempt that takes longer, but ends by
then, has its own result. If no clock can show the end of the bound, the execution breaks down. -/
theorem tryOut_overrun :
    Duration.mk 1200000 < .ofMillis 2 ∧
      ((⟨0, ⟨0⟩, ⟨0⟩, ⟨1200000⟩⟩ : RetryPolicy).tryOut fresh ⟨["scope"], none, 0⟩ "mi"
        [.ends (.ofMillis 2) (.ok 1)]).result = some (.value (.ok 1)) ∧
      ((⟨0, ⟨0⟩, ⟨0⟩, .longest⟩ : RetryPolicy).tryOut fresh ⟨["scope"], none,
        0⟩ "mi" [.ends ⟨0⟩ (.ok 1)]).result = some .crashed := by
  refine ⟨by decide, ?_, ?_⟩
  · rfl
  · rfl

end RetryPolicy

end TokenChain
