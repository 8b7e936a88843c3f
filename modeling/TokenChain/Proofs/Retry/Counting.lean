import TokenChain.Proofs.Log.Retention
import TokenChain.Proofs.Retry.Fidelity
import TokenChain.Proofs.Schedule.Ending

/-! # Attempts and their numbers

An execution numbers its attempts in what it says of them. Here an attempt is taken down twice
(`RetryPolicy.takenDown`): when it is begun, that is when its work is made ready, and when its work
starts (`RetryPolicy.watched`). An execution on behalf of any request, under any policy, says the
number of the attempts that have been begun by then, with one exception: after the last attempt that
the greatest budget allows the count is 0, because it is kept in 32 bits. The work of these attempts
has started, unless the request has been cancelled before; then the only attempt is begun and
counted although its work never starts (`RetryPolicy.numbered_of_execute`).

`RetryPolicy.Counted` says so of the attempts from one on; `RetryPolicy.exists_counted` is the
induction over the retries that are left. -/

namespace TokenChain

variable {α : Type}

namespace RetryPolicy

/-! ### Attempts that start -/

/-- The work of an attempt, which takes down that it starts. -/
def watched (attempts : List (Attempt α)) (n : Nat) : Task Starts (Except Error α) :=
  (recordStart n).bind fun _ => (Attempt.nth attempts n).task

section Started
variable (p : RetryPolicy) (r : Request) (credential : String)
  (attempts : List (Attempt α)) (w : World Starts)

/-- What is taken down of an attempt: it is begun, and its work starts, unless the request has been
cancelled before or no clock can show the end of the limit. -/
def takenDown (n : Nat) : Starts :=
  (n, p.beginsWithin r credential attempts w n) ::
    if w.cancelled r.cancel = false ∧
    ((p.beginsWithin r credential attempts w n).after? p.attemptTimeout).isSome then
      [(n, p.beginsWithin r credential attempts w n)]
    else []

end Started

variable {p : RetryPolicy} {r : Request} {credential : String}
  {attempts : List (Attempt α)} {w : World Starts}

theorem exists_watched {n : Nat} {w₁ : World Starts}
    (now : w₁.now = p.beginsWithin r credential attempts w n) (since : After r w w₁)
    (same : w₁.cancelled r.cancel = w.cancelled r.cancel) :
    ∃ m w₂, (p.attempt r credential recordStart (watched attempts) n).Comes m w₁
        (p.outcomeWithin r credential attempts w n).task w₂ ∧
      w₂.state = w₁.state ++ p.takenDown r credential attempts w n ∧ w₂.log = w₁.log ∧
      After r w w₂ ∧ w₂.now = (p.outcomeWithin r credential attempts w n).stop := by
  have bounded : (Attempt.nth attempts n).bounded r credential p.attemptTimeout w₁ w₁.now =
      p.outcomeWithin r credential attempts w n := by
    rw [outcomeWithin, ← now]
    exact Attempt.bounded_congr same since.cancelAt ..
  let begun : World Starts := { w₁ with state := w₁.state ++ [(n, w₁.now)] }
  have sinceBegun : After r w begun := since.trans (.of_elapses r (.refl begun) rfl rfl rfl)
  rw [takenDown, ← same, ← now, ← bounded]
  cases off : w₁.cancelled r.cancel with
  | true =>
    rw [if_neg (by simp), Attempt.bounded, if_pos off]
    refine ⟨0, begun, .look (.step (.look ?_)), rfl, rfl, sinceBegun, rfl⟩
    rw [if_pos off]
    exact .refl ..
  | false =>
    cases shown : w₁.now.after? p.attemptTimeout with
    | none =>
      have broken :
          (Attempt.nth attempts n).bounded r credential p.attemptTimeout w₁ w₁.now =
            ⟨w₁.now, none⟩ := by
        simp only [Attempt.bounded, off, Attempt.uncancelled, shown, Bool.false_eq_true, if_false]
        exact Attempt.Outcome.unlessCancelled_of_now ..
      rw [if_neg (by simp), broken]
      refine ⟨0, begun, .look (.step (.look ?_)), rfl, rfl, sinceBegun, rfl⟩
      simp only [begun, off, Request.limitEnd?, shown, Option.map_none,
        Bool.false_eq_true, if_false]
      exact .refl ..
    | some limitEnd =>
      let started : World Starts := { begun with state := begun.state ++ [(n, w₁.now)] }
      obtain ⟨m, u, w₂, comes, passes, -, rfl, stop⟩ :=
        Attempt.exists_giveUp_bounded (w := started) credential shown off (Attempt.nth attempts n)
      rw [if_pos ⟨rfl, rfl⟩]
      refine ⟨m, w₂, .look (.step (.look ?_)), ?_, passes.log,
        since.trans (.of_elapses r passes rfl rfl rfl), stop⟩
      · simp only [off, Request.limitEnd?, shown, Option.map_some, Bool.false_eq_true, if_false]
        exact .look (.step comes)
      · exact passes.state.trans (List.append_assoc ..)

/-! ### What is said -/

theorem attemptsAfter_of_lt (p : RetryPolicy) {n : Nat} (retriesLeft : n < p.maxRetries.toNat) :
    attemptsAfter n = n + 1 := by
  have small := p.maxRetries.toNat_lt
  exact Nat.mod_eq_of_lt (by omega)

/-- The count that is printed goes wrong at the greatest budget alone. -/
theorem attemptsAfter_of_le (p : RetryPolicy) {n : Nat} (budget : n ≤ p.maxRetries.toNat) :
    attemptsAfter n = if n = 4294967295 then 0 else n + 1 := by
  have small := p.maxRetries.toNat_lt
  rw [attemptsAfter]
  split_ifs with full
  · rw [full]
  · exact Nat.mod_eq_of_lt (by omega)

section Said
variable (p : RetryPolicy) (r : Request) (credential : String) (w : World Starts)

/-- The entry about an attempt behind which an execution pauses. -/
def pauseEntry (n : Nat) (o : Attempt.Outcome α) : Entry :=
  ⟨⟨.warning, credential, "attempt " ++ toString (n + 1) ++ " failed: " ++
    o.error.message ++ "; retrying in " ++ toString (p.delayFor n).wholeMillis ++ "ms"⟩, o.stop⟩

/-- **What is said at the end of an execution**, in the log and by its ending, given its last
attempt. -/
inductive Closes (k : Nat) (last : Attempt.Outcome α) (stop : Instant) :
    List Entry → Ending (Except Error α) → Prop
  | quiet (final : k = p.maxRetries.toNat ∨ last.isTransient = false)
      (silent : k = 0 ∨ last.isTransient = false) : Closes k last stop [] last.ending
  | surrendered {e : Error} (spent : k = p.maxRetries.toNat) (retried : 0 < k)
      (failed : last.result = some (.error e)) (retryable : e.isRetryable = true) :
      Closes k last stop
        [⟨⟨.warning, credential, "giving up after " ++
          toString (if k = 4294967295 then 0 else k + 1) ++ " attempts: " ++ e.message⟩, last.stop⟩]
            (.value (.error e))
  | cutShort {e : Error} {reason : String} (retriesLeft : k < p.maxRetries.toNat)
      (failed : last.result = some (.error e)) (retryable : e.isRetryable = true)
      (why : Interrupts r w (p.delayFor k) last.stop stop reason) :
      Closes k last stop [p.pauseEntry credential k last] (.value (.error (.timeout credential
        (reason ++ " after attempt " ++ toString (k + 1) ++ ": " ++ e.message))))

end Said

theorem noticeEntry_eq {n : Nat} (retriesLeft : n < p.maxRetries.toNat) (o : Attempt.Outcome α) :
    p.noticeEntry credential n o = p.pauseEntry credential n o := by
  rw [noticeEntry, retryNotice, p.attemptsAfter_of_lt retriesLeft, pauseEntry]

variable (p r credential w) in
theorem closes_partingEntries (stop : Instant) {k : Nat} {last : Attempt.Outcome α}
    (budget : k ≤ p.maxRetries.toNat) (final : k = p.maxRetries.toNat ∨ last.isTransient = false) :
    p.Closes r credential w k last stop (partingEntries credential k last) last.ending := by
  rw [partingEntries]
  split_ifs with loud
  · rw [Bool.and_eq_true, decide_eq_true_eq] at loud
    obtain ⟨retried, transient⟩ := loud
    obtain ⟨failed, retryable⟩ := Attempt.Outcome.result_of_isTransient transient
    have spent : k = p.maxRetries.toNat := final.resolve_right (Bool.not_eq_false _ ▸ transient)
    unfold surrenderNotice
    rw [p.attemptsAfter_of_le budget, last.ending_of_some failed]
    exact .surrendered spent retried failed retryable
  · refine .quiet final ?_
    rw [Bool.and_eq_true, decide_eq_true_eq, not_and, Bool.not_eq_true] at loud
    exact k.eq_zero_or_pos.imp_right loud

theorem Gives.closes {k : Nat} {last : Attempt.Outcome α} {stop : Instant}
    {ending : Ending (Except Error α)} (gives : p.Gives r credential w k last stop ending)
    (retriesLeft : k < p.maxRetries.toNat) (transient : last.isTransient = true) :
    p.Closes r credential w k last stop [p.pauseEntry credential k last] ending := by
  cases gives with
  | asIs final =>
    rcases final with spent | lasting
    · exact absurd spent (Nat.ne_of_lt retriesLeft)
    · exact absurd transient (Bool.eq_false_iff.mp lasting)
  | cutShort failed retryable _ why => exact .cutShort retriesLeft failed retryable why

/-! ### The rounds -/

/-- **The rounds of an execution** from one attempt on, up to the last one. -/
structure Counted (p : RetryPolicy) (r : Request) (credential : String)
    (attempts : List (Attempt α)) (w : World Starts) (n k : Nat) (ending : Ending (Except Error α))
    (w₁ w' : World Starts) : Prop where
  first : n ≤ k
  budget : k ≤ p.maxRetries.toNat
  transient : ∀ i, n ≤ i → i < k → (p.outcomeWithin r credential attempts w i).isTransient = true
  on : n < k → w.cancelled r.cancel = false
  state : w'.state = w₁.state ++ (List.range' n (k + 1 - n)).flatMap
    (p.takenDown r credential attempts w)
  log : ∃ closing,
    p.Closes r credential w k (p.outcomeWithin r credential attempts w k) w'.now closing ending ∧
    w'.log = (((List.range' n (k - n)).map fun i =>
      p.pauseEntry credential i (p.outcomeWithin r credential attempts w i)) ++ closing).foldl
        Log.append w₁.log

theorem Counted.of_last {n : Nat} {ending : Ending (Except Error α)} {w₁ w' : World Starts}
    {closing : List Entry} (budget : n ≤ p.maxRetries.toNat)
    (state : w'.state = w₁.state ++ p.takenDown r credential attempts w n)
    (closes : p.Closes r credential w n (p.outcomeWithin r credential attempts w n) w'.now closing
      ending)
    (log : w'.log = closing.foldl Log.append w₁.log) :
    p.Counted r credential attempts w n n ending w₁ w' where
  first := Nat.le_refl n
  budget := budget
  transient i hn hk := absurd hk (Nat.not_lt.mpr hn)
  on lt := absurd lt (Nat.lt_irrefl n)
  state := by
    rw [state, Nat.add_sub_cancel_left, List.range'_one, List.flatMap_singleton]
  log := ⟨closing, closes, by rw [log, Nat.sub_self]; rfl⟩

theorem Counted.next {n k : Nat} {ending : Ending (Except Error α)} {w₁ w₂ w' : World Starts}
    (state : w₂.state = w₁.state ++ p.takenDown r credential attempts w n)
    (log : w₂.log =
      w₁.log.append (p.pauseEntry credential n (p.outcomeWithin r credential attempts w n)))
    (transient : (p.outcomeWithin r credential attempts w n).isTransient = true)
    (on : w.cancelled r.cancel = false)
    (rest : p.Counted r credential attempts w (n + 1) k ending w₂ w') :
    p.Counted r credential attempts w n k ending w₁ w' where
  first := Nat.le_of_succ_le rest.first
  budget := rest.budget
  transient := forall_of_next transient rest.transient
  on _ := on
  state := by
    have first := rest.first
    have more : k + 1 - n = (k + 1 - (n + 1)) + 1 := by omega
    rw [rest.state, state, more, List.range'_succ, List.flatMap_cons, List.append_assoc]
  log := by
    have first := rest.first
    have more : k - n = (k - (n + 1)) + 1 := by omega
    obtain ⟨closing, closes, written⟩ := rest.log
    refine ⟨closing, closes, ?_⟩
    rw [written, log, more, List.range'_succ, List.map_cons, List.cons_append, List.foldl_cons]

theorem exists_counted_last {left n : Nat} {w₁ : World Starts}
    (spent : n + left = p.maxRetries.toNat)
    (now : w₁.now = p.beginsWithin r credential attempts w n) (since : After r w w₁)
    (same : w₁.cancelled r.cancel = w.cancelled r.cancel)
    (final : left = 0 ∨ (p.outcomeWithin r credential attempts w n).isTransient = false) :
    ∃ m w', (p.executeFrom r credential recordStart (watched attempts) left n).Comes m w₁
        (p.outcomeWithin r credential attempts w n).task w' ∧
      p.Counted r credential attempts w n n
        (p.outcomeWithin r credential attempts w n).ending w₁ w' := by
  obtain ⟨m, w₂, comes, state, log, -, stop⟩ := exists_watched now since same
  obtain ⟨w', ends, -, state', log'⟩ :=
    comes_last p r credential (n := n) recordStart (watched attempts) final stop
  have closes :=
    closes_partingEntries p r credential w w'.now (k := n) (by omega)
      (final.imp_left fun none => by omega)
  refine ⟨m + 0, w', ?_, .of_last (by omega) (state'.trans state) closes (by rw [log', log])⟩
  rw [executeFrom_eq]
  exact (comes.bind _).trans ends

/-- **The rounds of an execution** that is watched, with so many retries left. -/
theorem exists_counted (left : Nat) :
    ∀ {n : Nat} {w₁ : World Starts}, n + left = p.maxRetries.toNat →
    w₁.now = p.beginsWithin r credential attempts w n → After r w w₁ →
    w₁.cancelled r.cancel = w.cancelled r.cancel →
      ∃ m k w', ∃ o : Attempt.Outcome α,
        (p.executeFrom r credential recordStart (watched attempts) left n).Comes m w₁ o.task w' ∧
          p.Counted r credential attempts w n k o.ending w₁ w' := by
  induction left with
  | zero =>
    intro n w₁ spent now since same
    obtain ⟨m, w', comes, counted⟩ := exists_counted_last spent now since same (.inl rfl)
    exact ⟨m, n, w', _, comes, counted⟩
  | succ left ih =>
    intro n w₁ spent now since same
    cases transient : (p.outcomeWithin r credential attempts w n).isTransient with
    | false =>
      obtain ⟨m, w', comes, counted⟩ := exists_counted_last spent now since same (.inr transient)
      exact ⟨m, n, w', _, comes, counted⟩
    | true =>
      have retriesLeft : n < p.maxRetries.toNat := by omega
      obtain ⟨failed, retryable⟩ := Attempt.Outcome.result_of_isTransient transient
      obtain ⟨m, w₂, comes, state, log, since₂, stop⟩ := exists_watched now since same
      obtain ⟨m', w₃, -, state', log', since₃, ends⟩ :=
        exists_backOff failed retryable retriesLeft since₂ stop
        (p.executeFrom r credential recordStart (watched attempts) left (n + 1))
      rw [noticeEntry_eq retriesLeft, log] at log'
      have begun := comes_backOff recordStart (watched attempts) left transient comes
      rcases ends with ⟨o, ends, gives⟩ | ⟨goesOn, now₃, on⟩
      · exact ⟨m + m', n, w₃, o, begun.trans ends,
          .of_last (by omega) (state'.trans state) (gives.closes retriesLeft transient) log'⟩
      · -- an execution goes on only for a request that has never been cancelled
        have open_ : w.cancelled r.cancel = false :=
          Bool.eq_false_iff.mpr fun off => Bool.eq_false_iff.mp on (since₃.cancelled off)
        obtain ⟨m'', k, w', o, rest, counted⟩ := ih (by omega) now₃ since₃ (on.trans open_.symm)
        exact ⟨m + (m' + m''), k, w', o, begun.trans (goesOn.trans rest),
          counted.next (state'.trans state) log' transient open_⟩

/-! ### Executions -/

/-- **What is said of attempts, and which have started**, given the last attempt. -/
structure Numbered (p : RetryPolicy) (r : Request) (credential : String)
    (attempts : List (Attempt α)) (w : World Starts) (k : Nat) (ending : Ending (Except Error α))
    (w' : World Starts) : Prop where
  budget : k ≤ p.maxRetries.toNat
  transient : ∀ n < k, (p.outcomeWithin r credential attempts w n).isTransient = true
  state : w'.state = w.state ++ (List.range (k + 1)).flatMap (p.takenDown r credential attempts w)
  /-- An attempt that is begun starts, the last one unless it breaks down. -/
  starts (on : w.cancelled r.cancel = false) : ∀ n ≤ k, n < k ∨ ending ≠ .crashed →
    p.takenDown r credential attempts w n =
      [(n, p.beginsWithin r credential attempts w n), (n, p.beginsWithin r credential attempts w n)]
  /-- On behalf of a request that has been cancelled before, one attempt is begun, but does not
  start. -/
  refused (off : w.cancelled r.cancel = true) : k = 0 ∧
    p.takenDown r credential attempts w 0 = [(0, w.now)]
  log : ∃ closing,
    p.Closes r credential w k (p.outcomeWithin r credential attempts w k) w'.now closing ending ∧
    w'.log = (((List.range k).map fun n =>
      p.pauseEntry credential n (p.outcomeWithin r credential attempts w n)) ++
        closing).foldl Log.append w.log

theorem takenDown_of_result {n : Nat} (on : w.cancelled r.cancel = false)
    (whole : (p.outcomeWithin r credential attempts w n).result ≠ none) :
    p.takenDown r credential attempts w n =
      [(n, p.beginsWithin r credential attempts w n),
        (n, p.beginsWithin r credential attempts w n)] := by
  refine congrArg _ (if_pos ⟨on, Option.isSome_iff_ne_none.mpr fun overrun => whole ?_⟩)
  simp only [outcomeWithin, Attempt.bounded, on, Attempt.uncancelled, overrun,
    Bool.false_eq_true, if_false, Attempt.Outcome.unlessCancelled_of_now]

theorem Closes.result_ne_none {k : Nat} {last : Attempt.Outcome α} {stop : Instant}
    {closing : List Entry} {ending : Ending (Except Error α)}
    (closes : p.Closes r credential w k last stop closing ending) (whole : ending ≠ .crashed) :
    last.result ≠ none := by
  cases closes with
  | quiet => exact fun broken => whole (last.ending_of_none broken)
  | surrendered _ _ failed => exact failed ▸ Option.some_ne_none _
  | cutShort _ failed => exact failed ▸ Option.some_ne_none _

theorem Counted.numbered {k : Nat} {ending : Ending (Except Error α)} {w' : World Starts}
    (counted : p.Counted r credential attempts w 0 k ending w w') :
    p.Numbered r credential attempts w k ending w' := by
  obtain ⟨closing, closes, written⟩ := counted.log
  refine ⟨counted.budget, fun n => counted.transient n (Nat.zero_le n), ?_,
    fun on n _ goesOn => takenDown_of_result on ?_, fun off => ⟨?_, ?_⟩, closing, closes, ?_⟩
  · rw [counted.state, Nat.sub_zero, List.range_eq_range']
  · rcases Nat.lt_or_ge n k with earlier | last
    · rw [(Attempt.Outcome.result_of_isTransient (counted.transient n (Nat.zero_le n) earlier)).1]
      exact Option.some_ne_none _
    · obtain rfl : n = k := by omega
      exact closes.result_ne_none (goesOn.resolve_left (Nat.lt_irrefl n))
  · refine k.eq_zero_or_pos.resolve_right fun later => ?_
    rw [counted.on later] at off
    cases off
  · exact congrArg _ (if_neg fun on => Bool.eq_false_iff.mp on.1 off)
  · rw [written, Nat.sub_zero, List.range_eq_range']

theorem exists_numbered (p : RetryPolicy) (r : Request) (credential : String)
    (attempts : List (Attempt α)) (w : World Starts) : ∃ m k w', ∃ o :
    Attempt.Outcome α, (p.execute r credential recordStart (watched attempts)).Comes m w o.task w' ∧
      p.Numbered r credential attempts w k o.ending w' := by
  obtain ⟨m, k, w', o, comes, counted⟩ :=
    exists_counted p.maxRetries.toNat (Nat.zero_add _) rfl (After.refl r w) rfl
  exact ⟨m, k, w', o, comes, counted.numbered⟩

/-- **Attempts are numbered as they are begun**, under every policy and on behalf of every request;
but after all the attempts of the greatest budget their count has gone back to 0. -/
theorem numbered_of_execute (p : RetryPolicy) (r : Request) (credential : String)
    (attempts : List (Attempt α)) (w : World Starts) :
    ∃ k ending w', (p.execute r credential recordStart (watched attempts)).ComesOut w ending w' ∧
      p.Numbered r credential attempts w k ending w' := by
  obtain ⟨m, k, w', o, comes, numbered⟩ := p.exists_numbered r credential attempts w
  exact ⟨k, o.ending, w', ⟨m, fun turns => Schedule.over_of_outcome comes 0⟩, numbered⟩

/-- The greatest budget of retries, which follow at once. -/
def tireless : RetryPolicy := ⟨4294967295, ⟨0⟩, ⟨0⟩, .ofSeconds 30⟩

/-- An operation that goes on failing with an error that may pass. -/
def busy : List (Attempt Nat) := [.ends ⟨0⟩ (.error (.service "mi" 503 "busy"))]

theorem nth_busy (n : Nat) :
    Attempt.nth busy n = .ends ⟨0⟩ (.error (.service "mi" 503 "busy")) := by
  cases n <;> rfl

theorem delayFor_tireless (n : Nat) : tireless.delayFor n = ⟨0⟩ := by
  have capped : (tireless.delayFor n).nanos ≤ 0 := tireless.delayFor_le_maxDelay n
  exact congrArg Duration.mk (Nat.le_zero.mp capped)

theorem beginsWithin_tireless (n : Nat) :
    tireless.beginsWithin ⟨["scope"], none, 0⟩ "mi" busy fresh n = ⟨0⟩ := by
  induction n with
  | zero => rfl
  | succ n ih =>
    rw [beginsWithin, ih, nth_busy, delayFor_tireless]
    rfl

theorem outcomeWithin_tireless (n : Nat) :
    tireless.outcomeWithin ⟨["scope"], none, 0⟩ "mi" busy fresh n =
    ⟨⟨0⟩, some (.error (.service "mi" 503 "busy"))⟩ := by
  rw [outcomeWithin, beginsWithin_tireless, nth_busy]
  rfl

theorem takenDown_tireless (n : Nat) :
    tireless.takenDown ⟨["scope"], none, 0⟩ "mi" busy fresh n = [(n, ⟨0⟩), (n, ⟨0⟩)] := by
  rw [takenDown, beginsWithin_tireless]
  rfl

/-- After 4294967296 attempts, all of which have started, none is counted. -/
theorem execute_tireless :
    ∃ w', (tireless.execute ⟨["scope"], none, 0⟩ "mi" recordStart (watched busy)).ComesOut fresh
        (.value (.error (.service "mi" 503 "busy"))) w' ∧
      w'.state = (List.range 4294967296).flatMap (fun n => [(n, ⟨0⟩), (n, ⟨0⟩)]) ∧
      w'.log.entries.getLast? =
        some
          ⟨⟨.warning, "mi", "giving up after 0 attempts: mi service error (HTTP 503): busy"⟩,
            ⟨0⟩⟩ := by
  obtain ⟨m, k, w', o, comes, numbered⟩ :=
    tireless.exists_numbered ⟨["scope"], none, 0⟩ "mi" busy fresh
  have out : (tireless.execute ⟨["scope"], none, 0⟩ "mi" recordStart
      (watched busy)).ComesOut fresh o.ending w' :=
    ⟨m, fun turns => Schedule.over_of_outcome comes 0⟩
  have state : w'.state = (List.range (k + 1)).flatMap fun n => [(n, ⟨0⟩), (n, ⟨0⟩)] := by
    rw [numbered.state, List.flatMap_congr fun n _ => takenDown_tireless n]
    rfl
  have greatest : tireless.maxRetries.toNat = 4294967295 := rfl
  obtain ⟨closing, closes, written⟩ := numbered.log
  rw [outcomeWithin_tireless] at closes
  generalize o.ending = ending at out closes
  cases closes with
  | quiet final silent =>
    obtain rfl : k = 0 := silent.resolve_right Bool.true_eq_false.mp
    exact absurd (final.resolve_right Bool.true_eq_false.mp) (by rw [greatest]; decide)
  | surrendered spent retried failed =>
    obtain rfl : k = 4294967295 := spent.trans greatest
    cases failed
    refine ⟨w', out, state, ?_⟩
    rw [written, List.foldl_append, List.foldl_cons, List.foldl_nil, Log.getLast?_append]
    rfl
  | cutShort retriesLeft failed retryable why =>
    cases why with
    | refused deadline => cases deadline
    | cancelled off =>
      rcases off with off | ⟨c, -, due⟩
      · cases off
      · cases due

end RetryPolicy

end TokenChain
