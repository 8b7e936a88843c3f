import TokenChain.Proofs.Retry.Conduct
import TokenChain.Proofs.Task.Alone
import TokenChain.Proofs.Task.Service

/-! # Executions that a request curtails

The deadline of a request and its cancellation can only cut an execution short: attempts are begun
at the instants at which they are begun without them, as long as they are begun at all. Each round
keeps to the timeline, or the request ends it (`RetryPolicy.exists_curtailed`, by induction on the
retries that are left). A request that has been cancelled ends the pause that follows, and a
deadline that has come refuses it, unless the pause takes no time: with delays of zero attempts go
on after the deadline, and these are the only ones that may not be on the timeline.

The result compares two trials of one policy (`RetryPolicy.trimmed_of_tryOut`). -/

namespace TokenChain

variable {α : Type}

theorem Attempt.Outcome.result_of_task {σ : Type} {o : Outcome α} {x : Except Error α}
    (h : (Task.done x : Task σ (Except Error α)) = o.task) : o.result = some x := by
  rw [task] at h
  cases result : o.result with
  | none =>
    rw [result] at h
    cases h
  | some y =>
    rw [result] at h
    cases h
    rfl

theorem Attempt.Tried.cases_task {σ : Type} {r : Request} {o : Outcome α} {w : World σ}
    {u : Task σ (Except Error α)} (h : Tried r o w u) : u = .crash ∨ ∃ x, u = .done x := by
  cases h with
  | same =>
    rw [Outcome.task]
    cases o.result with
    | none => exact .inl rfl
    | some x => exact .inr ⟨x, rfl⟩
  | cancelled _ e => exact .inr ⟨_, rfl⟩
  | late _ _ e => exact .inr ⟨_, rfl⟩

namespace RetryPolicy

variable (p : RetryPolicy) (r : Request) (credential : String) (attempts : List (Attempt α))

/-- An execution that tries attempts of a list. -/
abbrev trying (left n : Nat) : Task Starts (Except Error α) :=
  p.executeFrom r credential recordStart (fun n => (Attempt.nth attempts n).task) left n

/-- What such an execution does after an attempt. -/
abbrev tryingOn (left n : Nat) : Except Error α → Task Starts (Except Error α) :=
  p.sequel r credential recordStart (fun n => (Attempt.nth attempts n).task) left n

/-- An execution that goes on after an attempt: the attempt has failed with an error that may pass,
and the request leaves room for the pause. -/
structure GoesOn (n : Nat) (x : Except Error α) (w w' : World Starts) : Prop where
  failed : ∃ e, x = .error e ∧ e.isRetryable = true
  on : w'.cancelled r.cancel = false
  now : w'.now = w.now.resumes (p.delayFor n)
  room : ∀ d, r.deadline = some d → p.delayFor n ≤ d.since w.now

theorem exists_surrender (key : CancelKey) (n : Nat) (e : Error) (w : World Starts) :
    ∃ m w', w.Passes w' ∧ m + w'.pending key ≤ 2 + w.pending key ∧
      (surrender credential n e : Task Starts (Except Error α)).Comes m w
        (.done (.error e)) w' := by
  rw [surrender]
  split_ifs
  · exact ⟨0, w.append _, ⟨rfl, Int.le_refl _, fun _ h => h⟩,
      Nat.add_le_add_right (Nat.zero_le 2) _, .note (.refl ..)⟩
  · exact ⟨0, w, .refl w, Nat.add_le_add_right (Nat.zero_le 2) _, .refl ..⟩

/-- **After an attempt** an execution ends, or waits and goes on. -/
theorem exists_sequel (left n : Nat) (x : Except Error α) (w : World Starts) :
    ∃ m w', w.Passes w' ∧ m + w'.pending r.cancel ≤ 2 + w.pending r.cancel ∧
      ((∃ o : Attempt.Outcome α, (p.tryingOn r credential attempts left n x).Comes m w o.task w') ∨
        ∃ left', left = left' + 1 ∧ p.GoesOn r n x w w' ∧
          (p.tryingOn r credential attempts left n x).Comes m w
            (p.trying r credential attempts left' (n + 1)) w') := by
  have ended :
      ∀ (x : Except Error α) {t : Task Starts (Except Error α)} {m : Nat} {w' : World Starts},
      t.Comes m w (.done x) w' → ∃ o : Attempt.Outcome α, t.Comes m w o.task w' :=
    fun x _ _ _ comes => ⟨⟨w.now, some x⟩, comes⟩
  rcases x with e | a
  · obtain ⟨m, w', passes, turns, comes⟩ := exists_surrender credential r.cancel n e w
    cases left with
    | zero => exact ⟨m, w', passes, turns, .inl (ended _ comes)⟩
    | succ left =>
      by_cases retryable : e.isRetryable = true
      · let noted : World Starts := w.append ⟨.warning, credential, retryNotice n e (p.delayFor n)⟩
        obtain ⟨m, why, w', pauses, passes, turns, paused⟩ := r.exists_pause (p.delayFor n) noted
        refine ⟨m, w', ⟨passes.state, passes.now, passes.cancelled⟩, turns, ?_⟩
        rw [tryingOn, sequel, if_pos retryable, backOff]
        cases paused with
        | slept on rings room =>
          exact .inr ⟨left, rfl, ⟨⟨e, rfl, retryable⟩, on, rings, room⟩, .note (pauses.bind _)⟩
        | refused | cancelled => exact .inl (ended _ (.note (pauses.bind _)))
      · rw [← p.sequel_of_last r credential recordStart _
          (.inr (Bool.eq_false_iff.mpr retryable))] at comes
        exact ⟨m, w', passes, turns, .inl (ended _ comes)⟩
  · refine ⟨0, w, .refl w, Nat.add_le_add_right (Nat.zero_le 2) _, .inl (ended (.ok a) ?_)⟩
    cases left <;> exact .refl ..

/-! ### Rounds -/

/-- How a round is followed by another one: the attempt has come out as on the timeline and there is
room for the pause, or the deadline has come and the pause takes no time. -/
inductive Rejoins (n : Nat) (w w' : World Starts) : Prop
  | onTime
      (transient :
        ((Attempt.nth attempts n).outcome credential p.attemptTimeout w.now).isTransient = true)
      (now : w'.now =
        ((Attempt.nth attempts n).outcome credential p.attemptTimeout w.now).stop.resumes
          (p.delayFor n))
      (room : ∀ d, r.deadline = some d →
        p.delayFor n ≤
          d.since ((Attempt.nth attempts n).outcome credential p.attemptTimeout w.now).stop)
  | late {d : Instant} (deadline : r.deadline = some d) (passed : d ≤ w'.now)
      (noDelay : (p.delayFor n).nanos = 0)

/-- **A round of an execution** is the last one, or another one follows. -/
theorem exists_round (left n : Nat) (w : World Starts) :
    ∃ m w', w'.state = w.state ++ [(n, w.now)] ∧ w.now ≤ w'.now ∧
    m + w'.pending r.cancel ≤ 4 + w.pending r.cancel ∧
      ((∃ o : Attempt.Outcome α, (p.trying r credential attempts left n).Comes m w o.task w') ∨
        ∃ left', left = left' + 1 ∧ p.Rejoins r credential attempts n w w' ∧
          (p.trying r credential attempts left n).Comes m w
            (p.trying r credential attempts left' (n + 1)) w') := by
  obtain ⟨m, u, w₁, comes, elapses, turns, tried⟩ := p.exists_attempt r credential attempts n w
  have begun :
      World.pending { w with state := w.state ++ [(n, w.now)] } r.cancel = w.pending r.cancel := rfl
  rw [trying, executeFrom_eq]
  rcases tried.cases_task with rfl | ⟨x, rfl⟩
  · exact ⟨m, w₁, elapses.state, elapses.now, by omega, .inl ⟨⟨w.now, none⟩, comes.bind _⟩⟩
  · obtain ⟨m', w', passes, turns', sequel⟩ := p.exists_sequel r credential attempts left n x w₁
    refine ⟨m + m', w', passes.state.trans elapses.state,
      Int.le_trans elapses.now passes.now, by omega, ?_⟩
    rcases sequel with ⟨o, ends⟩ | ⟨left', more, goesOn, next⟩
    · exact .inl ⟨o, comes.then ends⟩
    · refine .inr ⟨left', more, ?_, comes.then next⟩
      generalize hu : Task.done x = u at tried
      cases tried with
      | same stop =>
        obtain ⟨e, rfl, retryable⟩ := goesOn.failed
        have transient :=
          (Attempt.Outcome.isTransient_of_error (Attempt.Outcome.result_of_task hu)).trans retryable
        exact .onTime transient (stop ▸ goesOn.now) (stop ▸ goesOn.room)
      | cancelled off =>
        have off' := passes.cancelled r.cancel off
        rw [goesOn.on] at off'
        cases off'
      | @late d deadline passed e =>
        have none : (d.since w₁.now).nanos = 0 := by
          simp only [Instant.since, Instant.le_iff] at passed ⊢
          omega
        exact .late deadline (Int.le_trans passed passes.now)
          (Nat.eq_zero_of_le_zero (none ▸ goesOn.room d deadline))

/-- **An execution ends**, and begins no attempt before now. -/
theorem exists_trying (left : Nat) :
    ∀ (n : Nat) (w : World Starts), ∃ m w' later, ∃ o : Attempt.Outcome α,
    (p.trying r credential attempts left n).Comes m w o.task w' ∧
    m + w'.pending r.cancel ≤ 4 * left + 4 + w.pending r.cancel ∧
      w'.state = w.state ++ later ∧ ∀ s ∈ later, w.now ≤ s.2 := by
  induction left with
  | zero =>
    intro n w
    obtain ⟨m, w', state, -, turns, ⟨o, comes⟩ | ⟨left', more, -⟩⟩ :=
      p.exists_round r credential attempts 0 n w
    · exact ⟨m, w', _, o, comes, turns, state, fun s hs => List.mem_singleton.mp hs ▸ Int.le_refl _⟩
    · cases more
  | succ left ih =>
    intro n w
    obtain ⟨m, w₁, state, now, turns, ⟨o, comes⟩ | ⟨left', more, -, comes⟩⟩ :=
      p.exists_round r credential attempts (left + 1) n w
    · exact ⟨m, w₁, _, o,
        comes, by omega, state, fun s hs => List.mem_singleton.mp hs ▸ Int.le_refl _⟩
    · cases more
      obtain ⟨m', w', later, o, rest, turns', state', times⟩ := ih (n + 1) w₁
      refine ⟨m + m', w', (n, w.now) :: later, o, comes.trans rest, by omega, ?_, fun s hs => ?_⟩
      · rw [state', state, List.append_assoc, List.singleton_append]
      · rcases List.mem_cons.mp hs with rfl | hs
        · exact Int.le_refl _
        · exact Int.le_trans now (times s hs)

/-- **An execution that a request may curtail**: the attempts up to one of them are on the timeline,
and those behind it, if there are any, come after the deadline. -/
structure Curtailed (t : Instant) (n left j : Nat) (later : Starts) (w w' : World Starts) :
    Prop where
  first : n ≤ j
  budget : j ≤ n + left
  transient : ∀ i, n ≤ i → i < j → (p.outcome credential attempts t i).isTransient = true
  room : ∀ i, n ≤ i → i < j → ∀ d, r.deadline = some d →
    p.delayFor i ≤ d.since (p.outcome credential attempts t i).stop
  state : w'.state = w.state ++ (startsAt (p.begins credential attempts t) n j ++ later)
  late : later = [] ∨ ∃ d, r.deadline = some d ∧ (∀ s ∈ later, d ≤ s.2) ∧
    ∃ i < n + left, (p.delayFor i).nanos = 0

variable {p r credential attempts} {t : Instant}

theorem Curtailed.of_last {n left : Nat} {w w₁ w' : World Starts} {later : Starts}
    (now : w.now = p.begins credential attempts t n) (state₁ : w₁.state = w.state ++ [(n, w.now)])
    (state : w'.state = w₁.state ++ later)
    (late : later = [] ∨ ∃ d, r.deadline = some d ∧ (∀ s ∈ later, d ≤ s.2) ∧
      ∃ i < n + left, (p.delayFor i).nanos = 0) :
    p.Curtailed r credential attempts t n left n later w w' where
  first := Nat.le_refl n
  budget := Nat.le_add_right n left
  transient i hn hj := absurd hj (Nat.not_lt.mpr hn)
  room i hn hj := absurd hj (Nat.not_lt.mpr hn)
  state := by rw [state, state₁, startsAt_self, now, List.append_assoc]
  late := late

theorem Curtailed.next {n left j : Nat} {w w₁ w' : World Starts} {later : Starts}
    (now : w.now = p.begins credential attempts t n) (state : w₁.state = w.state ++ [(n, w.now)])
    (transient : (p.outcome credential attempts t n).isTransient = true)
    (room : ∀ d, r.deadline = some d →
      p.delayFor n ≤ d.since (p.outcome credential attempts t n).stop)
    (rest : p.Curtailed r credential attempts t (n + 1) left j later w₁ w') :
    p.Curtailed r credential attempts t n (left + 1) j later w w' where
  first := Nat.le_of_succ_le rest.first
  budget := by
    have := rest.budget
    omega
  transient := forall_of_next transient rest.transient
  room := forall_of_next room rest.room
  state := by rw [rest.state, state, startsAt_of_lt _ rest.first, now, List.append_assoc,
    List.singleton_append, List.cons_append]
  late := by
    refine rest.late.imp_right fun ⟨d, deadline, times, i, hi, zero⟩ =>
      ⟨d, deadline, times, i, ?_, zero⟩
    omega

/-- **The rounds of an execution** on behalf of a request, with so many retries left. -/
theorem exists_curtailed (left : Nat) :
    ∀ {n : Nat} {w : World Starts}, w.now = p.begins credential attempts t n →
    ∃ m w' j later, ∃ o :
    Attempt.Outcome α, (p.trying r credential attempts left n).Comes m w o.task w' ∧
      m + w'.pending r.cancel ≤ 4 * left + 4 + w.pending r.cancel ∧
      p.Curtailed r credential attempts t n left j later w w' := by
  induction left with
  | zero =>
    intro n w now
    obtain ⟨m, w', state, -, turns, ⟨o, comes⟩ | ⟨left', more, -⟩⟩ :=
      p.exists_round r credential attempts 0 n w
    · exact ⟨m, w', n, [], o, comes, turns, .of_last now state (List.append_nil _).symm (.inl rfl)⟩
    · cases more
  | succ left ih =>
    intro n w now
    obtain ⟨m, w₁, state, -, turns, ⟨o, comes⟩ | ⟨left', more, rejoins, comes⟩⟩ :=
      p.exists_round r credential attempts (left + 1) n w
    · exact ⟨m, w₁, n, [], o,
        comes, by omega, .of_last now state (List.append_nil _).symm (.inl rfl)⟩
    · cases more
      cases rejoins with
      | onTime transient resumed room =>
        rw [now] at transient resumed room
        have now₁ : w₁.now = p.begins credential attempts t (n + 1) := resumed
        obtain ⟨m', w', j, later, o, rest, turns', curtailed⟩ := ih now₁
        exact ⟨m + m', w', j, later, o,
          comes.trans rest, by omega, curtailed.next now state transient room⟩
      | @late d deadline passed noDelay =>
        -- nothing is on the timeline any more, but all that still comes, comes after the deadline
        obtain ⟨m', w', later, o, rest, turns', state', times⟩ :=
          p.exists_trying r credential attempts left (n + 1) w₁
        refine ⟨m + m', w', n, later, o,
          comes.trans rest, by omega, .of_last now state state' (.inr ?_)⟩
        exact ⟨d, deadline, fun s hs => Int.le_trans passed (times s hs), n, by omega, noDelay⟩

/-! ### Trials -/

/-- **What a request may make of a trial**, beside the trial without it. -/
structure Trimmed (p : RetryPolicy) (r : Request) (credential : String)
    (attempts : List (Attempt α)) (t : Instant) (curtailed free : RetryTrial α) : Prop where
  /-- The attempts are the first ones of those without the request, at the same instants. -/
  starts : r.deadline = none ∨ (∀ n < p.maxRetries.toNat, 0 < (p.delayFor n).nanos) →
    curtailed.starts <+: free.starts
  /-- Whatever the delays are, this holds of the attempts before the deadline. -/
  before : ∀ d, r.deadline = some d →
    (curtailed.starts.filter fun s => decide (s.2 < d)) <+: free.starts
  /-- An attempt is followed by another one only if the pause between them ends by the deadline. -/
  room : ∀ d, r.deadline = some d → (∀ n < p.maxRetries.toNat, 0 < (p.delayFor n).nanos) → ∀ n u u',
    (n, u) ∈ curtailed.starts → (n + 1, u') ∈ curtailed.starts →
      (p.outcome credential attempts t n).stop + p.delayFor n ≤ d ∧ (d.IsShown → u' ≤ d.ceilMilli)

theorem startsAt_isPrefix (times : Nat → Instant) {j k : Nat} (h : j ≤ k) :
    startsAt times 0 j <+: startsAt times 0 k := by
  obtain ⟨more, rfl⟩ := Nat.exists_eq_add_of_le h
  have longer : j + more + 1 - 0 = (j + 1 - 0) + more := by omega
  rw [startsAt, startsAt, longer, ← List.range_eq_range', ← List.range_eq_range', List.range_add]
  exact (List.prefix_append ..).map _

theorem filter_startsAt_isPrefix {times : Nat → Instant} (mono : ∀ {m n}, m ≤ n → times m ≤ times n)
    (d : Instant) (k : Nat) :
    ((startsAt times 0 k).filter fun s => decide (s.2 < d)) <+: startsAt times 0 k := by
  rw [startsAt, ← List.range_eq_range', Nat.sub_zero]
  induction k + 1 with
  | zero => exact List.prefix_rfl
  | succ k ih =>
    rw [List.range_succ, List.map_append, List.map_singleton, List.filter_append]
    cases early : decide (times k < d) with
    | true =>
      -- the last attempt comes before the instant, and so do all others
      have all : ∀ s ∈ (List.range k).map fun i => (i, times i), decide (s.2 < d) = true := by
        intro s hs
        obtain ⟨i, hi, rfl⟩ := List.mem_map.mp hs
        have earlier := mono (Nat.le_of_lt (List.mem_range.mp hi))
        have last : times k < d := of_decide_eq_true early
        exact decide_eq_true (Int.lt_of_le_of_lt earlier last)
      rw [List.filter_eq_self.mpr all]
      simp only [List.filter, early]
      exact List.prefix_rfl
    | false =>
      simp only [List.filter_cons, early, List.filter_nil]
      rw [if_neg Bool.false_ne_true, List.append_nil]
      exact ih.trans (List.prefix_append ..)

theorem mem_startsAt {times : Nat → Instant} {k n : Nat} {u : Instant} :
    (n, u) ∈ startsAt times 0 k ↔ n ≤ k ∧ u = times n := by
  rw [startsAt, ← List.range_eq_range', Nat.sub_zero, List.mem_map]
  constructor
  · rintro ⟨i, hi, same⟩
    cases same
    exact ⟨Nat.le_of_lt_succ (List.mem_range.mp hi), rfl⟩
  · rintro ⟨hn, rfl⟩
    exact ⟨n, List.mem_range.mpr (Nat.lt_succ_of_le hn), rfl⟩

/-- A pause that there is room for is over by the deadline, to the millisecond. -/
theorem resumes_le_of_room {stop d : Instant} {delay : Duration} (long : 0 < delay.nanos)
    (room : delay ≤ d.since stop) :
    stop + delay ≤ d ∧ (d.IsShown → stop.resumes delay ≤ d.ceilMilli) := by
  have inTime : stop + delay ≤ d := by
    simp only [Duration.le_iff, Instant.since, Instant.le_iff, Instant.add_nanos] at *
    omega
  refine ⟨inTime, fun shown => ?_⟩
  have due : stop.after? delay = some (stop + delay) := by
    rw [Instant.after?, if_pos]
    simp only [Instant.IsShown, Instant.le_iff] at *
    omega
  have later : stop < stop + delay := by
    simp only [Instant.lt_iff, Instant.add_nanos]
    omega
  rw [Instant.resumes, due, Option.getD_some, Instant.ring_of_lt later]
  exact Instant.ceilMilli_mono inTime

/-- On the timeline an execution gets no further than without the request. -/
theorem Curtailed.le_of_executed {left j k : Nat} {later : Starts} {w w' v v' : World Starts}
    (curtailed : p.Curtailed r credential attempts t 0 left j later w w')
    (executed : p.Executed credential attempts t 0 left k v v') : j ≤ k := by
  refine Nat.not_lt.mp fun lt => ?_
  have budget := curtailed.budget
  have transient := curtailed.transient k (Nat.zero_le k) lt
  rcases executed.last with spent | final
  · omega
  · rw [final] at transient
    cases transient

/-- Only delays of zero lead off the timeline, and only with a deadline. -/
theorem Curtailed.later_eq_nil {left j : Nat} {later : Starts} {w w' : World Starts}
    (curtailed : p.Curtailed r credential attempts t 0 left j later w w')
    (bounded : r.deadline = none ∨ ∀ n < left, 0 < (p.delayFor n).nanos) : later = [] := by
  rcases curtailed.late with none | ⟨d, deadline, -, i, hi, zero⟩
  · exact none
  · rcases bounded with free | long
    · rw [free] at deadline
      cases deadline
    · have := long i (by omega)
      omega

/-- Off the timeline no attempt begins before the deadline. -/
theorem Curtailed.filter_later {left j : Nat} {later : Starts} {w w' : World Starts}
    (curtailed : p.Curtailed r credential attempts t 0 left j later w w') {d : Instant}
    (deadline : r.deadline = some d) : (later.filter fun s => decide (s.2 < d)) = [] := by
  refine List.filter_eq_nil_iff.mpr fun s hs early => ?_
  rcases curtailed.late with rfl | ⟨d', deadline', times, -⟩
  · cases hs
  · cases deadline.symm.trans deadline'
    have before : s.2 < d := of_decide_eq_true early
    exact Int.not_le.mpr before (times s hs)

/-- **The deadline and the cancellation of a request** only make a trial shorter, given the trial
without them. -/
theorem trimmed_of_tryOut (p : RetryPolicy) (r r₀ : Request) (credential : String)
    (attempts : List (Attempt α)) (w w₀ : World Starts) (now : w₀.now = w.now)
    (begun : w.state = []) (begun₀ : w₀.state = []) (free : r₀.deadline = none)
    (spared : w₀.Spares r₀.cancel) :
    p.Trimmed r credential attempts w.now (p.tryOut w r credential attempts)
      (p.tryOut w₀ r₀ credential attempts) := by
  have first : w.now = p.begins credential attempts w.now 0 := rfl
  have first₀ : w₀.now = p.begins credential attempts w.now 0 := now
  obtain ⟨m₀, k, w₀', comes₀, turns₀, executed⟩ :=
    exists_executed free p.maxRetries.toNat spared first₀
  obtain ⟨m, w', j, later, o, comes, turns, curtailed⟩ := exists_curtailed p.maxRetries.toNat first
  have pending : w.pending r.cancel ≤ 1 := by
    rw [World.pending]
    split_ifs <;> omega
  have starts₀ :
      (p.tryOut w₀ r₀ credential attempts).starts =
        startsAt (p.begins credential attempts w.now) 0 k := by
    rw [tryOut_of_comes comes₀ (by omega), executed.state, begun₀, List.nil_append]
  have starts :
      (p.tryOut w r credential attempts).starts =
        startsAt (p.begins credential attempts w.now) 0 j ++ later := by
    rw [tryOut_of_comes comes (by omega), curtailed.state, begun, List.nil_append]
  have shorter :
      startsAt (p.begins credential attempts w.now) 0 j <+:
        startsAt (p.begins credential attempts w.now) 0 k :=
    startsAt_isPrefix _ (curtailed.le_of_executed executed)
  refine ⟨fun bounded => ?_, fun d deadline => ?_, fun d deadline long n u u' _ mem => ?_⟩
  · rw [starts, starts₀, curtailed.later_eq_nil bounded, List.append_nil]
    exact shorter
  · rw [starts, starts₀, List.filter_append, curtailed.filter_later deadline, List.append_nil]
    exact (filter_startsAt_isPrefix (p.begins_mono credential attempts w.now) d j).trans shorter
  · rw [starts, curtailed.later_eq_nil (.inr long), List.append_nil] at mem
    obtain ⟨hn, rfl⟩ := mem_startsAt.mp mem
    have budget := curtailed.budget
    exact resumes_le_of_room (long n (by omega)) (curtailed.room n (Nat.zero_le n) hn d deadline)

theorem trimmed_of_tryOut_busyOnce :
    fresh.state = [] ∧ (⟨["scope"], none, 1⟩ : Request).deadline = none ∧ fresh.Spares 1 ∧
      standard.Trimmed ⟨["scope"], some ⟨1000000000⟩, 0⟩ "mi" busyOnce (fresh.cancel 0).now
        (standard.tryOut (fresh.cancel 0) ⟨["scope"], some ⟨1000000000⟩, 0⟩ "mi" busyOnce)
        (standard.tryOut fresh ⟨["scope"], none, 1⟩ "mi" busyOnce) :=
  have spared : fresh.Spares 1 := ⟨rfl, rfl⟩
  ⟨rfl, rfl, spared, trimmed_of_tryOut standard ⟨["scope"], some ⟨1000000000⟩, 0⟩ ⟨["scope"],
    none, 1⟩ "mi" busyOnce (fresh.cancel 0) fresh rfl rfl rfl rfl spared⟩

/-- Without delays an attempt follows one that the deadline has ended, at an instant at which none
is begun without the deadline; and a timer may ring a little after the deadline. -/
theorem tryOut_pastDeadline :
    ((⟨1, ⟨0⟩, ⟨0⟩, .ofSeconds 30⟩ : RetryPolicy).tryOut fresh ⟨["scope"], some ⟨100000000⟩, 0⟩ "mi"
        [(.hangs : Attempt Nat)]).starts = [(0, ⟨0⟩), (1, ⟨100000000⟩)] ∧
      ((⟨1, ⟨0⟩, ⟨0⟩, .ofSeconds 30⟩ : RetryPolicy).tryOut fresh ⟨["scope"], none, 0⟩ "mi"
        [(.hangs : Attempt Nat)]).starts = [(0, ⟨0⟩), (1, ⟨30000000000⟩)] ∧
      ((⟨1, ⟨300000⟩, ⟨300000⟩, .ofSeconds 30⟩ : RetryPolicy).tryOut fresh ⟨["scope"],
        some ⟨500000⟩, 0⟩ "mi" busyOnce).starts = [(0, ⟨0⟩), (1, ⟨1000000⟩)] := by
  refine ⟨?_, ?_, ?_⟩
  · rfl
  · rfl
  · rfl

end RetryPolicy

end TokenChain
