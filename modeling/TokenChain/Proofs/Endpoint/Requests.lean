import TokenChain.Proofs.Endpoint.Answer

/-! # Requests one after another

An execution that asks an endpoint for a token sends one message per attempt and uses up one reply
for it, so its requests are answered by the replies in their order, at instants that the policy and
the replies tell beforehand. The execution comes to what is read out of the first outcome that may
not pass, or out of the last one that the budget allows (`Endpoint.exists_requested`). -/

namespace TokenChain.Endpoint

/-- The surroundings after so many requests with a message. -/
def afterRequests (msg : Message) (n : Nat) (around : Surroundings) : Surroundings :=
  { around with wire := ⟨around.wire.replies.drop n, around.wire.sent ++ List.replicate n msg⟩ }

theorem afterRequests_zero (msg : Message) (around : Surroundings) :
    afterRequests msg 0 around = around := by
  simp [afterRequests]

theorem afterRequests_succ (msg : Message) (n : Nat) (around : Surroundings) :
    { afterRequests msg n around with wire := (afterRequests msg n around).wire.record msg } =
      afterRequests msg (n + 1) around := by
  simp [afterRequests, Wire.record, List.replicate_succ']

section Timeline
variable (p : RetryPolicy) (credential : String) (around : Surroundings) (t : Instant)

/-- What comes of the requests of an execution that begins at an instant. -/
def comesOf (n : Nat) : Attempt.Outcome Outcome := p.outcome credential around.wire.attempts t n

variable {p credential around t}

theorem comesOf_eq (msg : Message) (n : Nat) : comesOf p credential around t n =
    (afterRequests msg n around).wire.nextReply.attempt.outcome credential p.attemptTimeout
      (p.begins credential around.wire.attempts t n) := by
  unfold comesOf RetryPolicy.outcome
  rw [around.wire.nth_attempts n]
  rfl

theorem eq_noResponse_of_comesOf {n : Nat} {e : Error}
    (h : (comesOf p credential around t n).result = some (.error e)) :
    e = Attempt.noResponse credential p.attemptTimeout := by
  rw [comesOf_eq default] at h
  exact Reply.eq_noResponse h

end Timeline

/-! ### Rounds of requests -/

section Rounds
variable {p : RetryPolicy} {credential : String} {family : Family} {r : Request} {msg : Message}
  {around : Surroundings}
  {t : Instant}

variable (p credential family r msg around t) in
/-- How the requests of an execution come out. -/
abbrev answerOf (n : Nat) : Attempt.Outcome Token :=
  answer credential family r.scopes (comesOf p credential around t n)

/-- Behind a request that is followed by another one its message has been sent. -/
theorem posted_of_isTransient {n : Nat}
    (transient : (answerOf p credential family r around t n).isTransient = true) :
    posted msg (afterRequests msg n around) (comesOf p credential around t n) =
      afterRequests msg (n + 1) around := by
  rw [isTransient_answer credential family p.attemptTimeout r.scopes fun _ =>
    eq_noResponse_of_comesOf] at transient
  obtain ⟨y, come, -⟩ := (Option.any_eq_true ..).mp transient
  rw [posted, come, Option.isSome_some, if_pos rfl, afterRequests_succ]

variable (family) in
/-- **The rounds of an execution** that asks an endpoint for a token. -/
theorem rounds_of_requests (sendable : Wire.isSendable msg = true) (free : r.deadline = none) :
    p.Rounds r credential (fun _ => .done ()) (fun _ => call credential family r.scopes msg)
      (answerOf p credential family r around t)
      (fun n w => w.Spares r.cancel ∧ w.now = p.begins credential around.wire.attempts t n ∧
        w.state = afterRequests msg n around)
      (fun n w => w.Spares r.cancel ∧ w.state =
        posted msg (afterRequests msg n around) (comesOf p credential around t n)) where
  attempt := by
    rintro n w ⟨spared, now, state⟩
    obtain ⟨m, w', comes, turns, stop, spared', state'⟩ :=
      exists_answered credential family r p.attemptTimeout sendable free spared
    rw [state, now, ← comesOf_eq] at comes stop state'
    exact ⟨m, w', comes, turns, stop, spared', state'⟩
  pause := by
    rintro n w ⟨spared, state⟩ stop transient e
    have noted : (w.append e).Spares r.cancel := ⟨spared.cancelled, spared.cancelAt⟩
    obtain ⟨m, w', pauses, turns, passes, spared', resumed⟩ :=
      RetryPolicy.exists_pause_of_spares free noted (p.delayFor n)
    refine ⟨m, w', pauses, turns, spared', ?_, ?_⟩
    · rw [resumed, RetryPolicy.begins_succ]
      exact congrArg (fun now => Instant.resumes now (p.delayFor n)) stop
    · rw [passes.state]
      exact state.trans (posted_of_isTransient transient)

variable (p credential family) in
/-- **An execution that asks an endpoint for a token** sends its message once per attempt and comes
to what is read out of its last outcome. -/
theorem exists_requested (sendable : Wire.isSendable msg = true) (free : r.deadline = none)
    {w : World Surroundings} (spared : w.Spares r.cancel) : ∃ m k w',
      (p.execute r credential (fun _ => .done ()) fun _ =>
        call credential family r.scopes msg).Comes m w
          (answerOf p credential family r w.state w.now k).task w' ∧
      m ≤ 6 * p.maxRetries.toNat + 4 ∧
      RetryPolicy.Last (answerOf p credential family r w.state w.now) 0 p.maxRetries.toNat k ∧
      w'.now = (comesOf p credential w.state w.now k).stop ∧
      w'.state = posted msg (afterRequests msg k w.state)
        (comesOf p credential w.state w.now k) := by
  have ready : w.Spares r.cancel ∧ w.now = p.begins credential w.state.wire.attempts w.now 0 ∧
      w.state = afterRequests msg 0 w.state := ⟨spared, rfl, (afterRequests_zero msg w.state).symm⟩
  obtain ⟨m, k, w₁, w', comes, turns, last, ⟨-, state⟩, -, now, state'⟩ :=
    (rounds_of_requests family sendable free).exists_last p.maxRetries.toNat ready
  exact ⟨m, k, w', comes, turns, last, now, state'.trans state⟩

end Rounds

end TokenChain.Endpoint
