import TokenChain.Proofs.Endpoint.Reading
import TokenChain.Proofs.Endpoint.Reply
import TokenChain.Proofs.Identity.Attempt
import TokenChain.Proofs.Retry.Rounds
import TokenChain.Proofs.Source.Attempts

/-! # What a request comes to

How a request to an endpoint comes out is told by the reply to it: the outcome comes when both of
its parts are there, or never, and if it comes within the limit of the request it is read
(`Endpoint.answer`). Whether the failure of a request may pass depends on the transport and the
status alone (`Endpoint.mayPass`), and which result belongs to which outcome is listed in
`Endpoint.Bears`. -/

namespace TokenChain

open TokenChain.Task TokenChain.Surroundings

/-- An attempt whose limit a clock can show does not break down. -/
theorem Attempt.isSome_outcome {α : Type} (credential : String) {limit : Duration}
    {now limitEnd : Instant} (shown : now.after? limit = some limitEnd) (a : Attempt α) :
    (a.outcome credential limit now).result.isSome = true := by
  unfold outcome
  cases a with
  | hangs => simp only [shown, Option.isSome_some]
  | ends after result =>
    simp only [shown]
    split_ifs <;> rfl

namespace Endpoint

/-! ### Answers -/

section
variable (credential : String) (family : Family) (scopes : List String)

/-- What is read out of an outcome at an instant. -/
def read? (now : Instant) : Outcome → Option (Except Error Token)
  | .response status body => reading? credential family scopes status body now
  | .unreachable text => some (.error (.network credential text))
  | .timedOut text => some (.error (.timeout credential ("HTTP request timed out: " ++ text)))

/-- **What a request comes to**, given how its outcome has come. -/
def answer (o : Attempt.Outcome Outcome) : Attempt.Outcome Token :=
  ⟨o.stop, o.result.bind fun
    | .error e => some (.error e)
    | .ok outcome => read? credential family scopes o.stop outcome⟩

theorem comes_readOutcome (outcome : Outcome) (w : World Surroundings) :
    (readOutcome credential family scopes outcome).Comes 0 w
      ((read? credential family scopes w.now outcome).elim .crash .done) w := by
  cases outcome with
  | response status body =>
    rcases readToken_cases Surroundings credential family scopes status body with
      ⟨x, reads, same⟩ | reads
    · rw [readOutcome, reads, read?, same]
      exact .refl ..
    · rw [readOutcome, reads]
      exact .look (.refl ..)
  | unreachable text => exact .refl ..
  | timedOut text => exact .refl ..

end

/-! ### Requests -/

variable {credential : String} {family : Family} {r : Request} {msg : Message} {limit : Duration}
  {w : World Surroundings}

theorem comes_answer {outcome : Outcome} {stop : Instant} (now : w.now = stop) (key : CancelKey)
    (deadline : Option Instant) (a b : Except Error Token) :
    ((readOutcome credential family r.scopes outcome).giveUp key deadline a b).Comes 0 w
      (answer credential family r.scopes ⟨stop, some (.ok outcome)⟩).task w := by
  rw [giveUp_of_prompt (prompt_readOutcome ..), ← now]
  exact comes_readOutcome credential family r.scopes outcome w

variable (credential family) in
/-- **A request waits for its outcome** no longer than its limit. -/
theorem exists_awaited (free : r.deadline = none) (spared : w.Spares r.cancel) {limitEnd : Instant}
    (shown : w.now.after? limit = some limitEnd) (reply : Reply) :
    ∃ n w', (((onWire (Wire.receive reply)).bind (readOutcome credential family r.scopes)).giveUp
        r.cancel (some limitEnd) (Attempt.cancelledResult credential)
        (Attempt.expiredResult r credential limit w.now)).Comes n w
          (answer credential family r.scopes
            (reply.attempt.outcome credential limit w.now)).task w' ∧
      n ≤ 4 ∧ w.Elapses w' ∧ w'.now = (reply.attempt.outcome credential limit w.now).stop := by
  obtain ⟨n, u, w', comes, turns, passes, within⟩ :=
    Delayed.exists_within_bind spared (Int.le_refl _) reply Head.rest
      (readOutcome credential family r.scopes) limitEnd (Attempt.cancelledResult credential)
      (Attempt.expiredResult r credential limit w.now)
  have noDeadline : ∀ d, r.deadline = some d → limitEnd ≤ d := fun d hd => by
    rw [free] at hd
    cases hd
  rw [onWire_receive_bind]
  rcases within.outcome_attempt credential shown with
    ⟨outcome, there, rfl⟩ | ⟨missed, rfl⟩
  · rw [Reply.attempt, there]
    exact ⟨n + 0, w', .look (comes.trans (comes_answer rfl ..)), by omega, passes, rfl⟩
  · have silent : (Attempt.expiredResult r credential limit w.now : Except Error Token) =
        .error (Attempt.noResponse credential limit) :=
      congrArg Except.error (Request.timeout_expiredMessage shown noDeadline)
    rw [silent] at comes ⊢
    rw [Reply.attempt, missed]
    exact ⟨n, w', .look comes, turns, passes, rfl⟩

/-- What an attempt does to the surroundings, unless it breaks down before. -/
def posted (msg : Message) (around : Surroundings) (o : Attempt.Outcome Outcome) : Surroundings :=
  if o.result.isSome then { around with wire := around.wire.record msg } else around

variable (credential family r limit) in
/-- **An attempt to get a token** sends its message and comes to what is read out of the reply. -/
theorem exists_answered (sendable : Wire.isSendable msg = true) (free : r.deadline = none)
    (spared : w.Spares r.cancel) : ∃ n w', (attempt r credential family msg limit).Comes n w
        (answer credential family r.scopes
          (w.state.wire.nextReply.attempt.outcome credential limit w.now)).task w' ∧
      n ≤ 4 ∧ w'.now = (w.state.wire.nextReply.attempt.outcome credential limit w.now).stop ∧
      w'.Spares r.cancel ∧
      w'.state = posted msg w.state
        (w.state.wire.nextReply.attempt.outcome credential limit w.now) := by
  unfold attempt Request.within
  cases shown : w.now.after? limit with
  | none =>
    have broken :
        w.state.wire.nextReply.attempt.outcome credential limit w.now = ⟨w.now, none⟩ := by
      unfold Attempt.outcome
      simp only [shown]
    rw [broken]
    refine ⟨0, w, .look ?_, by omega, rfl, spared, rfl⟩
    simp only [spared.cancelled, Request.limitEnd?, shown, Option.map_none,
      Bool.false_eq_true, if_false]
    exact .refl ..
  | some limitEnd =>
    let sent : World Surroundings :=
      { w with state := { w.state with wire := w.state.wire.record msg } }
    have spared₁ : sent.Spares r.cancel := ⟨spared.cancelled, spared.cancelAt⟩
    have shown₁ : sent.now.after? limit = some limitEnd := shown
    obtain ⟨n, w', comes, turns, passes, stop⟩ :=
      exists_awaited credential family free spared₁ shown₁ w.state.wire.nextReply
    have arrived :
        (w.state.wire.nextReply.attempt.outcome credential limit w.now).result.isSome = true :=
      Attempt.isSome_outcome credential shown _
    refine ⟨n, w', .look ?_, turns, stop, spared₁.elapses passes, ?_⟩
    · have request :
          (call credential family r.scopes msg) =
            .step (fun around => { around with wire := around.wire.record msg })
          fun around => (onWire (Wire.receive around.wire.nextReply)).bind
              (readOutcome credential family r.scopes) := by
        unfold call Wire.exchange
        rw [if_pos sendable]
        rfl
      have whole : Instant.earliest r.deadline (some limitEnd) = some limitEnd := by
        rw [free]
        rfl
      simp only [spared.cancelled, Request.limitEnd?, shown, Option.map_some, Bool.false_eq_true,
        if_false, request, whole]
      exact .step comes
    · rw [passes.state, posted, if_pos arrived]

/-! ### What an outcome bears -/

/-- **Whether what has come of a request may pass**: there was no response in time, the connection
failed, the body could not be read, or the status is one that is expected to pass. The body has no
say in it. -/
def mayPass : Except Error Outcome → Bool
  | .error _ => true
  | .ok (.unreachable _) => true
  | .ok (.timedOut _) => true
  | .ok (.response _ (.error _)) => true
  | .ok (.response status (.ok _)) =>
    status == 410 || status == 429 || (500 ≤ status && status ≤ 599)

/-- The text of a body. -/
abbrev textOf (bytes : List UInt8) : String := Text.Utf8.decodeLossy bytes

/-- **Which result an outcome bears** that comes to its reader at an instant. -/
inductive Bears (credential : String) (family : Family) (scopes : List String)
    (limit : Duration) (now : Instant) : Except Error Outcome → Except Error Token → Prop
  | silence : Bears credential family scopes limit now
      (.error (Attempt.noResponse credential limit))
        (.error (.timeout credential ("no response within " ++ toString limit.wholeMillis ++ "ms")))
  | unreachable (text : String) : Bears credential family scopes limit now (.ok (.unreachable text))
      (.error (.network credential text))
  | timedOut (text : String) : Bears credential family scopes limit now (.ok (.timedOut text))
      (.error (.timeout credential ("HTTP request timed out: " ++ text)))
  | unread (status : Nat) (text : String) :
      Bears credential family scopes limit now (.ok (.response status (.error text)))
      (.error (.network credential ("Failed to read response: " ++ text)))
  | granted {status : Nat} {bytes : List UInt8} {grant : Grant} {expiry : Timestamp}
      (success : 200 ≤ status ∧ status < 300) (decodes : grant? bytes = some grant)
      (expires : grant.expiresAt? now = some expiry) :
      Bears credential family scopes limit now (.ok (.response status (.ok bytes)))
        (.ok ⟨grant.accessToken, expiry, scopes⟩)
  | undecoded {status : Nat} {bytes : List UInt8} (success : 200 ≤ status ∧ status < 300)
      (none : grant? bytes = none) : Bears credential family scopes limit now
        (.ok (.response status (.ok bytes))) (.error .json)
  | unassigned (bytes : List UInt8) (identity : family = .managedIdentity) :
      Bears credential family scopes limit now (.ok (.response 400 (.ok bytes)))
        (.error (.unavailable credential
          ("the requested identity is not assigned to this resource (" ++
            errorMessage (textOf bytes) ++ ")")))
  | absent (bytes : List UInt8) (identity : family = .managedIdentity) :
      Bears credential family scopes limit now (.ok (.response 404 (.ok bytes)))
        (.error (.unavailable credential ("managed identity endpoint not found (" ++
          errorMessage (textOf bytes) ++ ")")))
  | busy {status : Nat} (bytes : List UInt8)
      (passing : status = 410 ∨ status = 429 ∨ 500 ≤ status ∧ status ≤ 599) :
      Bears credential family scopes limit now
          (.ok (.response status (.ok bytes)))
            (.error (.service credential status (errorMessage (textOf bytes))))
  | refused {status : Nat} (bytes : List UInt8) (failure : ¬ (200 ≤ status ∧ status < 300))
      (known : ¬ (family = .managedIdentity ∧ (status = 400 ∨ status = 404)))
      (lasting : ¬ (status = 410 ∨ status = 429 ∨ 500 ≤ status ∧ status ≤ 599)) :
      Bears credential family scopes limit now (.ok (.response status (.ok bytes)))
        (.error (.unauthorized credential (some status) (errorMessage (textOf bytes))))

theorem isSuccess_iff {status : Nat} : isSuccess status = true ↔ 200 ≤ status ∧ status < 300 := by
  simp [isSuccess]

theorem isTransient_iff {status : Nat} :
    isTransient status = true ↔ status = 410 ∨ status = 429 ∨ 500 ≤ status ∧ status ≤ 599 := by
  simp [isTransient, or_assoc]

section
variable {scopes : List String} {now : Instant}

theorem bears_classify {status : Nat} (failure : ¬ isSuccess status = true) (bytes : List UInt8) :
    Bears credential family scopes limit now (.ok (.response status (.ok bytes)))
      (.error (classify credential family status (textOf bytes))) := by
  unfold classify
  dsimp only
  split_ifs with unassigned absent passing
  · simp only [Bool.and_eq_true, decide_eq_true_eq, beq_iff_eq] at unassigned
    obtain ⟨identity, rfl⟩ := unassigned
    exact .unassigned bytes identity
  · simp only [Bool.and_eq_true, decide_eq_true_eq, beq_iff_eq] at absent
    obtain ⟨identity, rfl⟩ := absent
    exact .absent bytes identity
  · exact .busy bytes (isTransient_iff.mp passing)
  · refine .refused bytes (mt isSuccess_iff.mpr failure) (fun ⟨identity, known⟩ => ?_)
      (mt isTransient_iff.mpr passing)
    simp only [Bool.and_eq_true, decide_eq_true_eq, beq_iff_eq] at unassigned absent
    rcases known with rfl | rfl
    · exact unassigned ⟨identity, rfl⟩
    · exact absent ⟨identity, rfl⟩

/-- **What is read out of an outcome** is what the outcome bears. -/
theorem bears_of_read? {outcome : Outcome} {x : Except Error Token}
    (reads : read? credential family scopes now outcome = some x) :
    Bears credential family scopes limit now (.ok outcome) x := by
  cases outcome with
  | unreachable text =>
    cases reads
    exact .unreachable text
  | timedOut text =>
    cases reads
    exact .timedOut text
  | response status body =>
    unfold read? reading? at reads
    cases body with
    | error text =>
      cases reads
      exact .unread status text
    | ok bytes =>
      dsimp only at reads
      by_cases success : isSuccess status = true
      · rw [if_pos success] at reads
        cases decodes : grant? bytes with
        | none =>
          rw [decodes] at reads
          cases reads
          exact .undecoded (isSuccess_iff.mp success) decodes
        | some grant =>
          rw [decodes] at reads
          obtain ⟨expiry, expires, rfl⟩ := Option.map_eq_some_iff.mp reads
          exact .granted (isSuccess_iff.mp success) decodes expires
      · rw [if_neg success] at reads
        cases reads
        exact bears_classify success bytes

theorem mayPass_of_isSuccess {status : Nat} (success : 200 ≤ status ∧ status < 300)
    (bytes : List UInt8) : mayPass (.ok (.response status (.ok bytes))) = false := by
  unfold mayPass
  simp only [Bool.or_eq_false_iff, beq_eq_false_iff_ne, Bool.and_eq_false_iff,
    decide_eq_false_iff_not]
  omega

/-- A failure may pass if the outcome that bears it may. -/
theorem Bears.isRetryable {y : Except Error Outcome} {e : Error}
    (bears : Bears credential family scopes limit now y (.error e)) :
    e.isRetryable = mayPass y := by
  cases bears with
  | silence | unreachable | timedOut | unread => rfl
  | undecoded success => exact (mayPass_of_isSuccess success _).symm
  | unassigned | absent => rfl
  | busy bytes passing =>
    have passes : mayPass (.ok (.response _ (.ok bytes))) = true := isTransient_iff.mpr passing
    exact passes.symm
  | refused bytes _ _ lasting =>
    have lasts : mayPass (.ok (.response _ (.ok bytes))) = false :=
      Bool.eq_false_iff.mpr (mt isTransient_iff.mp lasting)
    exact lasts.symm

variable (family scopes) in
/-- **What a request comes to** is the result that its outcome bears, or it breaks down over a token
that expires beyond the calendar. -/
theorem bears_of_answer {o : Attempt.Outcome Outcome}
    (silence : ∀ e, o.result = some (.error e) → e = Attempt.noResponse credential limit)
    {y : Except Error Outcome} (come : o.result = some y) :
    (∃ x, (answer credential family scopes o).result = some x ∧
      Bears credential family scopes limit o.stop y x) ∨
      (answer credential family scopes o).result = none ∧
      ∃ status bytes grant, y = .ok (.response status (.ok bytes)) ∧
        isSuccess status = true ∧ grant? bytes = some grant ∧ grant.LeavesCalendar o.stop := by
  unfold answer
  rw [come, Option.bind_some]
  cases y with
  | error e =>
    cases silence e come
    exact .inl ⟨_, rfl, .silence⟩
  | ok outcome =>
    cases reads : read? credential family scopes o.stop outcome with
    | some x => exact .inl ⟨x, reads, bears_of_read? reads⟩
    | none =>
      refine .inr ⟨reads, ?_⟩
      cases outcome with
      | response status body =>
        obtain ⟨bytes, grant, rfl, beyond⟩ := (reading?_eq_none ..).mp reads
        exact ⟨status, bytes, grant, rfl, beyond⟩
      | unreachable | timedOut => cases reads

variable (credential family limit scopes) in
/-- **Whether another request follows** is told by the outcome, whatever is read out of it. -/
theorem isTransient_answer {o : Attempt.Outcome Outcome}
    (silence : ∀ e, o.result = some (.error e) → e = Attempt.noResponse credential limit) :
    (answer credential family scopes o).isTransient = o.result.any mayPass := by
  cases come : o.result with
  | none =>
    have broken : (answer credential family scopes o).result = none := by
      unfold answer
      rw [come, Option.bind_none]
    exact Attempt.Outcome.isTransient_of_none broken
  | some y =>
    rw [Option.any_some]
    rcases bears_of_answer family scopes silence come with
      ⟨x, result, bears⟩ | ⟨result, status, bytes, grant, rfl, success, -⟩
    · cases x with
      | error e => exact (Attempt.Outcome.isTransient_of_error result).trans bears.isRetryable
      | ok token =>
        cases bears with
        | granted success =>
          exact (Attempt.Outcome.isTransient_of_ok result).trans
            (mayPass_of_isSuccess success _).symm
    · rw [Attempt.Outcome.isTransient_of_none result]
      exact (mayPass_of_isSuccess (isSuccess_iff.mp success) bytes).symm

end

end Endpoint

end TokenChain
