import TokenChain.Proofs.Source.Service
import TokenChain.Proofs.Task.Writing

/-! # What sources write

Only two things are written in the course of a call to a source of the library: what an execution
has to say about attempts that failed (`RetryPolicy.Tells`), and the report of the outcome behind
it. `Source.Account` is the form of what a call has written by its end: a notice for each attempt
that another one follows or was to follow, numbered from 1 without gaps, perhaps a parting word
(`RetryPolicy.Parting`), and one report.

All that a source does besides is silent, so the form follows from the loop of the execution
(`RetryPolicy.yields_executeFrom`), whatever the wire, the tools and the other callers do
(`Member.yields_getToken`). -/

namespace TokenChain

open TokenChain.Task TokenChain.Surroundings

variable {σ α : Type}

/-! ### Executions -/

theorem Request.silent_pause (r : Request) (delay : Duration) :
    (r.pause delay : Task σ (Option String)).Silent := by
  intro m
  dsimp only
  split_ifs
  · trivial
  · intro x
    cases x <;> trivial

namespace RetryPolicy

/-- What is logged about the failure of an attempt before the wait for the next one; the first
attempt has the number 0 here. -/
def notice (p : RetryPolicy) (name : String) (e : Error) (n : Nat) : Note :=
  ⟨.warning, name, "attempt " ++ toString (n + 1) ++ " failed: " ++ e.message ++ "; retrying in " ++
    toString (p.delayFor n).wholeMillis ++ "ms"⟩

/-- What is logged about failures of one attempt after another. -/
def notices (p : RetryPolicy) (name : String) (failures : List Error) : List Note :=
  failures.zipIdx.map fun f => p.notice name f.1 f.2

/-- **How an execution parts** after some failures with an announced retry each. -/
inductive Parting (p : RetryPolicy) (name : String) : List Error → List Note → Except Error α → Prop
  /-- Without a retry there is nothing to be said. -/
  | unretried {x : Except Error α} : Parting p name [] [] x
  /-- The last attempt has succeeded, or failed for good. -/
  | settled {failures : List Error} {x : Except Error α}
      (final : ∀ e, x = .error e → e.isRetryable = false) : Parting p name failures [] x
  /-- The budget has run out after a retry at least, on an error that may pass. -/
  | surrendered {failures : List Error} {e : Error} (retried : failures ≠ [])
      (out : failures.length = p.maxRetries.toNat) (transient : e.isRetryable = true) :
      Parting p name failures [⟨.warning, name, surrenderNotice failures.length e⟩] (.error e)
  /-- The wait for the announced retry was refused or cut short. -/
  | cutShort {failures : List Error} {last : Error} (reason : String) :
      Parting p name (failures ++ [last]) []
        (.error (.timeout name (cutShortMessage reason failures.length last)))

/-- **What an execution writes** by the end. -/
inductive Tells (p : RetryPolicy) (name : String) : List Note → Except Error α → Prop
  | intro {failures : List Error} {parting : List Note} {x : Except Error α}
      (transient : ∀ e ∈ failures, e.isRetryable = true)
      (budget : failures.length ≤ p.maxRetries.toNat) (parts : p.Parting name failures parting x) :
      Tells p name (p.notices name failures ++ parting) x

variable {p : RetryPolicy} {name : String}

theorem tells_nil (x : Except Error α) : p.Tells name [] x := by
  have none : ∀ e ∈ ([] : List Error), e.isRetryable = true := nofun
  exact .intro none (Nat.zero_le _) .unretried

theorem notices_concat (failures : List Error) (e : Error) :
    p.notices name (failures ++ [e]) = p.notices name failures ++
      [p.notice name e failures.length] := by
  rw [notices, List.zipIdx_append, List.map_append, Nat.zero_add]
  rfl

/-- Within the budget attempts are counted without going round. -/
theorem notice_eq {n : Nat} (budget : n < p.maxRetries.toNat) (e : Error) :
    (⟨.warning, name, retryNotice n e (p.delayFor n)⟩ : Note) = p.notice name e n := by
  have small : attemptsAfter n = n + 1 := Nat.mod_eq_of_lt (by have := p.maxRetries.toNat_lt; omega)
  rw [notice, retryNotice, small]

theorem yields_surrender {failures : List Error} (transient : ∀ e ∈ failures, e.isRetryable = true)
    (budget : failures.length ≤ p.maxRetries.toNat) {e : Error}
    (last : failures.length = p.maxRetries.toNat ∨ e.isRetryable = false) :
    (surrender name failures.length e : Task σ (Except Error α)).Yields fun ns =>
      p.Tells name (p.notices name failures ++ ns) := by
  rw [surrender]
  split_ifs with gives
  · obtain ⟨retried, passing⟩ := Bool.and_eq_true_iff.mp gives
    have out := last.resolve_right (by simp [passing])
    exact .intro transient budget
      (.surrendered (List.ne_nil_of_length_pos (of_decide_eq_true retried)) out passing)
  · refine .intro transient budget ?_
    rcases failures.eq_nil_or_concat with rfl | ⟨others, last, rfl⟩
    · exact .unretried
    · refine .settled fun e' he => ?_
      cases he
      simpa using gives

theorem yields_backOff (r : Request) {failures : List Error} {e : Error}
    {again : Task σ (Except Error α)} (transient : ∀ e' ∈ failures ++ [e], e'.isRetryable = true)
    (budget : failures.length < p.maxRetries.toNat)
    (goesOn : again.Yields fun ns => p.Tells name (p.notices name (failures ++ [e]) ++ ns)) :
    (p.backOff r name failures.length e again).Yields fun ns =>
      p.Tells name (p.notices name failures ++ ns) := by
  have told : ∀ ns, p.notices name failures ++ p.notice name e failures.length :: ns =
      p.notices name (failures ++ [e]) ++ ns := fun ns => by
    rw [notices_concat, List.append_assoc, List.singleton_append]
  have length : (failures ++ [e]).length ≤ p.maxRetries.toNat := by
    rw [List.length_append]; exact budget
  rw [backOff, notice_eq budget]
  show Task.Yields
    (fun ns => p.Tells name (p.notices name failures ++ p.notice name e failures.length :: ns)) _
  simp only [told]
  refine (r.silent_pause (p.delayFor failures.length)).yields fun reason? => ?_
  cases reason? with
  | some reason => exact .intro transient length (.cutShort reason)
  | none => exact goesOn

/-- **The loop of an execution** goes on with what it has told so far. -/
theorem yields_executeFrom (r : Request) {begins : Nat → Task σ Unit}
    {operation : Nat → Task σ (Except Error α)}
    (silent : ∀ n, (p.attempt r name begins operation n).Silent) (left : Nat) :
    ∀ {failures : List Error}, (∀ e ∈ failures, e.isRetryable = true) →
      failures.length + left = p.maxRetries.toNat →
      (p.executeFrom r name begins operation left failures.length).Yields fun ns =>
        p.Tells name (p.notices name failures ++ ns) := by
  have succeeds : ∀ {failures : List Error}, (∀ e ∈ failures, e.isRetryable = true) →
      failures.length ≤ p.maxRetries.toNat → ∀ a : α,
      (.done (.ok a) : Task σ (Except Error α)).Yields fun ns =>
        p.Tells name (p.notices name failures ++ ns) :=
    fun transient budget a => .intro transient budget (.settled nofun)
  induction left with
  | zero =>
    intro failures transient budget
    refine (silent _).yields fun x => ?_
    cases x with
    | ok a => exact succeeds transient (by omega) a
    | error e => exact yields_surrender transient (by omega) (.inl budget)
  | succ left ih =>
    intro failures transient budget
    refine (silent _).yields fun x => ?_
    cases x with
    | ok a => exact succeeds transient (by omega) a
    | error e =>
      dsimp only
      split_ifs with passing
      · have transient' : ∀ e' ∈ failures ++ [e], e'.isRetryable = true := fun e' mem => by
          rcases List.mem_append.mp mem with mem | mem
          · exact transient e' mem
          · rwa [List.mem_singleton.mp mem]
        refine yields_backOff r transient' (by omega) ?_
        have length : (failures ++ [e]).length = failures.length + 1 := List.length_append
        have rest := ih transient' (by omega)
        rwa [length] at rest
      · exact yields_surrender transient (by omega) (.inr (Bool.eq_false_iff.mpr passing))

end RetryPolicy

/-! ### What is silent -/

theorem Task.Silent.within {work : Task σ (Except Error α)} (h : work.Silent) (r : Request)
    (credential : String) (limit : Option Duration) : (r.within credential limit work).Silent := by
  show Silent (.look _)
  exact fun m => within_of_giveUp m (fun _ => trivial) trivial fun _ _ _ _ => h.giveUp ..

theorem RetryPolicy.yields_execute (p : RetryPolicy) (r : Request) (name : String)
    {operation : Nat → Task σ (Except Error α)} (silent : ∀ n, (operation n).Silent) :
    (p.execute r name (fun _ => .done ()) operation).Yields (p.Tells name) := by
  have none : ∀ e ∈ ([] : List Error), e.isRetryable = true := nofun
  have attempts : ∀ n, (p.attempt r name (fun _ => .done ()) operation n).Silent :=
    fun n => (silent n).within r name _
  exact yields_executeFrom r attempts p.maxRetries.toNat none (Nat.zero_add _)

theorem Delayed.silent_await (d : Delayed α) (start : Instant) :
    (d.await start : Task σ α).Silent := by
  rcases d.await_cases (σ := σ) start with ⟨a, -, there⟩ | waits
  · rw [there]
    trivial
  · rw [waits]
    intro _
    cases d.value <;> trivial

theorem Wire.silent_exchange (m : Message) : (exchange m).Silent := by
  rw [exchange]
  split_ifs
  · exact fun w sent =>
      (w.nextReply.silent_await sent.now).bind fun head => head.rest.silent_await _
  · trivial

theorem Tools.silent_run (tool : Tool) (key : CancelKey) (program : String) (args : List String) :
    (run tool key program args).Silent := by
  intro t
  dsimp only
  split
  · exact fun _ => trivial
  · trivial

theorem ProbeState.silent_consult (r : Request) (credential : String) :
    (consult r credential).Silent := by
  intro before
  dsimp only
  split_ifs
  · trivial
  · have waits :
        (Task.wait { ready := isSettled } fun _ => .step id fun s => .done (.ok s.admission) :
        Task ProbeState (Except Error Admission)).Silent := fun _ _ => trivial
    exact waits.within r credential none

namespace Endpoint

theorem silent_readToken (credential : String) (family : Family)
    (scopes : List String) (status : Nat) (body : Except String (List UInt8)) :
    (readToken credential family scopes status body : Task σ _).Silent := by
  cases body with
  | error e => trivial
  | ok bytes =>
    dsimp only [readToken]
    split
    · split
      · trivial
      · intro m
        dsimp only
        split <;> trivial
    · trivial

theorem silent_call (credential : String) (family : Family) (scopes : List String) (m : Message) :
    (call credential family scopes m).Silent := by
  refine (Wire.silent_exchange m).zoom.bind fun outcome => ?_
  cases outcome with
  | response status body => exact silent_readToken ..
  | unreachable text => trivial
  | timedOut text => trivial

theorem silent_authorityToken (credential agent : String) (authority : Url) (tenant : String)
    (proof : List (String × String)) (scopes : List String) :
    (authorityToken credential agent authority tenant proof scopes).Silent := by
  rw [authorityToken]
  split
  · trivial
  · exact silent_call ..

end Endpoint

/-! ### Sources -/

/-- **What a call to a source writes** by its end: what it tells of its attempts, and the report. -/
inductive Source.Account (p : RetryPolicy) (name : String) : List Note → Except Error Token → Prop
  | intro {told : List Note} {x : Except Error Token} (tells : p.Tells name told x)
      (elapsed : Duration) : Account p name (told ++ [Source.report name elapsed x]) x

theorem Source.Account.context {p : RetryPolicy} {name : String} {ns : List Note}
    {x : Except Error Token} (h : Account p name ns x) {n : Note} (mem : n ∈ ns) :
    n.context = name := by
  obtain ⟨⟨-, -, parts⟩, elapsed⟩ := h
  rcases List.mem_append.mp mem with told | last
  · rcases List.mem_append.mp told with notice | parting
    · obtain ⟨f, -, rfl⟩ := List.mem_map.mp notice
      rfl
    · cases parts with
      | surrendered =>
        cases List.mem_singleton.mp parting
        rfl
      | unretried | settled | cutShort => cases parting
  · cases List.mem_singleton.mp last
    cases x <;> rfl

theorem Source.yields_reported {p : RetryPolicy} {name : String}
    {work : Task σ (Except Error Token)} (h : work.Yields (p.Tells name)) :
    (reported name work).Yields (Account p name) :=
  fun _ => .bind <| h.mono fun tells _ => .intro tells _

namespace ManagedIdentitySource

variable (s : ManagedIdentitySource) (resource : String) (r : Request)

theorem silent_probe : (s.probe resource r).Silent := by
  have asked :=
    (Endpoint.silent_call credential .managedIdentity r.scopes
      (s.message resource)).within r credential
    (some s.probeTimeout)
  refine (asked.onLoss _).bind fun result => ?_
  exact fun _ => trivial

theorem yields_fetchImds : (s.fetchImds resource r).Yields (s.retry.Tells credential) := by
  refine (ProbeState.silent_consult r credential).zoom.yields fun admission => ?_
  cases admission with
  | error e => exact RetryPolicy.tells_nil _
  | ok admission =>
    cases admission with
    | closed reason => exact RetryPolicy.tells_nil _
    | probe => exact (s.silent_probe resource r).yields_of RetryPolicy.tells_nil
    | opened => exact s.retry.yields_execute r credential fun _ => Endpoint.silent_call ..

theorem yields_fetch : (s.fetch r).Yields (s.retry.Tells credential) := by
  rw [fetch]
  split
  · exact RetryPolicy.tells_nil _
  · split
    · exact s.yields_fetchImds _ r
    · exact s.retry.yields_execute r credential fun _ => Endpoint.silent_call ..

end ManagedIdentitySource

theorem EnvironmentSource.yields_fetch (s : EnvironmentSource) (r : Request) :
    (s.fetch r).Yields (s.retry.Tells credential) := by
  rw [fetch]
  split
  · exact RetryPolicy.tells_nil _
  · exact s.retry.yields_execute r credential fun _ => Endpoint.silent_authorityToken ..

theorem WorkloadSource.yields_fetch (s : WorkloadSource) (r : Request) :
    (s.fetch r).Yields (s.retry.Tells credential) := by
  rw [fetch]
  split
  · exact RetryPolicy.tells_nil _
  · intro around
    dsimp only
    split
    · exact RetryPolicy.tells_nil _
    · exact s.retry.yields_execute r credential fun _ => Endpoint.silent_authorityToken ..

theorem ToolSource.silent_fetch (s : ToolSource) (r : Request) : (s.fetch r).Silent := by
  rw [fetch]
  cases s.arguments r with
  | error e => trivial
  | ok args =>
    have results :
        ∀ outcome, (.done (s.result outcome) : Task Surroundings
          (Except Error (List UInt8))).Silent :=
      fun _ => trivial
    have ran : (s.run r args).Silent :=
      ((Tools.silent_run s.tool r.cancel s.program args).zoom.bind results).within r
        s.tool.credential (some s.timeout)
    refine ran.bind fun output => ?_
    cases output with
    | error e => trivial
    | ok stdout =>
      intro around
      dsimp only
      split <;> trivial

/-- The policy of a member; a member that does not attempt anything again has no retries. -/
def Member.policy : Member → RetryPolicy
  | environment s => s.retry
  | workload s => s.retry
  | managedIdentity s => s.retry
  | tool _ | explicit _ | rehearsed _ => .noRetry

/-- **The members of the library** give account of their calls. -/
theorem Member.yields_getToken {m : Member} (own : m.IsOwn) (r : Request) :
    (m.source.getToken r).Yields (Source.Account m.policy m.source.name) := by
  cases m with
  | environment s => exact Source.yields_reported (s.yields_fetch r)
  | workload s => exact Source.yields_reported (s.yields_fetch r)
  | managedIdentity s => exact Source.yields_reported (s.yields_fetch r)
  | tool s =>
    have told : (s.fetch r).Yields (RetryPolicy.noRetry.Tells s.tool.credential) :=
      (s.silent_fetch r).yields_of RetryPolicy.tells_nil
    refine .bind <| (Source.yields_reported told).mono fun {ns x} account => ?_
    intro around
    show Source.Account _ _ (ns ++ []) x
    rwa [List.append_nil]
  | explicit e =>
    intro m
    exact .intro (RetryPolicy.tells_nil _) ⟨0⟩
  | rehearsed s => exact own.elim

end TokenChain
