import Mathlib.Algebra.Order.Group.Nat
import Mathlib.Algebra.Order.BigOperators.Group.List
import TokenChain.Proofs.Endpoint.Requests
import TokenChain.Proofs.Schedule

/-! # Calls of a single source that asks over the wire

The client secret, the workload identity and the app service are all asked in the same way: one
message, sent again as long as the retries last and what comes of it may pass (`Inquiry`). A source
is usable if nothing is missing from its settings (`Member.Usable`), and a call of a usable source
that no deadline and no cancellation bounds is conducted as the replies to its messages tell
(`Inquiry.Conducted`, `Session.conducted_of_usable`). -/

namespace TokenChain

open TokenChain.Task TokenChain.Endpoint

/-! ### A lone task of the sources -/

namespace Shared

variable {ρ α : Type}

/-- The world of the sources beside a chain. -/
abbrev beside (chain : ChainState) (w : World ρ) : World (Shared ρ) := w.widen ⟨chain, w.state⟩

/-- A wait of the sources, beside a chain. -/
abbrev liftWait (v : Wait ρ) : Wait (Shared ρ) :=
  { v with ready := v.ready ∘ Shared.sources,
           abandon := fun s => { s with sources := v.abandon s.sources } }

theorem over_lift {v : Wait ρ} {n : Nat} {x : Wake} {w w' : World ρ} (passed : v.Over w n x w')
    (chain : ChainState) : (liftWait v).Over (beside chain w) n x (beside chain w') := by
  cases passed with
  | now wakes => exact .now wakes
  | cancelled asleep wakes => exact .cancelled asleep wakes
  | rings asleep still alarm wakes => exact .rings asleep still alarm wakes
  | ringsIn asleep still alarm silent wakes => exact .ringsIn asleep still alarm silent wakes

/-- **A lone task of the sources** comes to the same beside a chain, which it leaves as it is. -/
theorem comes_lift {n : Nat} {t u : Task ρ α} {w w' : World ρ} (comes : t.Comes n w u w')
    (chain : ChainState) : (lift t).Comes n (beside chain w) (lift u) (beside chain w') := by
  induction comes with
  | refl => exact .refl ..
  | look _ ih => exact .look ih
  | note _ ih => exact .note ih
  | step _ ih => exact .step ih
  | wait passed _ ih => exact .wait (over_lift passed chain) ih

theorem lift_task (o : Attempt.Outcome α) : lift (o.task : Task ρ (Except Error α)) = o.task := by
  unfold Attempt.Outcome.task
  cases o.result <;> rfl

end Shared

/-! ### What usable sources ask -/

namespace Wire

/-- Whether a text may stand in a header. -/
def isLegal (text : String) : Bool := !text.toList.any isIllegal

/-- A message with a header of its own beside the one of the client can be sent if that one is
legal. -/
theorem isSendable_of_perm {m : Message} {agent : String} {own : String × String}
    (headers : m.headers.Perm [("user-agent", agent), own]) (legal : isLegal own.2 = true) :
    isSendable m = true := by
  unfold isLegal at legal
  rw [isSendable, headers.all_eq]
  simp only [List.all_cons, List.all_nil, BEq.rfl, legal, Bool.true_or, Bool.or_true, Bool.and_true]

end Wire

/-- What a source asks over the wire, and how often. -/
structure Inquiry where
  credential : String
  family : Family
  retry : RetryPolicy
  message : Message

namespace Member

/-- **What a member asks** for scopes, given the files from which it proves who asks. -/
inductive Inquires (files : Files) (scopes : List String) : Member → Inquiry → Prop
  | environment {s : EnvironmentSource} {client : ClientSecret} {url : Url}
      (configured : s.client = .ok client)
      (address : tokenUrl s.authority client.tenantId = .ok url) :
      Inquires files scopes (.environment s) ⟨EnvironmentSource.credential, .authority, s.retry,
        grantMessage url s.userAgent [("client_id", client.clientId),
          ("client_secret", client.secret)] scopes⟩
  | workload {s : WorkloadSource} {f : Federation} {url : Url} {proof : String}
      (configured : s.federation = .ok f)
      (proves : WorkloadSource.assertion files f.tokenFile = .ok proof)
      (address : tokenUrl s.authority f.tenantId = .ok url) :
      Inquires files scopes (.workload s) ⟨WorkloadSource.credential, .authority, s.retry,
        grantMessage url s.userAgent [("client_assertion_type", WorkloadSource.assertionType),
          ("client_assertion", proof), ("client_id", f.clientId)] scopes⟩
  | appService {s : ManagedIdentitySource} {url : Url} {header resource : String}
      (endpoint : s.endpoint = .appService url header)
      (single : Scope.resource ManagedIdentitySource.credential scopes = .ok resource) :
      Inquires files scopes (.managedIdentity s) ⟨ManagedIdentitySource.credential,
        .managedIdentity, s.retry, s.message resource⟩

/-- **A source of which nothing is missing**: a client at a tenant of an authority with a
hierarchical address, with a readable assertion that is not blank if it has to prove itself; or an
app service that is asked for a single scope. What it sends stands in headers as it is. -/
inductive Usable (files : Files) (scopes : List String) : Member → Prop
  | environment {s : EnvironmentSource} {client : ClientSecret} {names : List String}
      (configured : s.client = .ok client) (tenant : isTenant client.tenantId = true)
      (hierarchical : s.authority.path = .segments names) : Usable files scopes (.environment s)
  | workload {s : WorkloadSource} {f : Federation} {names : List String} {text : String}
      (configured : s.federation = .ok f) (tenant : isTenant f.tenantId = true)
      (hierarchical : s.authority.path = .segments names)
      (readable : WorkloadSource.readText files f.tokenFile = .ok text)
      (filled : Text.allBlank text = false) : Usable files scopes (.workload s)
  | appService {s : ManagedIdentitySource} {url : Url} {header scope : String}
      (endpoint : s.endpoint = .appService url header) (legal : Wire.isLegal header = true)
      (single : scopes = [scope]) (valid : Scope.isValid scope = true) :
      Usable files scopes (.managedIdentity s)

theorem exists_tokenUrl {authority : Url} {tenant : String} {names : List String}
    (valid : isTenant tenant = true) (hierarchical : authority.path = .segments names) :
    ∃ url, tokenUrl authority tenant = .ok url := by
  unfold tokenUrl checkTenant Url.join
  rw [if_pos valid, hierarchical]
  exact ⟨_, rfl⟩

theorem isSendable_grantMessage (url : Url) (agent : String) (proof : List (String × String))
    (scopes : List String) : Wire.isSendable (grantMessage url agent proof scopes) = true :=
  Wire.isSendable_of_perm (.swap ..) (by decide)

/-- **A usable source asks** for a token with a message that can be sent. -/
theorem Usable.exists_inquires {files : Files} {scopes : List String} {m : Member}
    (usable : m.Usable files scopes) :
    ∃ q, m.Inquires files scopes q ∧ Wire.isSendable q.message = true := by
  cases usable with
  | environment configured tenant hierarchical =>
    obtain ⟨url, address⟩ := exists_tokenUrl tenant hierarchical
    exact ⟨_, .environment configured address, isSendable_grantMessage ..⟩
  | @workload s f names text configured tenant hierarchical readable filled =>
    obtain ⟨url, address⟩ := exists_tokenUrl tenant hierarchical
    have proves : WorkloadSource.assertion files f.tokenFile = .ok (Text.trim text) := by
      unfold WorkloadSource.assertion
      rw [readable]
      exact if_neg (Bool.eq_false_iff.mp filled)
    exact ⟨_, .workload configured proves address, isSendable_grantMessage ..⟩
  | @appService s url header scope endpoint legal single valid =>
    have resource : Scope.resource ManagedIdentitySource.credential scopes =
        .ok (String.ofList (Scope.dropSuffix Scope.defaultSuffix scope.toList)) := by
      rw [single, Scope.resource, Scope.check, if_pos valid]
      rfl
    have headers :
        ∀ resource, (s.message resource).headers =
          [("user-agent", s.userAgent), ("x-identity-header", header)] := by
      intro resource
      unfold ManagedIdentitySource.message
      rw [endpoint]
    exact ⟨_, .appService endpoint resource, Wire.isSendable_of_perm (.of_eq (headers _)) legal⟩

end Member

/-! ### Calls of a source -/

namespace Inquiry

variable (q : Inquiry) (around : Surroundings) (t : Instant)

/-- What comes of the messages of an inquiry that begins at an instant. -/
abbrev comesOf (n : Nat) : Attempt.Outcome Outcome :=
  Endpoint.comesOf q.retry q.credential around t n

/-- What an inquiry comes to when it ends with one of its messages. -/
abbrev answerOf (scopes : List String) (n : Nat) : Attempt.Outcome Token :=
  answer q.credential q.family scopes (q.comesOf around t n)

/-- An inquiry on behalf of a request. -/
def task (r : Request) : Task Surroundings (Except Error Token) :=
  q.retry.execute r q.credential (fun _ => .done ()) fun _ =>
    call q.credential q.family r.scopes q.message

end Inquiry

theorem Source.comes_reported {σ : Type} {credential : String}
    (work : Task σ (Except Error Token)) {n : Nat} {o : Attempt.Outcome Token} {w w' : World σ}
    (comes : work.Comes n w o.task w') :
    ∃ w'', (reported credential work).Comes n w o.task w'' ∧ w''.now = w'.now ∧
      w''.state = w'.state := by
  unfold Attempt.Outcome.task at comes ⊢
  cases result : o.result with
  | none =>
    rw [result] at comes
    exact ⟨w', .look (comes.bind _), rfl, rfl⟩
  | some x =>
    rw [result] at comes
    let entry : Note := report credential (w'.now.since w.now) x
    have noted :
        (Task.look fun stop => .note (report credential (stop.now.since w.now) x)
          (.done x) : Task σ _).Comes 0 w'
        (.done x) (w'.append entry) := .look (.note (.refl ..))
    have whole :=
      comes.then (g := fun x => .look fun stop =>
        .note (report credential (stop.now.since w.now) x) (.done x)) noted
    exact ⟨_, .look whole, rfl, rfl⟩

/-- **A call of a member** does what the member asks. -/
theorem Member.Inquires.comes_getToken {files : Files} {m : Member} {q : Inquiry} {r : Request}
    (inquires : m.Inquires files r.scopes q) {w w' : World Surroundings}
    (here : w.state.files = files) {n : Nat} {o : Attempt.Outcome Token}
    (comes : (q.task r).Comes n w o.task w') :
    ∃ w'', (m.source.getToken r).Comes n w o.task w'' ∧ w''.now = w'.now ∧
      w''.state = w'.state := by
  cases inquires with
  | @environment s client url configured address =>
    refine Source.comes_reported (s.fetch r) ?_
    unfold EnvironmentSource.fetch EnvironmentSource.ask authorityToken
    rw [configured]
    simp only [address]
    exact comes
  | @workload s f url proof configured proves address =>
    refine Source.comes_reported (s.fetch r) ?_
    unfold WorkloadSource.fetch WorkloadSource.ask authorityToken
    rw [configured]
    refine .step ?_
    simp only [here, proves, address]
    exact comes
  | @appService s url header resource endpoint single =>
    refine Source.comes_reported (s.fetch r) ?_
    unfold ManagedIdentitySource.fetch Request.resource
    rw [single]
    simp only [endpoint]
    exact comes

/-! ### Calls of a session -/

/-- A call of a source that begins at once and that nothing bounds. -/
structure Call.IsPlain (c : Call) : Prop where
  timeout : c.timeout = none
  cancelled : c.cancelled = false
  cancelAfter : c.cancelAfter = none
  abortAfter : c.abortAfter = none
  start : c.start.nanos = 0

/-- **How a call goes** that makes an inquiry, given the last message of the inquiry: what comes of
the others may pass, and what comes of the last one may not, or no retry is left. The result is the
one that the last outcome bears; who reads a token that expires beyond the calendar breaks down, and
so does the call before its message is sent if no clock can show the end of the limit. -/
structure Inquiry.Conducted (q : Inquiry) (scopes : List String) (around : Surroundings)
    (t : Instant) (k : Nat) (result : Option CallResult) (traffic : Traffic) : Prop where
  budget : k ≤ q.retry.maxRetries.toNat
  passing : ∀ n < k, ∃ y, (q.comesOf around t n).result = some y ∧ mayPass y = true
  last : k = q.retry.maxRetries.toNat ∨ ∀ y, (q.comesOf around t k).result =
    some y → mayPass y = false
  runs : traffic.runs = []
  sent : ∀ y, (q.comesOf around t k).result = some y →
    traffic.sent = List.replicate (k + 1) q.message
  bears : ∀ y, (q.comesOf around t k).result = some y →
    (∃ x, result = some ⟨.value x, (q.comesOf around t k).stop⟩ ∧
      Bears q.credential q.family scopes q.retry.attemptTimeout (q.comesOf around t k).stop y x) ∨
    (result = some ⟨.crashed, (q.comesOf around t k).stop⟩ ∧
      ∃ status bytes grant, y = .ok (.response status (.ok bytes)) ∧ isSuccess status = true ∧
      grant? bytes = some grant ∧ grant.LeavesCalendar (q.comesOf around t k).stop)
  broken : (q.comesOf around t k).result = none → traffic.sent = List.replicate k q.message ∧
    result = some ⟨.crashed, (q.comesOf around t k).stop⟩

namespace Session

variable {s : Session} {c : Call}

theorem start_of_isPlain (plain : c.IsPlain) :
    s.start [c] = { world := s.world, queue := [.ofTask s.nextKey none (s.work c s.nextKey)] } := by
  unfold start arranged keyed job arrange
  simp [plain.cancelled, plain.cancelAfter, plain.abortAfter, plain.start]

theorem work_of_isPlain (plain : c.IsPlain) {i : Nat} {m : Member} (via : c.via = some i)
    (member : s.members[i]? = some m) (key : CancelKey) :
    s.work c key = Shared.lift (m.source.getToken ⟨c.scopes, none, key⟩) := by
  unfold work request? Request.ofTimeout?
  rw [plain.timeout, via]
  simp only [member]

theorem patience_le {i : Nat} {m : Member} (member : s.members[i]? = some m) :
    m.patience ≤ s.patience := by
  unfold patience
  rw [← List.sum_eq_foldr]
  exact List.single_le_sum (fun _ _ => Nat.zero_le _) _
    (List.mem_map_of_mem (List.mem_append_left _ (List.mem_of_getElem? member)))

theorem patience_of_inquires {files : Files} {m : Member} {q : Inquiry}
    (inquires : m.Inquires files c.scopes q) : 3 * q.retry.maxRetries.toNat + 2 ≤ m.patience := by
  cases inquires with
  | environment | workload => exact Nat.le_refl _
  | appService => exact Nat.le_add_right _ 2

/-- **The end of a plain call** whose work comes to what is left of an attempt. -/
theorem step_get_of_comes (plain : c.IsPlain) {n : Nat} {o : Attempt.Outcome Token}
    {w' : World (Shared Surroundings)} (comes : (s.work c s.nextKey).Comes n s.world o.task w')
    (enough : n ≤ 4 * s.patience + 12) :
    (s.step (.get c)).2 =
      .got (some ⟨o.ending, w'.now⟩) (traffic s.world.state.sources w'.state.sources) := by
  have turns : s.turns [c] = 4 * s.patience + 13 := by
    unfold turns
    simp only [List.length_singleton]
    omega
  have ended := Schedule.over_of_outcome comes s.nextKey (by omega : n < s.turns [c])
  rw [← start_of_isPlain plain] at ended
  have keys : s.keyed [c] = [(c, s.nextKey)] := rfl
  unfold step
  simp only [runCalls_eq, keys, List.map_singleton, List.head?_cons, Option.join_some,
    ended.finished, ended.state]
  simp

theorem traffic_of_posted (msg : Message) (k : Nat) (around : Surroundings)
    (o : Attempt.Outcome Outcome) : traffic around (posted msg (afterRequests msg k around) o) =
      ⟨List.replicate (if o.result.isSome then k + 1 else k) msg, []⟩ := by
  unfold traffic posted
  split_ifs
  · rw [afterRequests_succ]
    simp [afterRequests]
  · simp [afterRequests]

theorem conducted_of_last {q : Inquiry} {scopes : List String} {around : Surroundings}
    {t : Instant} {k : Nat}
    (last : RetryPolicy.Last (q.answerOf around t scopes) 0 q.retry.maxRetries.toNat k) :
    q.Conducted scopes around t k
      (some ⟨(q.answerOf around t scopes k).ending, (q.comesOf around t k).stop⟩)
      ⟨List.replicate (if (q.comesOf around t k).result.isSome then k + 1 else k) q.message,
        []⟩ := by
  have transient :
      ∀ n, (q.answerOf around t scopes n).isTransient = (q.comesOf around t n).result.any mayPass :=
    fun n =>
      isTransient_answer q.credential q.family q.retry.attemptTimeout scopes fun _ =>
        eq_noResponse_of_comesOf
  refine ⟨by have := last.budget; omega, fun n hn => ?_, ?_, rfl, fun y come => ?_,
    fun y come => ?_, fun none => ?_⟩
  · have passes := last.transient n (Nat.zero_le n) hn
    rw [transient] at passes
    exact (Option.any_eq_true ..).mp passes
  · rcases last.final with spent | final
    · exact .inl (by omega)
    · refine .inr fun y come => ?_
      rw [transient, come, Option.any_some] at final
      exact final
  · rw [come, Option.isSome_some, if_pos rfl]
  · rcases bears_of_answer q.family scopes (fun _ => eq_noResponse_of_comesOf) come with
      ⟨x, result, bears⟩ | ⟨result, beyond⟩
    · refine .inl ⟨x, ?_, bears⟩
      rw [Attempt.Outcome.ending_of_some result]
    · refine .inr ⟨?_, beyond⟩
      rw [Attempt.Outcome.ending_of_none result]
  · have broken : (q.answerOf around t scopes k).result = Option.none := by
      unfold Inquiry.answerOf answer
      rw [none]
      rfl
    rw [none, Attempt.Outcome.ending_of_none broken]
    exact ⟨rfl, rfl⟩

/-- **A call of a usable source** that nothing bounds asks as often as the outcomes of its messages
and the policy want, and ends as the last one tells. -/
theorem conducted_of_usable (s : Session) (c : Call) (plain : c.IsPlain) {i : Nat} {m : Member}
    (via : c.via = some i) (member : s.members[i]? = some m)
    (usable : m.Usable s.world.state.sources.files c.scopes) (spared : s.world.Spares s.nextKey) :
    ∃ q k result traffic, m.Inquires s.world.state.sources.files c.scopes q ∧
      (s.step (.get c)).2 = .got result traffic ∧
      q.Conducted c.scopes s.world.state.sources s.world.now k result traffic := by
  obtain ⟨q, inquires, sendable⟩ := usable.exists_inquires
  let r : Request := ⟨c.scopes, none, s.nextKey⟩
  let outside : World Surroundings := s.world.focus Shared.sources
  have spared' : outside.Spares r.cancel := ⟨spared.cancelled, spared.cancelAt⟩
  have free : r.deadline = none := rfl
  obtain ⟨n, k, w', comes, turns, last, now, state⟩ :=
    exists_requested q.retry q.credential q.family sendable free spared'
  obtain ⟨w'', gets, now', state'⟩ := inquires.comes_getToken rfl comes
  have lifted := Shared.comes_lift gets s.world.state.chain
  rw [Shared.lift_task] at lifted
  have patient := patience_of_inquires inquires
  have enough := patience_le member
  rw [← work_of_isPlain plain via member] at lifted
  have ended := step_get_of_comes plain lifted (by omega)
  refine ⟨q, k, _, _, inquires, ended, ?_⟩
  have stop : (Shared.beside s.world.state.chain w'').now =
      (q.comesOf s.world.state.sources s.world.now k).stop :=
    now'.trans now
  have around : (Shared.beside s.world.state.chain w'').state.sources =
      posted q.message (afterRequests q.message k s.world.state.sources)
        (q.comesOf s.world.state.sources s.world.now k) :=
    state'.trans state
  rw [stop, around, traffic_of_posted]
  exact conducted_of_last last

/-- A session with an app service as its only source, which is attempted once within a limit. -/
def appServiceWithin (limit : Duration) : Session where
  members := [.managedIdentity ⟨.appService ⟨"http", "", "", some "127.0.0.1", none,
    .segments ["msi", "token"], none, none⟩ "secret", none,
    { RetryPolicy.noRetry with attemptTimeout := limit }, .ofSeconds 1, Endpoint.userAgent, 0⟩]
  chainMembers := []
  world := .initial ⟨0⟩ (.ofCapacity 8) ⟨.initial,
    ⟨.fixed 0, ⟨[⟨⟨0⟩, some (.response 404 (.ok []))⟩], []⟩, .initial, ⟨[], [], [], []⟩,
      fun _ => .untested, fun _ => []⟩⟩
  nextKey := 0

/-- A plain call of the first source. -/
def plainCall : Call := ⟨["api://app/.default"], none, false, none, none, ⟨0⟩, some 0⟩

theorem conducted_of_usable_appService :
    plainCall.IsPlain ∧ plainCall.via = some 0 ∧ (appServiceWithin (.ofSeconds 30)).world.Spares 0 ∧
      ∃ m, (appServiceWithin (.ofSeconds 30)).members[0]? = some m ∧
      m.Usable .initial plainCall.scopes ∧
        ∃ q k result traffic, m.Inquires .initial plainCall.scopes q ∧
          ((appServiceWithin (.ofSeconds 30)).step (.get plainCall)).2 = .got result traffic ∧
          q.Conducted plainCall.scopes (appServiceWithin (.ofSeconds 30)).world.state.sources
            ⟨0⟩ k result traffic :=
  have plain : plainCall.IsPlain := ⟨rfl, rfl, rfl, rfl, rfl⟩
  have spared : (appServiceWithin (.ofSeconds 30)).world.Spares 0 := ⟨rfl, rfl⟩
  have usable : Member.Usable .initial plainCall.scopes _ :=
    .appService rfl (by decide) rfl (by decide)
  ⟨plain, rfl, spared, _, rfl, usable,
    conducted_of_usable (appServiceWithin (.ofSeconds 30)) plainCall plain rfl rfl usable spared⟩

/-- A limit whose end no clock can show breaks a call down before its message is sent. -/
theorem step_get_endless :
    ((appServiceWithin .longest).step (.get plainCall)).2 =
      .got (some ⟨.crashed, ⟨0⟩⟩) ⟨[], []⟩ := by
  rfl

end Session

end TokenChain
