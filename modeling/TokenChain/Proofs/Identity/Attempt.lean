import Mathlib.Data.List.Induction
import TokenChain.Proofs.Identity.Messages
import TokenChain.Proofs.Task.Interruption

/-! # The attempt of a probe

What becomes of the single attempt that a probe makes, step by step. `Attempting` lists all that an
attempt can have come to: it was refused before it began, it waits for the head of a response or for
the body, it was given up, the response is read, or there is none. `attempting_of_leads` says that
there is nothing else.

A response has arrived (`Arrived`) when the attempt goes on to wait for its body. Either the body is
read from then on (`Read`), or the attempt waits for it still, or it was given up for a
cancellation, a deadline or the limit (`Forsaken`): this is all there is (`Arrived.cases`). Once the
body is there the attempt does not wait any more, and what it ends with is read off the response
(`Judged`, `judged_of_read`). An attempt ends with a result that proves a response only if one has
been read to the end (`read_of_succeeded`). -/

namespace TokenChain

open TokenChain.Task TokenChain.Surroundings TokenChain.Endpoint

/-! ### Reading a response -/

namespace Endpoint

variable {σ : Type}

/-- The response grants a token, but its expiry lies beyond the calendar for who reads it then. -/
def Beyond (status : Nat) (bytes : List UInt8) (now : Instant) : Prop :=
  isSuccess status = true ∧ ∃ grant,
    (Json.Document.read? (Text.Utf8.encode (Text.Utf8.decodeLossy bytes))).bind Grant.ofDocument? =
      some grant ∧ grant.expiresAt? now = none

theorem provesResponse_classify (credential : String) (family : Family)
    (status : Nat) (body : String) :
    ManagedIdentitySource.provesResponse (classify credential family status body) = true := by
  unfold classify
  dsimp only
  split_ifs <;> rfl

/-- **What comes of a response** that has been read: its body could not be read, or the result
proves the response, or its expiry lies beyond the calendar. -/
inductive Judged (credential : String) (status : Nat) (body : Except String (List UInt8)) :
    Task σ (Except Error Token) → Prop
  | unread {e : String} (failed : body = .error e) :
      Judged credential status body
        (.done (.error (.network credential ("Failed to read response: " ++ e))))
  | read {bytes : List UInt8} {result : Except Error Token} (arrived : body = .ok bytes)
      (proves : ManagedIdentitySource.outcome result = .succeeded) :
      Judged credential status body (.done result)
  | beyond {bytes : List UInt8} {now : Instant} (arrived : body = .ok bytes)
      (beyond : Beyond status bytes now) : Judged credential status body .crash

theorem judged_readToken (credential : String) (family : Family)
    (scopes : List String) (status : Nat) (body : Except String (List UInt8)) :
    Judged credential status body (readToken credential family scopes status body : Task σ
      (Except Error Token)) ∨ ∃ k, (readToken credential family scopes status body :
      Task σ (Except Error Token)) = .look k ∧
        ∀ m, Judged credential status body (k m) := by
  cases body with
  | error e => exact .inl (.unread rfl)
  | ok bytes =>
    rw [readToken]
    split_ifs with success
    · cases hg : (Json.Document.read? (Text.Utf8.encode (Text.Utf8.decodeLossy bytes))).bind
          Grant.ofDocument? with
      | none => exact .inl (.read rfl rfl)
      | some grant =>
        refine .inr ⟨_, rfl, fun m => ?_⟩
        cases he : grant.expiresAt? m.now with
        | none => exact .beyond rfl ⟨success, grant, hg, he⟩
        | some expiry => exact .read rfl rfl
    · refine .inl (.read rfl ?_)
      rw [ManagedIdentitySource.outcome, provesResponse_classify]
      rfl

theorem Judged.over {credential : String} {status : Nat} {body : Except String (List UInt8)}
    {u : Task σ (Except Error Token)} (h : Judged credential status body u) :
    (∃ result, u = .done result) ∨ u = .crash := by
  cases h with
  | unread | read => exact .inl ⟨_, rfl⟩
  | beyond => exact .inr rfl

theorem prompt_readToken (credential : String) (family : Family)
    (scopes : List String) (status : Nat) (body : Except String (List UInt8)) :
    (readToken credential family scopes status body : Task σ (Except Error Token)).Prompt := by
  have prompt : ∀ {u : Task σ (Except Error Token)}, Judged credential status body u → u.Prompt :=
      fun h => by
    rcases h.over with ⟨result, rfl⟩ | rfl <;> trivial
  rcases judged_readToken credential family scopes status body with h | ⟨k, hk, h⟩
  · exact prompt h
  · rw [hk]
    exact fun m => prompt (h m)

/-- Who reads a response has not judged it yet, or has. -/
theorem judged_of_leads {credential : String} {family : Family}
    {scopes : List String} {status : Nat} {body : Except String (List UInt8)} {h : History σ}
    {u : Task σ (Except Error Token)}
    (hl : (readToken credential family scopes status body).Leads h u) :
    Judged credential status body u ∨ ∃ k, u = .look k ∧
      ∀ m, Judged credential status body (k m) := by
  have stays :
      ∀ {t : Task σ (Except Error Token)},
      Judged credential status body t → t.Leads h u → u = t := by
    intro t judged hl
    rcases judged.over with ⟨result, rfl⟩ | rfl
    · exact (leads_done hl).2
    · exact (leads_crash hl).2
  rcases judged_readToken credential family scopes status body with judged | ⟨k, hk, judged⟩
  · rw [stays judged hl]
    exact .inl judged
  · rw [hk] at hl
    cases hl with
    | refl => exact .inr ⟨k, rfl, judged⟩
    | step next rest =>
      cases next
      rcases (judged _).over with ⟨result, hr⟩ | hr
      · rw [hr] at rest
        rw [(leads_done rest).2, ← hr]
        exact .inl (judged _)
      · rw [hr] at rest
        rw [(leads_crash rest).2, ← hr]
        exact .inl (judged _)

theorem prompt_readOutcome (credential : String) (family : Family) (scopes : List String)
    (outcome : Outcome) :
    (readOutcome credential family scopes outcome : Task σ (Except Error Token)).Prompt := by
  cases outcome with
  | response status body => exact prompt_readToken ..
  | unreachable | timedOut => trivial

end Endpoint

namespace ManagedIdentitySource

/-! ### The steps of an attempt -/

/-- The attempt of a probe. -/
def attempt (s : ManagedIdentitySource) (resource : String) (r : Request) :
    Task Surroundings (Except Error Token) :=
  r.within credential (some s.probeTimeout) (s.ask resource r)

/-- What is left of a request whose head is there, given the instant at which the head was due. -/
def answering (r : Request) (due : Instant) (head : Head) :
    Task Surroundings (Except Error Token) :=
  (head.rest.await due).bind (readOutcome credential .managedIdentity r.scopes)

/-- The work of an attempt that is not refused, given when its limit ends and what the messages say
if it is given up. -/
def limited (r : Request) (deadline : Option Instant) (m : String)
    (u : Task Surroundings (Except Error Token)) : Task Surroundings (Except Error Token) :=
  u.giveUp r.cancel deadline (.error (.timeout credential Request.cancelledMessage))
    (.error (.timeout credential m))

variable {s : ManagedIdentitySource} {resource : String} {r : Request} {h : History Surroundings}
  {t u : Task Surroundings (Except Error Token)} {w w' : World Surroundings}

theorem isSendable_message (imds : s.endpoint.isImds = true) (resource : String) :
    Wire.isSendable (s.message resource) = true := by
  unfold message
  cases he : s.endpoint with
  | imds url => rfl
  | appService url header =>
    rw [he] at imds
    cases imds

/-- A request sends its message, looks at the clock, and waits for the head. -/
theorem ask_eq (imds : s.endpoint.isImds = true) (resource : String) (r : Request) :
    s.ask resource r =
      .step (fun around => { around with wire := around.wire.record (s.message resource) })
        fun around => .look fun sent => (around.wire.nextReply.await sent.now).bind
          (answering r (sent.now + around.wire.nextReply.delay)) := by
  unfold ask call Wire.exchange
  rw [if_pos (isSendable_message imds resource)]
  exact congrArg (step _) (funext fun around => onWire_receive_bind around.wire.nextReply _)

theorem pends_rest {status : Nat} {body : Body} :
    (Head.rest (.response status body)).Pends ↔ body.Pends :=
  or_congr_left Option.map_eq_none_iff

theorem due?_rest (status : Nat) (body : Body) (start : Instant) :
    (Head.rest (.response status body)).due? start = body.due? start := Option.map_map ..

/-- **The response of which the head is there** is read, unless the body is still to come. -/
theorem answering_of_not_pends (r : Request) (status : Nat) {body : Body} (there : ¬ body.Pends)
    (due : Instant) :
    ∃ content, body.value = some content ∧ answering r due (.response status body) =
      readToken credential .managedIdentity r.scopes status content := by
  obtain ⟨outcome, come, waits⟩ :=
    Delayed.await_of_not_pends (σ := Surroundings) (mt pends_rest.mp there) due
  obtain ⟨content, value, rfl⟩ := Option.map_eq_some_iff.mp come
  rw [answering, waits]
  exact ⟨content, value, rfl⟩

/-- In the course of these steps the message for the resource was sent, and this was the reply. -/
def Replies (s : ManagedIdentitySource) (resource : String)
    (h : History Surroundings) (reply : Reply) : Prop :=
  ∃ p ∈ h, p.2.state.wire = p.1.state.wire.record (s.message resource) ∧
    p.1.state.wire.nextReply = reply

/-- In the course of these steps the message for the resource was sent. -/
def Posted (s : ManagedIdentitySource) (resource : String) (h : History Surroundings) : Prop :=
  ∃ reply, s.Replies resource h reply

/-- **The head of a response is there**, and the attempt waits for the body, until the given
deadline. -/
structure Hears (s : ManagedIdentitySource) (resource : String) (r : Request)
    (h : History Surroundings) (deadline : Option Instant) (status : Nat) (body : Body)
    (due : Instant) : Prop where
  replies : ∃ delay, s.Replies resource h ⟨delay, some (.response status body)⟩
  leads : ∃ m, (s.attempt resource r).Leads h
    (limited r deadline m (answering r due (.response status body)))

/-- In the course of these steps of an attempt the head of a response arrived. -/
def Arrived (s : ManagedIdentitySource) (resource : String) (r : Request) (h : History Surroundings)
    (status : Nat) (body : Body) : Prop :=
  Once (fun a => ∃ deadline due, s.Hears resource r a deadline status body due) h

/-- In the course of these steps of an attempt a response arrived, and its body was there as
well. -/
def Read (s : ManagedIdentitySource) (resource : String) (r : Request) (h : History Surroundings)
    (status : Nat) (content : Except String (List UInt8)) : Prop :=
  Once (fun a =>
    (∃ body, s.Arrived resource r a status body ∧ body.value = some content) ∧
      (s.attempt resource r).Leads a
        (readToken credential .managedIdentity r.scopes status content)) h

/-- In the course of these steps of an attempt a response arrived, and the attempt was cut off while
it waited for the body. -/
def Forsaken (s : ManagedIdentitySource) (resource : String) (r : Request)
    (h : History Surroundings) (status : Nat) (body : Body) : Prop :=
  Once (fun a =>
    (∃ before p deadline due, a = before ++ [p] ∧
      s.Hears resource r before deadline status body due ∧ body.Pends ∧
      body.CutOff due r.cancel deadline p.1.toMoment) ∧
    ∃ m, (s.attempt resource r).Leads a
      (.step id fun _ => .done (.error (.timeout credential m)))) h

theorem Replies.snoc {reply : Reply} (hr : s.Replies resource h reply)
    (p : World Surroundings × World Surroundings) : s.Replies resource (h ++ [p]) reply := by
  obtain ⟨q, hq, he⟩ := hr
  exact ⟨q, List.mem_append_left _ hq, he⟩

theorem Posted.snoc (hp : s.Posted resource h) (p : World Surroundings × World Surroundings) :
    s.Posted resource (h ++ [p]) := by
  obtain ⟨reply, hr⟩ := hp
  exact ⟨reply, hr.snoc p⟩

theorem Hears.arrived {deadline : Option Instant} {status : Nat} {body : Body} {due : Instant}
    (hears : s.Hears resource r h deadline status body due) : s.Arrived resource r h status body :=
  .now ⟨deadline, due, hears⟩

theorem limited_readToken (deadline : Option Instant) (m : String) (status : Nat)
    (content : Except String (List UInt8)) :
    limited r deadline m (readToken credential .managedIdentity r.scopes status content) =
      readToken credential .managedIdentity r.scopes status content :=
  giveUp_of_prompt (prompt_readToken ..) ..

/-- **The step of an attempt that waits for a body**: the body is there and read, or the wait is cut
off. -/
theorem Hears.next {deadline : Option Instant} {status : Nat} {body : Body}
    {due : Instant} {m : String} (hears : s.Hears resource r h deadline status body due)
    (pends : body.Pends) (leads : (s.attempt resource r).Leads (h ++ [(w, w')]) u)
    (next : (limited r deadline m (answering r due (.response status body))).next? w =
      some (w', u)) :
    (∃ content, body.value = some content ∧ s.Read resource r (h ++ [(w, w')]) status content ∧
        u = readToken credential .managedIdentity r.scopes status content) ∨
      s.Forsaken resource r (h ++ [(w, w')]) status body ∧
        ∃ e, u = .step id fun _ => .done (.error (.timeout credential e)) := by
  obtain ⟨-, ⟨outcome, there, rfl⟩ | ⟨cut, c, hc, rfl⟩⟩ :=
    next?_giveUp_await (pends_rest.mpr pends) next
  · obtain ⟨content, value, rfl⟩ := Option.map_eq_some_iff.mp there
    change (s.attempt resource r).Leads _ (limited r deadline m (readToken ..)) at leads
    rw [limited_readToken] at leads
    have read : s.Read resource r (h ++ [(w, w')]) status content :=
      .now ⟨⟨body, hears.arrived.append _, value⟩, leads⟩
    exact .inl ⟨content, value, read, limited_readToken ..⟩
  · obtain ⟨e, rfl⟩ : ∃ e, c = .error (.timeout credential e) := hc.elim (⟨_, ·⟩) (⟨_, ·⟩)
    have cut' : body.CutOff due r.cancel deadline w.toMoment := cut.of_due?_eq (due?_rest ..).symm
    exact .inr ⟨.now ⟨⟨h, _, deadline, due, rfl, hears, pends, cut'⟩, e, leads⟩, e, rfl⟩

/-- **What an attempt has come to**, by the steps that it has taken. -/
inductive Attempting (s : ManagedIdentitySource) (resource : String) (r : Request)
    (h : History Surroundings) : Task Surroundings (Except Error Token) → Prop
  /-- It has not begun. -/
  | poised : Attempting s resource r h (s.attempt resource r)
  /-- It was refused: the request had been cancelled before. -/
  | refused {w : World Surroundings} (seen : (w, w) ∈ h) (cancelled : w.cancelled r.cancel = true) :
      Attempting s resource r h (.done (.error (.timeout credential Request.cancelledMessage)))
  /-- No clock can show the end of its limit. -/
  | unlimited {w : World Surroundings} (seen : (w, w) ∈ h)
      (beyond : Request.limitEnd? w.now (some s.probeTimeout) = none) :
      Attempting s resource r h .crash
  /-- It is about to send the message. -/
  | posting {deadline : Option Instant} {m : String} :
      Attempting s resource r h (limited r deadline m (s.ask resource r))
  /-- It has sent the message. -/
  | sending {deadline : Option Instant} {m : String} {reply : Reply}
      (replies : s.Replies resource h reply) :
      Attempting s resource r h (limited r deadline m
        (.look fun sent => (reply.await sent.now).bind (answering r (sent.now + reply.delay))))
  /-- It waits for the head of the response. -/
  | waiting {deadline : Option Instant} {m : String} {reply : Reply} {sent : Instant}
      (replies : s.Replies resource h reply) (pends : reply.Pends) :
      Attempting s resource r h (limited r deadline m
        ((reply.await sent).bind (answering r (sent + reply.delay))))
  /-- It waits for the body of the response. -/
  | hearing {deadline : Option Instant} {m : String} {status : Nat} {body : Body} {due : Instant}
      (posted : s.Posted resource h) (hears : s.Hears resource r h deadline status body due)
      (pends : body.Pends) :
      Attempting s resource r h (limited r deadline m (answering r due (.response status body)))
  /-- It is being given up while it waits. -/
  | leaving {m : String} (posted : s.Posted resource h) :
      Attempting s resource r h (.step id fun _ => .done (.error (.timeout credential m)))
  /-- It has ended without a response that has been read. -/
  | unanswered {e : Error} (posted : s.Posted resource h) (hopeless : provesResponse e = false) :
      Attempting s resource r h (.done (.error e))
  /-- The response is read. -/
  | reading {a b : History Surroundings} {status : Nat} {content : Except String (List UInt8)}
      {u : Task Surroundings (Except Error Token)} (posted : s.Posted resource h)
      (steps : h = a ++ b) (read : s.Read resource r a status content)
      (reads : (readToken credential .managedIdentity r.scopes status content).Leads b u) :
      Attempting s resource r h u

theorem attempting_of_poised (next : (s.attempt resource r).next? w = some (w', u)) :
    Attempting s resource r (h ++ [(w, w')]) u := by
  cases next
  dsimp only
  have seen : (w, w) ∈ h ++ [(w, w)] := List.mem_append_right h (List.mem_singleton_self _)
  split_ifs with cancelled
  · exact .refused seen cancelled
  · cases hl : Request.limitEnd? w.now (some s.probeTimeout) with
    | none => exact .unlimited seen hl
    | some limitEnd => exact .posting

theorem attempting_of_posting (imds : s.endpoint.isImds = true)
    {deadline : Option Instant} {m : String}
    (next : (limited r deadline m (s.ask resource r)).next? w = some (w', u)) :
    Attempting s resource r (h ++ [(w, w')]) u := by
  rw [ask_eq imds] at next
  cases next
  exact .sending ⟨_, List.mem_append_right h (List.mem_singleton_self _), rfl, rfl⟩

theorem attempting_of_head {deadline : Option Instant} {m : String} {delay : Duration} {head : Head}
    {due : Instant} (replies : s.Replies resource h ⟨delay, some head⟩)
    (hl : (s.attempt resource r).Leads h (limited r deadline m (answering r due head))) :
    Attempting s resource r h (limited r deadline m (answering r due head)) := by
  have posted : s.Posted resource h := ⟨_, replies⟩
  cases head with
  | response status body =>
    have hears : s.Hears resource r h deadline status body due := ⟨⟨delay, replies⟩, m, hl⟩
    by_cases pends : body.Pends
    · exact .hearing posted hears pends
    · obtain ⟨content, value, reads⟩ := answering_of_not_pends r status pends due
      rw [reads, limited_readToken] at hl ⊢
      exact .reading posted (List.append_nil h).symm
        (.now ⟨⟨body, hears.arrived, value⟩, hl⟩) (.refl _)
  | unreachable text => exact .unanswered posted rfl
  | timedOut text => exact .unanswered posted rfl

theorem attempting_of_sending {deadline : Option Instant} {m : String} {reply : Reply}
    (replies : s.Replies resource h reply) (hl : (s.attempt resource r).Leads (h ++ [(w, w')]) u)
    (next : (limited r deadline m (.look fun sent => (reply.await sent.now).bind
      (answering r (sent.now + reply.delay)))).next? w = some (w', u)) :
    Attempting s resource r (h ++ [(w, w')]) u := by
  cases next
  by_cases pends : reply.Pends
  · exact .waiting (replies.snoc _) pends
  · obtain ⟨head, value, there⟩ := Delayed.await_of_not_pends pends w.now
    have replies' := replies.snoc (w, w)
    rw [show reply = ⟨reply.delay, some head⟩ by rw [← value]] at replies'
    dsimp only at hl ⊢
    rw [there] at hl ⊢
    exact attempting_of_head replies' hl

theorem attempting_of_waiting {deadline : Option Instant} {m : String}
    {reply : Reply} {sent : Instant} (replies : s.Replies resource h reply) (pends : reply.Pends)
    (hl : (s.attempt resource r).Leads (h ++ [(w, w')]) u)
    (next : (limited r deadline m
      ((reply.await sent).bind (answering r (sent + reply.delay)))).next? w = some (w', u)) :
    Attempting s resource r (h ++ [(w, w')]) u := by
  have replies' := replies.snoc (w, w')
  obtain ⟨-, ⟨head, value, rfl⟩ | ⟨-, c, hc, rfl⟩⟩ := next?_giveUp_await pends next
  · rw [show reply = ⟨reply.delay, some head⟩ by rw [← value]] at replies'
    exact attempting_of_head replies' hl
  · obtain ⟨e, rfl⟩ : ∃ e, c = .error (.timeout credential e) := hc.elim (⟨_, ·⟩) (⟨_, ·⟩)
    exact .leaving ⟨reply, replies'⟩

/-- **An attempt** has come to nothing but what is listed; the induction is on its steps, from the
last one. -/
theorem attempting_of_leads (imds : s.endpoint.isImds = true) :
    ∀ {h : History Surroundings} {u : Task Surroundings (Except Error Token)},
      (s.attempt resource r).Leads h u → Attempting s resource r h u := by
  intro h
  induction h using List.reverseRecOn with
  | nil =>
    intro u hl
    cases hl
    exact .poised
  | append_singleton h p ih =>
    intro u hl
    obtain ⟨w, w'⟩ := p
    obtain ⟨v, hv, last⟩ := hl.split
    have next : v.next? w = some (w', u) := by
      cases last with
      | step next rest =>
        cases rest
        exact next
    cases ih hv with
    | poised => exact attempting_of_poised next
    | refused | unlimited | unanswered => cases next
    | posting => exact attempting_of_posting imds next
    | sending replies => exact attempting_of_sending replies hl next
    | waiting replies pends => exact attempting_of_waiting replies pends hl next
    | hearing posted hears pends =>
      rcases hears.next pends hl next with ⟨content, -, read, rfl⟩ | ⟨-, e, rfl⟩
      · exact .reading (posted.snoc _) (List.append_nil _).symm read (.refl _)
      · exact .leaving (posted.snoc _)
    | leaving posted =>
      cases next
      exact .unanswered (posted.snoc _) rfl
    | reading posted steps read reads =>
      subst steps
      exact .reading (posted.snoc _) (List.append_assoc ..) read (reads.snoc next)

/-! ### What an attempt ends with -/

/-- **Once the body of a response is there** the attempt has judged it, or does so after a look at
the clock. -/
theorem judged_of_read {status : Nat} {content : Except String (List UInt8)}
    (hl : (s.attempt resource r).Leads h u) (read : s.Read resource r h status content) :
    Judged credential status content u ∨
      ∃ k, u = .look k ∧ ∀ m, Judged credential status content (k m) := by
  obtain ⟨a, b, rfl, -, leads⟩ := read
  obtain ⟨v, hv, reads⟩ := hl.split
  rw [hv.unique leads] at reads
  exact judged_of_leads reads

/-- **Once an attempt has been cut off** it ends with a timeout. -/
theorem leaves_of_forsaken {status : Nat} {body : Body} (hl : (s.attempt resource r).Leads h u)
    (forsaken : s.Forsaken resource r h status body) :
    ∃ m, (u = .step id fun _ => .done (.error (.timeout credential m))) ∨
      u = .done (.error (.timeout credential m)) := by
  obtain ⟨a, b, rfl, -, m, leads⟩ := forsaken
  obtain ⟨v, hv, rest⟩ := hl.split
  rw [hv.unique leads] at rest
  cases rest with
  | refl => exact ⟨m, .inl rfl⟩
  | step next rest =>
    cases next
    exact ⟨m, .inr (leads_done rest).2⟩

/-- **What comes of a response that has arrived**: it has been read, or the attempt was cut off
before, or it waits for the body still. -/
theorem Arrived.cases {status : Nat} {body : Body} (arrived : s.Arrived resource r h status body)
    (hl : (s.attempt resource r).Leads h u) :
    (∃ content, body.value = some content ∧ s.Read resource r h status content) ∨
      s.Forsaken resource r h status body ∨
      ∃ deadline due, s.Hears resource r h deadline status body due ∧ body.Pends := by
  obtain ⟨a, b, rfl, deadline, due, hears⟩ := arrived
  by_cases pends : body.Pends
  · cases b with
    | nil =>
      rw [List.append_nil]
      exact .inr (.inr ⟨deadline, due, hears, pends⟩)
    | cons p b =>
      obtain ⟨m, leads⟩ := hears.leads
      rw [List.append_cons] at hl ⊢
      obtain ⟨v, first, -⟩ := hl.split
      obtain ⟨v', here, last⟩ := first.split
      cases here.unique leads
      cases last with
      | step next rest =>
        cases rest
        rcases hears.next pends first next with ⟨content, value, read, -⟩ | ⟨forsaken, -⟩
        · exact .inl ⟨content, value, read.append b⟩
        · exact .inr (.inl (forsaken.append b))
  · obtain ⟨content, value, reads⟩ := answering_of_not_pends r status pends due
    obtain ⟨m, leads⟩ := hears.leads
    rw [reads, limited_readToken] at leads
    exact .inl ⟨content, value, Once.append (.now ⟨⟨body, hears.arrived, value⟩, leads⟩) b⟩

/-- **A response that has been read to the end** stands behind every result of an attempt that
proves one. -/
theorem read_of_succeeded (imds : s.endpoint.isImds = true) {result : Except Error Token}
    (hl : (s.attempt resource r).Leads h (.done result)) (proves : outcome result = .succeeded) :
    ∃ status bytes, s.Read resource r h status (.ok bytes) := by
  generalize hu : Task.done result = u at hl
  cases attempting_of_leads imds hl with
  | poised | unlimited | sending | leaving => cases hu
  | refused =>
    cases hu
    cases proves
  | posting =>
    rw [ask_eq imds] at hu
    cases hu
  | waiting replies pends =>
    rw [Delayed.await_of_pends pends] at hu
    cases hu
  | hearing posted hears pends =>
    rw [answering, Delayed.await_of_pends (pends_rest.mpr pends)] at hu
    cases hu
  | unanswered posted hopeless =>
    cases hu
    rw [outcome, hopeless] at proves
    cases proves
  | @reading a b status content _ posted steps read reads =>
    rcases judged_of_leads reads with judged | ⟨k, he, -⟩
    · subst hu steps
      cases judged with
      | unread => cases proves
      | read there => exact ⟨status, _, (there ▸ read).append b⟩
    · cases hu.trans he

/-- **What an attempt was spent on**: on its message, or it came to nothing before. -/
inductive Spent (s : ManagedIdentitySource) (resource : String) (r : Request)
    (h : History Surroundings) : Prop
  /-- The message was sent. -/
  | sent (posted : s.Posted resource h)
  /-- The request had been cancelled before the attempt began. -/
  | refused {w : World Surroundings} (seen : (w, w) ∈ h) (cancelled : w.cancelled r.cancel = true)
  /-- No clock can show the end of the time limit. -/
  | unlimited {w : World Surroundings} (seen : (w, w) ∈ h)
      (beyond : Request.limitEnd? w.now (some s.probeTimeout) = none)

/-- **An attempt that is over or waits** is spent. -/
theorem spent_of_leads (imds : s.endpoint.isImds = true) (hl : (s.attempt resource r).Leads h u)
    (stops : (∃ x, u = .done x) ∨ u = .crash ∨ ∃ w w', u.drop? w = some w') :
    s.Spent resource r h := by
  cases attempting_of_leads imds hl with
  | poised => rcases stops with ⟨x, hx⟩ | hx | ⟨w, w', hx⟩ <;> cases hx
  | refused seen cancelled => exact .refused seen cancelled
  | unlimited seen beyond => exact .unlimited seen beyond
  | posting =>
    rw [ask_eq imds] at stops
    rcases stops with ⟨x, hx⟩ | hx | ⟨w, w', hx⟩ <;> cases hx
  | sending replies | waiting replies => exact .sent ⟨_, replies⟩
  | hearing posted | leaving posted | unanswered posted | reading posted => exact .sent posted

end ManagedIdentitySource

end TokenChain
