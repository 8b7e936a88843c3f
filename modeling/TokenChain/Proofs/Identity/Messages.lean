import TokenChain.Proofs.Retry.Pacing
import TokenChain.Source.ManagedIdentity

/-! # The messages of a managed identity

How many messages the tasks of the source send: one for a request to the endpoint (`spends_ask`),
one for each attempt (`spends_askWith`), and one for the probe (`spends_probe`). None of them but
the probe touches the gate.

`restrained_getToken`: a call sends no more messages than there may be attempts, and sends another
one only after an attempt that ended with an error that may pass. -/

namespace TokenChain

/-- So many messages are sent. -/
def Wire.Posts (m : Nat) (a b : Wire) : Prop := ∃ new, b.sent = a.sent ++ new ∧ new.length = m

/-- So many messages are sent, whatever else happens. -/
def Surroundings.Posts (m : Nat) (a b : Surroundings) : Prop := a.wire.Posts m b.wire

/-- So many messages are sent, and a gate stays as it is. -/
def Surroundings.PostsBeside (gate m : Nat) (a b : Surroundings) : Prop :=
  b.gates gate = a.gates gate ∧ a.Posts m b

/-- The number of messages sent so far. -/
def Surroundings.postage (s : Surroundings) : Nat := s.wire.sent.length

namespace Wire

theorem posts_free (w : Wire) : w.Posts 0 w := ⟨[], (List.append_nil _).symm, rfl⟩

theorem Posts.trans {a b c : Wire} {m n : Nat} (h : a.Posts m b) (h' : b.Posts n c) :
    a.Posts (m + n) c := by
  obtain ⟨new, hb, rfl⟩ := h
  obtain ⟨new', hc, rfl⟩ := h'
  exact ⟨new ++ new', by rw [hc, hb, List.append_assoc], List.length_append⟩

theorem posts_record (m : Message) (w : Wire) : w.Posts 1 (w.record m) := ⟨[m], rfl, rfl⟩

theorem spends_receive (reply : Reply) : (receive reply).Spends Posts 0 := fun _ =>
  (Task.spends_await posts_free reply _ 0).bind_free fun head =>
    Task.spends_await posts_free head.rest _ 0

theorem spends_exchange (m : Message) : (exchange m).Spends Posts 1 := by
  rw [exchange]
  split
  · exact ⟨1, Nat.le_refl 1, posts_record m, fun w => spends_receive _⟩
  · trivial

end Wire

namespace Surroundings

theorem posts_free (s : Surroundings) : s.Posts 0 s := Wire.posts_free s.wire

theorem postsBeside_free (gate : Nat) (s : Surroundings) : s.PostsBeside gate 0 s :=
  ⟨rfl, posts_free s⟩

theorem Posts.charge {m : Nat} {a b : Surroundings} (h : a.Posts m b) :
    b.postage = a.postage + m := by
  obtain ⟨new, hb, rfl⟩ := h
  rw [postage, hb, List.length_append]
  rfl

theorem Posts.eq {a b : Surroundings} (h : a.Posts 0 b) : b.wire.sent = a.wire.sent := by
  obtain ⟨new, hb, hn⟩ := h
  rw [hb, List.length_eq_zero_iff.mp hn, List.append_nil]

theorem posts_setGate (gate : Nat) (f : ProbeState → ProbeState) (s : Surroundings) :
    s.Posts 0 (s.setGate gate f) :=
  Wire.posts_free s.wire

theorem spends_onGate {α : Type} (gate : Nat) (t : Task ProbeState α) :
    (onGate gate t).Spends Posts 0 :=
  Task.spends_zoom (fun {m _ s} hm => by
    subst hm
    exact posts_free s) (Task.spends_any t)

theorem spends_onWire {α : Type} (gate : Nat) {t : Task Wire α} {n : Nat}
    (h : t.Spends Wire.Posts n) : (onWire t).Spends (PostsBeside gate) n :=
  Task.spends_zoom (fun hw => ⟨rfl, hw⟩) h

theorem onWire_await {α : Type} (d : Delayed α) (start : Instant) :
    onWire (d.await start) = d.await start := by
  obtain ⟨delay, value⟩ := d
  cases value with
  | none => rfl
  | some a =>
    unfold Delayed.await
    dsimp only
    split <;> rfl

theorem onWire_receive_bind {β : Type} (reply : Reply) (g : Outcome → Task Surroundings β) :
    (onWire (Wire.receive reply)).bind g = .look fun sent => (reply.await sent.now).bind fun head =>
      (head.rest.await (sent.now + reply.delay)).bind g := by
  refine congrArg Task.look (funext fun sent => ?_)
  change ((Task.bind _ _).zoom _ _).bind g = _
  rw [Task.zoom_bind, Task.bind_assoc]
  change (onWire _).bind (fun head : Head => (onWire (head.rest.await _)).bind g) = _
  simp only [onWire_await]

end Surroundings

open Surroundings

theorem Endpoint.spends_readToken {σ : Type} {R : Nat → σ → σ → Prop}
    (credential : String) (family : Family) (scopes : List String) (status : Nat)
    (body : Except String (List UInt8)) :
    (readToken credential family scopes status body : Task σ (Except Error Token)).Spends R 0 := by
  cases body with
  | error e => trivial
  | ok bytes =>
    unfold readToken
    dsimp only
    split
    · split
      · trivial
      · intro m
        dsimp only
        split
        · trivial
        · trivial
    · trivial

theorem Endpoint.spends_readOutcome {σ : Type} {R : Nat → σ → σ → Prop}
    (credential : String) (family : Family) (scopes : List String) (outcome : Outcome) :
    (readOutcome credential family scopes outcome : Task σ (Except Error Token)).Spends R 0 := by
  cases outcome with
  | response status body => exact spends_readToken ..
  | unreachable text => trivial
  | timedOut text => trivial

theorem Endpoint.spends_call (gate : Nat) (credential : String) (family : Family)
    (scopes : List String) (m : Message) :
    (call credential family scopes m).Spends (PostsBeside gate) 1 :=
  (spends_onWire gate (Wire.spends_exchange m)).bind_free fun _ => spends_readOutcome ..

theorem Task.Spends.of_beside {α : Type} {gate : Nat} {t : Task Surroundings α} {n : Nat}
    (h : t.Spends (PostsBeside gate) n) : t.Spends Posts n := h.weaken fun hp => hp.2

/-- The end of a call that began at some moment: the report of its outcome. -/
def Source.tell {σ : Type} (credential : String) (start : Moment) (x : Except Error Token) :
    Task σ (Except Error Token) :=
  .look fun stop => .note (report credential (stop.now.since start.now) x) (.done x)

theorem Source.spends_tell {σ : Type} {R : Nat → σ → σ → Prop}
    (credential : String) (start : Moment) (x : Except Error Token) (n : Nat) :
    (tell credential start x : Task σ (Except Error Token)).Spends R n :=
  fun _ => trivial

namespace ManagedIdentitySource

open TokenChain.Task

variable {s : ManagedIdentitySource} {r : Request}

theorem spends_ask (s : ManagedIdentitySource) (resource : String) (r : Request) :
    (s.ask resource r).Spends (PostsBeside s.gate) 1 := Endpoint.spends_call ..

theorem spends_askWith (s : ManagedIdentitySource) (p : RetryPolicy)
    (resource : String) (r : Request) :
    (s.askWith p resource r).Spends (PostsBeside s.gate) (p.maxRetries.toNat + 1) := by
  have all : (p.executeFrom r credential (fun _ => .done ())
      (fun _ => s.ask resource r) p.maxRetries.toNat 0).Spends (PostsBeside s.gate)
        (1 * (p.maxRetries.toNat + 1)) := by
    refine Spends.executeFrom (postsBeside_free s.gate) (fun _ => ?_)
      (fun _ => s.spends_ask resource r) _ _
    trivial
  rwa [Nat.one_mul] at all

theorem spends_probing (s : ManagedIdentitySource) (resource : String) (r : Request) :
    (r.within credential (some s.probeTimeout) (s.ask resource r)).Spends (PostsBeside s.gate) 1 :=
  (s.spends_ask resource r).within r _ _

theorem spends_probe (s : ManagedIdentitySource) (resource : String) (r : Request) :
    (s.probe resource r).Spends Posts 1 :=
  ((s.spends_probing resource r).of_beside.onLoss (fun h h' => h.trans h')
    (posts_setGate _ _)).bind_free fun _ => ⟨0, Nat.le_refl 0, posts_setGate _ _, fun _ => trivial⟩

/-! ### The pace of a call -/

/-- The steps of an attempt at the endpoint that ended with an error that may pass. -/
def FailedAttempt (s : ManagedIdentitySource) (r : Request) (h : History Surroundings) : Prop :=
  ∃ resource, r.resource credential = .ok resource ∧
    RetryPolicy.FailedAttempt s.retry r credential (fun _ => .done ()) (fun _ => s.ask resource r) h

/-- The steps of a call send no more messages than there may be attempts, and keep their pace. -/
structure Restrained (s : ManagedIdentitySource) (r : Request) (h : History Surroundings) :
    Prop where
  few : h.spent postage ≤ s.retry.maxRetries.toNat + 1
  paced : Paced postage (s.FailedAttempt r) h

theorem restrained_of_spent_le {h : History Surroundings} (hs : h.spent postage ≤ 1) :
    s.Restrained r h :=
  ⟨Nat.le_trans hs (Nat.le_add_left 1 _), paced_of_spent_le hs⟩

theorem Restrained.of_free {a b c : History Surroundings} (h : s.Restrained r b)
    (ha : a.spent postage = 0) (hc : c.spent postage = 0) : s.Restrained r (a ++ (b ++ c)) := by
  refine ⟨?_, h.paced.of_free ha hc⟩
  rw [History.spent_append, History.spent_append, ha, hc]
  simpa using h.few

theorem spent_le_of_leads {α : Type} {t u : Task Surroundings α} {n : Nat}
    {h : History Surroundings} (ht : t.Spends Posts n) (hl : t.Leads h u) : h.spent postage ≤ n :=
  ht.spent_le posts_free Posts.charge hl

theorem restrained_askWith {resource : String} {h : History Surroundings}
    {u : Task Surroundings (Except Error Token)} (hr : r.resource credential = .ok resource)
    (hl : (s.askWith s.retry resource r).Leads h u) : s.Restrained r h := by
  refine ⟨spent_le_of_leads (s.spends_askWith s.retry resource r).of_beside hl,
    fun h₁ w w' h₂ e before after => ?_⟩
  have paced : Paced postage
      (RetryPolicy.FailedAttempt s.retry r credential (fun _ => .done ())
        (fun _ => s.ask resource r)) h := by
    refine RetryPolicy.paced_executeFrom posts_free Posts.charge (fun _ => ?_)
      (fun _ => (s.spends_ask resource r).of_beside) hl
    trivial
  obtain ⟨a, b, c, rfl, failed, hc⟩ := paced h₁ w w' h₂ e before after
  exact ⟨a, b, c, rfl, ⟨resource, hr, failed⟩, hc⟩

/-- What a call does with its admission. -/
def proceed (s : ManagedIdentitySource) (resource : String) (r : Request) :
    Except Error Admission → Task Surroundings (Except Error Token)
  | .error e => .done (.error e)
  | .ok (.closed reason) => .done (.error (refusal reason))
  | .ok .probe => s.probe resource r
  | .ok .opened => s.askWith (s.retry.behind .opened) resource r

theorem fetchImds_eq (s : ManagedIdentitySource) (resource : String) (r : Request) :
    s.fetchImds resource r = (onGate s.gate (ProbeState.consult r credential)).bind
      (s.proceed resource r) := rfl

theorem restrained_fetchImds {resource : String} {h : History Surroundings}
    {u : Task Surroundings (Except Error Token)} (hr : r.resource credential = .ok resource)
    (hl : (s.fetchImds resource r).Leads h u) : s.Restrained r h := by
  have quiet :
      ∀ {b v}, (onGate s.gate (ProbeState.consult r credential)).Leads b v → b.spent postage = 0 :=
    fun hb => Nat.le_zero.mp (spent_le_of_leads (spends_onGate ..) hb)
  rw [fetchImds_eq] at hl
  rcases hl.of_bind with ⟨v, hv, -⟩ | ⟨x, a, b, rfl, ha, hb⟩
  · exact restrained_of_spent_le (by rw [quiet hv]; exact Nat.zero_le 1)
  · have after : s.Restrained r b := by
      rcases x with e | (- | - | reason)
      · rw [(leads_done hb).1]
        exact restrained_of_spent_le (Nat.zero_le 1)
      · exact restrained_of_spent_le (spent_le_of_leads (s.spends_probe resource r) hb)
      · exact restrained_askWith hr hb
      · rw [(leads_done hb).1]
        exact restrained_of_spent_le (Nat.zero_le 1)
    have := after.of_free (quiet ha) (c := []) rfl
    rwa [List.append_nil] at this

theorem restrained_fetch {h : History Surroundings} {u : Task Surroundings (Except Error Token)}
    (hl : (s.fetch r).Leads h u) : s.Restrained r h := by
  rw [fetch] at hl
  split at hl
  · rw [(leads_done hl).1]
    exact restrained_of_spent_le (Nat.zero_le 1)
  next resource hr =>
    split at hl
    · exact restrained_fetchImds hr hl
    · exact restrained_askWith hr hl

/-- **A call** sends no more messages than there may be attempts, and sends another one only after
an attempt that ended with an error that may pass. -/
theorem restrained_getToken {h : History Surroundings} {u : Task Surroundings (Except Error Token)}
    (hl : (s.source.getToken r).Leads h u) : s.Restrained r h := by
  cases hl with
  | refl => exact restrained_of_spent_le (Nat.zero_le 1)
  | @step _ _ _ w _ h next rest =>
    cases next
    have looked : History.spent postage [(w, w)] = 0 := by simp [History.spent]
    rcases rest.of_bind with ⟨v, hv, -⟩ | ⟨x, b, c, rfl, hb, hc⟩
    · have := (restrained_fetch hv).of_free looked (c := []) rfl
      rwa [List.append_nil] at this
    · have told := Nat.le_zero.mp (spent_le_of_leads (Source.spends_tell _ _ _ 0) hc)
      exact (restrained_fetch hb).of_free looked told

end ManagedIdentitySource

end TokenChain
