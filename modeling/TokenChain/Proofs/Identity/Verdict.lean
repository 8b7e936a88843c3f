import TokenChain.Proofs.Identity.Attempt
import TokenChain.Proofs.Identity.Neighbours
import TokenChain.Proofs.Identity.Restraint

/-! # The verdict of a probe

Any number of calls of one managed identity, in any order of their steps, each of which may be
dropped where it waits, while anything may happen around them but to the gate. `Course` is what
holds of a call on its way, with the steps that it has taken since it claimed the probe (`Since`);
`Transit` is what its next step may do to the gate.

`verdict_of_reaches` says how the verdict follows from what has come back. A response whose body has
been read opens the gate, whatever its status and whatever its body says, unless its expiry lies
beyond the calendar. A response of which only the head has arrived decides nothing: the gate closes
if the body cannot be read, if the attempt is cut off while it waits for the body, and if the call
is dropped then. -/

namespace TokenChain

open TokenChain.Task TokenChain.Surroundings TokenChain.ProbeState TokenChain.Endpoint

namespace ManagedIdentitySource

variable {s : ManagedIdentitySource} {r : Request} {resource : String}
  {h h' h₁ : History Surroundings}
  {t u : Task Surroundings (Except Error Token)} {w w' : World Surroundings}

/-! ### The course of a call -/

/-- These are the last steps of a call, since the one with which it claimed the probe. -/
def Since (s : ManagedIdentitySource) (h h₁ : History Surroundings) : Prop :=
  ∃ h₀ p, h = h₀ ++ p :: h₁ ∧ s.gateIn p.1.state = untested ∧ s.gateIn p.2.state = inFlight

theorem Since.claimed (since : s.Since h h₁) : s.Claimed h := by
  obtain ⟨h₀, p, rfl, claims⟩ := since
  exact ⟨p, by simp, claims⟩

theorem Since.snoc (since : s.Since h h₁) (p : World Surroundings × World Surroundings) :
    s.Since (h ++ [p]) (h₁ ++ [p]) := by
  obtain ⟨h₀, q, rfl, claims⟩ := since
  exact ⟨h₀, q, by simp, claims⟩

/-- The steps of a call with which it makes the probe: those since it claimed it, up to where `u` is
left of its attempt. -/
structure Probes (s : ManagedIdentitySource) (r : Request) (h : History Surroundings)
    (resource : String) (h₁ : History Surroundings) (u : Task Surroundings (Except Error Token)) :
    Prop where
  imds : s.endpoint.isImds = true
  valid : r.resource credential = .ok resource
  since : s.Since h h₁
  leads : (s.attempt resource r).Leads h₁ u

/-- The end of a call, which tells what has come of it. -/
inductive Telling (start : Moment) (x : Except Error Token) :
    Task Surroundings (Except Error Token) → Prop
  | measuring : Telling start x (Source.tell credential start x)
  | noting (n : Note) : Telling start x (.note n (.done x))
  | told : Telling start x (.done x)

theorem Telling.next {start : Moment} {x : Except Error Token} (telling : Telling start x t)
    (next : t.next? w = some (w', u)) : w'.state = w.state ∧ Telling start x u := by
  cases telling with
  | measuring =>
    cases next
    exact ⟨rfl, .noting _⟩
  | noting n =>
    cases next
    exact ⟨rfl, .told⟩
  | told => cases next

theorem Telling.drop? {start : Moment} {x : Except Error Token} (telling : Telling start x t)
    (w : World Surroundings) : t.drop? w = none := by
  cases telling <;> rfl

theorem Telling.run {start : Moment} {x : Except Error Token} (telling : Telling start x t)
    (w : World Surroundings) : ∃ w', t.run w = (w', .done x) ∧ w'.state = w.state := by
  cases telling <;> exact ⟨_, rfl, rfl⟩

/-- **Where a call is with the probe**, by the state of the gate and the steps that it has taken. -/
inductive Course (s : ManagedIdentitySource) (r : Request) (g : ProbeState)
    (h : History Surroundings) : Task Surroundings (Except Error Token) → Prop
  /-- It has not begun. -/
  | starting (free : ¬ s.Claimed h) : Course s r g h (s.source.getToken r)
  /-- It asks at the gate. -/
  | asking {start : Moment} {resource : String} {t : Task ProbeState (Except Error Admission)}
      (free : ¬ s.Claimed h) (imds : s.endpoint.isImds = true)
      (valid : r.resource credential = .ok resource) (asks : Asks r credential g t) :
      Course s r g h (((onGate s.gate t).bind (s.proceed resource r)).bind
        (Source.tell credential start))
  /-- It makes the probe. -/
  | probing {start : Moment} {resource : String} {u : Task Surroundings (Except Error Token)}
      {h₁ : History Surroundings} (probes : s.Probes r h resource h₁ u) (flying : g = inFlight) :
      Course s r g h ((s.probeWith u).bind (Source.tell credential start))
  /-- It has reported the outcome of its attempt at the gate. -/
  | settled {start : Moment} {resource : String} {result x : Except Error Token}
      {t : Task Surroundings (Except Error Token)} {h₁ h₂ : History Surroundings}
      (imds : s.endpoint.isImds = true) (valid : r.resource credential = .ok resource)
      (since : s.Since h (h₁ ++ h₂)) (leads : (s.attempt resource r).Leads h₁ (.done result))
      (gate : g = outcome result) (telling : Telling start x t) : Course s r g h t
  /-- It broke down during its attempt. -/
  | broken {resource : String} {h₁ h₂ : History Surroundings}
      (valid : r.resource credential = .ok resource) (since : s.Since h (h₁ ++ h₂))
      (leads : (s.attempt resource r).Leads h₁ .crash) (gate : g = abandoned) :
      Course s r g h .crash
  /-- It has nothing to do with the probe. -/
  | beside {t : Task Surroundings (Except Error Token)} (free : ¬ s.Claimed h)
      (leaves : LeavesGate s.gate t) : Course s r g h t

/-- **What a step may do to the gate**, by the steps that the call has taken before. -/
inductive Transit (s : ManagedIdentitySource) (h : History Surroundings) (a b : Surroundings) : Prop
  | stay (same : s.gateIn b = s.gateIn a)
  | claim (before : s.gateIn a = untested) (after : s.gateIn b = inFlight)
  | settle (claimed : s.Claimed h) (before : s.gateIn a = inFlight)
      (after : (s.gateIn b).isSettled = true)

variable {a b : Surroundings}

theorem Transit.onward (transit : Transit s h a b) : Onward (s.gateIn a) (s.gateIn b) := by
  cases transit with
  | stay same =>
    rw [same]
    exact .stay _
  | claim before after =>
    rw [before, after]
    exact .claim
  | settle _ before after =>
    rw [before]
    exact .settle after

theorem Course.tested {g : ProbeState} (course : Course s r g h t) (claimed : s.Claimed h) :
    g ≠ untested := by
  cases course with
  | starting free | asking free | beside free => exact absurd claimed free
  | probing _ flying =>
    rw [flying]
    exact nofun
  | settled _ _ _ _ gate =>
    rw [gate]
    exact isSettled.ne_untested (isSettled_outcome _)
  | broken _ _ _ gate =>
    rw [gate]
    exact nofun

/-- **A step of another call** leaves a call on its course. -/
theorem Course.beside_transit (course : Course s r (s.gateIn a) h t) (transit : Transit s h' a b)
    (apart : ¬ (s.Claimed h' ∧ s.Claimed h)) : Course s r (s.gateIn b) h t := by
  have settled : (s.gateIn a).isSettled = true → s.gateIn b = s.gateIn a :=
    transit.onward.eq_of_isSettled
  cases course with
  | starting free => exact .starting free
  | asking free imds valid asks => exact .asking free imds valid (asks.onward transit.onward)
  | probing probes flying =>
    refine .probing probes ?_
    cases transit with
    | stay same => exact same.trans flying
    | claim before _ =>
      rw [flying] at before
      cases before
    | settle claimed _ _ => exact absurd ⟨claimed, probes.since.claimed⟩ apart
  | settled imds valid since leads gate telling =>
    have stays := settled (by rw [gate]; exact isSettled_outcome _)
    exact .settled imds valid since leads (stays.trans gate) telling
  | broken valid since leads gate =>
    exact .broken valid since leads ((settled (by rw [gate]; rfl)).trans gate)
  | beside free leaves => exact .beside free leaves

theorem not_claimed_snoc (free : ¬ s.Claimed h) (same : s.gateIn w'.state = s.gateIn w.state) :
    ¬ s.Claimed (h ++ [(w, w')]) := by
  intro claimed
  rcases of_claimed_snoc claimed with old | ⟨before, after⟩
  · exact free old
  · rw [same, before] at after
    cases after

theorem leavesGate_tell (start : Moment) (x : Except Error Token) :
    LeavesGate s.gate (Source.tell credential start x) :=
  Source.spends_tell _ _ _ 0

theorem leavesGate_attempt (s : ManagedIdentitySource) (resource : String) (r : Request) :
    LeavesGate s.gate (s.attempt resource r) :=
  leavesGate_of_spends (s.spends_probing resource r)

/-- **A call takes a step**: it stays on its course, and what it does to the gate is a transit. -/
theorem Course.next (course : Course s r (s.gateIn w.state) h t) (next : t.next? w = some (w', u)) :
    Course s r (s.gateIn w'.state) (h ++ [(w, w')]) u ∧ Transit s h w.state w'.state := by
  cases course with
  | starting free =>
    cases next
    have free' := not_claimed_snoc (w := w) free rfl
    refine ⟨?_, .stay rfl⟩
    show Course s r _ _ ((s.fetch r).bind (Source.tell credential w.toMoment))
    rw [fetch]
    split
    · exact .beside free' (leavesGate_tell _ _)
    next resource valid =>
      split
      next url imds =>
        rw [fetchImds_eq]
        exact .asking free' (by rw [imds]; rfl) valid .arriving
      · refine .beside free'
          (leavesGate_of_spends ((s.spends_askWith s.retry resource r).bind_free fun x => ?_))
        exact Source.spends_tell _ _ x 0
  | @asking start resource _ free imds valid asks =>
    obtain ⟨-, ⟨before, after, rfl⟩ | ⟨same, later⟩⟩ := next?_asking asks next
    · have since : s.Since (h ++ [(w, w')]) [] := ⟨h, (w, w'), rfl, before, after⟩
      exact ⟨.probing ⟨imds, valid, since, .refl _⟩ after, .claim before after⟩
    · have free' := not_claimed_snoc free same
      refine ⟨?_, .stay same⟩
      rcases later with ⟨t', asks', rfl⟩ | ⟨-, rfl⟩ | ⟨x, rfl⟩
      · exact .asking free' imds valid (by rw [same]; exact asks')
      · refine .beside free'
          (leavesGate_of_spends ((s.spends_askWith _ resource r).bind_free fun x => ?_))
        exact Source.spends_tell _ _ x 0
      · exact .beside free' (leavesGate_tell _ _)
  | @probing start resource _ h₁ probes flying =>
    obtain ⟨imds, valid, since, leads⟩ := probes
    have settles : ∀ outcome, s.gateIn (w.state.setGate s.gate (.settle outcome)) = outcome :=
        fun outcome => by
      rw [gateIn, gates_setGate, show w.state.gates s.gate = inFlight from flying]
      rfl
    rcases next?_probeWith next with ⟨result, rfl, rfl, rfl⟩ | ⟨rfl, rfl, rfl⟩ | ⟨u₁, h₁, rfl⟩
    · refine ⟨.settled imds valid (since.snoc _) leads (settles _) .measuring,
        .settle since.claimed flying ?_⟩
      rw [settles]
      exact isSettled_outcome result
    · refine ⟨.broken valid (since.snoc _) leads (settles _), .settle since.claimed flying ?_⟩
      rw [settles]
      rfl
    · have same := (((leavesGate_attempt s resource r).leads leads).next h₁).1
      exact ⟨.probing ⟨imds, valid, since.snoc _, leads.snoc h₁⟩ (Eq.trans same flying), .stay same⟩
  | settled imds valid since leads gate telling =>
    obtain ⟨same, telling'⟩ := telling.next next
    have same' : s.gateIn w'.state = s.gateIn w.state := by rw [same]
    have since' := since.snoc (w, w')
    rw [List.append_assoc] at since'
    exact ⟨.settled imds valid since' leads (same'.trans gate) telling', .stay same'⟩
  | broken => cases next
  | beside free leaves =>
    obtain ⟨same, leaves'⟩ := leaves.next next
    exact ⟨.beside (not_claimed_snoc free same) leaves', .stay same⟩

theorem settles_abandoned {w₁ : World Surroundings} (flying : s.gateIn w₁.state = inFlight) :
    s.gateIn (w₁.state.setGate s.gate (.settle .abandoned)) = abandoned := by
  rw [gateIn, gates_setGate, show w₁.state.gates s.gate = inFlight from flying]
  rfl

/-- **A call that is dropped** does no more to the gate than a step. -/
theorem Course.drop (course : Course s r (s.gateIn w.state) h t) (dropped : t.drop? w = some w') :
    Transit s h w.state w'.state := by
  cases course with
  | starting => cases dropped
  | asking free _ valid asks =>
    have ne := onGate_ne_done (i := s.gate) asks.ne_done
    have d := drop?_bind_of_ne ne (drop?_bind_of_ne (bind_ne_done ne) dropped)
    obtain ⟨v, hv, gate, -⟩ := drop?_onGate d
    exact .stay (gate.trans (asks.drop hv))
  | @probing start resource _ h₁ probes flying =>
    obtain ⟨w₁, d, rfl⟩ := drop?_probeWith dropped
    have same : s.gateIn w₁.state = s.gateIn w.state :=
      ((leavesGate_attempt s resource r).leads probes.leads).drop d
    refine .settle probes.since.claimed flying ?_
    rw [settles_abandoned (same.trans flying)]
    rfl
  | settled _ _ _ _ _ telling =>
    rw [telling.drop?] at dropped
    cases dropped
  | broken => cases dropped
  | beside free leaves => exact .stay (leaves.drop dropped)

/-! ### The move that closes the gate -/

/-- A step that closes the gate reports a failure of the attempt, or that it broke down. -/
theorem Course.closes_next {reason : String} (course : Course s r (s.gateIn w.state) h t)
    (next : t.next? w = some (w', u)) (flying : s.gateIn w.state = inFlight)
    (closed : s.gateIn w'.state = .failed reason) :
    ∃ resource h₁ u₀, s.Probes r h resource h₁ u₀ ∧
      ((∃ result, u₀ = .done result ∧ outcome result = .failed reason) ∨ u₀ = .crash) := by
  have changes : s.gateIn w'.state ≠ s.gateIn w.state := by
    rw [flying, closed]
    exact nofun
  cases course with
  | starting =>
    cases next
    exact absurd rfl changes
  | asking free _ valid asks =>
    obtain ⟨-, ⟨before, -, -⟩ | ⟨same, -⟩⟩ := next?_asking asks next
    · rw [flying] at before
      cases before
    · exact absurd same changes
  | @probing start resource _ h₁ probes =>
    refine ⟨resource, h₁, _, probes, ?_⟩
    rcases next?_probeWith next with ⟨result, rfl, rfl, rfl⟩ | ⟨rfl, -, -⟩ | ⟨u₁, hu, rfl⟩
    · refine .inl ⟨result, rfl, ?_⟩
      rwa [gateIn, gates_setGate, show w.state.gates s.gate = inFlight from flying] at closed
    · exact .inr rfl
    · exact absurd (((leavesGate_attempt s resource r).leads probes.leads).next hu).1 changes
  | settled _ _ _ _ _ telling => exact absurd (by rw [(telling.next next).1]) changes
  | broken => cases next
  | beside free leaves => exact absurd (leaves.next next).1 changes

/-- A call that is dropped closes the gate only if its attempt waits. -/
theorem Course.closes_drop {reason : String} (course : Course s r (s.gateIn w.state) h t)
    (dropped : t.drop? w = some w') (flying : s.gateIn w.state = inFlight)
    (closed : s.gateIn w'.state = .failed reason) :
    ∃ resource h₁ u₀ w₁, s.Probes r h resource h₁ u₀ ∧ u₀.drop? w = some w₁ := by
  have changes : s.gateIn w'.state ≠ s.gateIn w.state := by
    rw [flying, closed]
    exact nofun
  cases course with
  | starting => cases dropped
  | asking free _ valid asks =>
    have ne := onGate_ne_done (i := s.gate) asks.ne_done
    have d := drop?_bind_of_ne ne (drop?_bind_of_ne (bind_ne_done ne) dropped)
    obtain ⟨v, hv, gate, -⟩ := drop?_onGate d
    exact absurd (gate.trans (asks.drop hv)) changes
  | @probing start resource u₀ h₁ probes =>
    obtain ⟨w₁, d, -⟩ := drop?_probeWith dropped
    exact ⟨resource, h₁, u₀, w₁, probes, d⟩
  | settled _ _ _ _ _ telling =>
    rw [telling.drop?] at dropped
    cases dropped
  | broken => cases dropped
  | beside free leaves => exact absurd (leaves.drop dropped) changes

/-! ### From the response to the verdict -/

/-- A call that makes the probe reports what its attempt ends with. -/
theorem run_probeWith (start : Moment) {u : Task Surroundings (Except Error Token)}
    {w w₁ : World Surroundings} {result : Except Error Token} (ran : u.run w = (w₁, .done result))
    (flying : s.gateIn w₁.state = inFlight) :
    ∃ w', ((s.probeWith u).bind (Source.tell credential start)).run w =
      (w', .done (probeResult result)) ∧ s.gateIn w'.state = outcome result := by
  have lossless : (u.onLoss (setGate s.gate (.settle .abandoned))).run w = (w₁, .done result) := by
    rw [run_onLoss, ran]
    rfl
  rw [run_bind, probeWith, run_bind, lossless]
  refine ⟨_, rfl, ?_⟩
  show s.gateIn (w₁.state.setGate s.gate (.settle (outcome result))) = outcome result
  rw [gateIn, gates_setGate, show w₁.state.gates s.gate = inFlight from flying]
  rfl

theorem run_probeWith_of_crashed (start : Moment) {u : Task Surroundings (Except Error Token)}
    {w w₁ : World Surroundings} (ran : u.run w = (w₁, .crashed))
    (flying : s.gateIn w₁.state = inFlight) :
    ∃ w', ((s.probeWith u).bind (Source.tell credential start)).run w = (w', .crashed) ∧
      s.gateIn w'.state = abandoned := by
  have lost : (u.onLoss (setGate s.gate (.settle .abandoned))).run w =
      ({ w₁ with state := w₁.state.setGate s.gate (.settle .abandoned) }, .crashed) := by
    rw [run_onLoss, ran]
    rfl
  rw [run_bind, probeWith, run_bind, lost]
  exact ⟨_, rfl, settles_abandoned flying⟩

theorem run_of_judged {status : Nat} {body : Except String (List UInt8)}
    {u : Task Surroundings (Except Error Token)}
    (judged : Judged credential status body u ∨ ∃ k, u = .look k ∧
      ∀ m, Judged credential status body (k m)) (w : World Surroundings) :
    (∃ result, u.run w = (w, .done result) ∧
        Judged credential status body (.done result : Task Surroundings (Except Error Token))) ∨
      (u.run w = (w, .crashed) ∧
        Judged credential status body (.crash : Task Surroundings (Except Error Token))) := by
  obtain ⟨v, judged, ran⟩ : ∃ v, Judged credential status body v ∧ u.run w = v.run w := by
    rcases judged with judged | ⟨k, rfl, judged⟩
    · exact ⟨u, judged, rfl⟩
    · exact ⟨k w.toMoment, judged w.toMoment, rfl⟩
  rw [ran]
  rcases judged.over with ⟨result, rfl⟩ | rfl
  · exact .inl ⟨result, rfl, judged⟩
  · exact .inr ⟨rfl, judged⟩

/-- An attempt that is cut off while it waits for a body closes the gate. -/
theorem run_of_cutOff {deadline : Option Instant} {m : String} {status : Nat}
    {body : Body} {due : Instant} (pends : body.Pends)
    (cut : body.CutOff due r.cancel deadline w.toMoment) :
    ∃ e, (limited r deadline m (answering r due (.response status body))).run w =
      (w, .done (.error (.timeout credential e))) := by
  obtain ⟨c, rfl | rfl, ran⟩ :=
    run_giveUp_await (pends_rest.mpr pends) (cut.of_due?_eq (due?_rest status body due))
  · exact ⟨_, ran⟩
  · exact ⟨_, ran⟩

/-- **What has come back decides**, for a call and the steps that it has taken since it claimed the
probe. -/
structure Verdict (s : ManagedIdentitySource) (resource : String) (r : Request)
    (w : World Surroundings) (h₁ : History Surroundings)
    (t : Task Surroundings (Except Error Token)) : Prop where
  /-- A response that has arrived has been read, or the attempt was cut off before, or its body is
  waited for still. -/
  arrives : ∀ {status : Nat} {body : Body}, s.Arrived resource r h₁ status body →
    (∃ content, body.value = some content ∧ s.Read resource r h₁ status content) ∨
      s.Forsaken resource r h₁ status body ∨
      ∃ deadline due, s.Hears resource r h₁ deadline status body due ∧ body.Pends
  /-- A response whose body has been read opens the gate, whatever its status and its body say; the
  call does not wait any more. Only if the expiry lies beyond the calendar it breaks down instead,
  and the probe counts as abandoned. -/
  opens : ∀ {status : Nat} {bytes : List UInt8}, s.Read resource r h₁ status (.ok bytes) →
    (∃ w' v, t.run w = (w', .done v) ∧ s.gateIn w'.state = succeeded) ∨
      ∃ w' now, t.run w = (w', .crashed) ∧ s.gateIn w'.state = abandoned ∧ Beyond status bytes now
  /-- A response whose body cannot be read closes it. -/
  shuts : ∀ {status : Nat} {e : String}, s.Read resource r h₁ status (.error e) →
    ∃ w' v reason, t.run w = (w', .done v) ∧ s.gateIn w'.state = .failed reason
  /-- So does one whose body was not there in time: before the deadline, the limit and a
  cancellation. -/
  forsakes : ∀ {status : Nat} {body : Body}, s.Forsaken resource r h₁ status body →
    ∃ w' v reason, t.run w = (w', .done v) ∧ s.gateIn w'.state = .failed reason
  /-- As long as the body is waited for nothing is decided; to be cut off or dropped then closes the
  gate. -/
  hears : ∀ {deadline : Option Instant} {status : Nat} {body : Body} {due : Instant},
    s.Hears resource r h₁ deadline status body due → body.Pends →
      s.gateIn w.state = inFlight ∧
      (body.CutOff due r.cancel deadline w.toMoment →
        ∃ w' v reason, t.run w = (w', .done v) ∧ s.gateIn w'.state = .failed reason) ∧
      ∃ w', t.drop? w = some w' ∧ s.gateIn w'.state = abandoned
  /-- An open gate has seen a response whose body could be read. -/
  opened : s.gateIn w.state = succeeded → ∃ status bytes, s.Read resource r h₁ status (.ok bytes)

theorem outcome_of_judged {status : Nat} {bytes : List UInt8} {result : Except Error Token}
    (judged : Judged credential status (.ok bytes)
      (.done result : Task Surroundings (Except Error Token))) :
    outcome result = succeeded := by
  cases judged with
  | unread failed => cases failed
  | read _ proves => exact proves

theorem outcome_of_unread {status : Nat} {e : String} {result : Except Error Token}
    (judged : Judged credential status (.error e)
      (.done result : Task Surroundings (Except Error Token))) :
    ∃ reason, outcome result = .failed reason := by
  cases judged with
  | unread => exact ⟨_, rfl⟩
  | read arrived => cases arrived

theorem beyond_of_judged {status : Nat} {bytes : List UInt8}
    (judged : Judged credential status (.ok bytes)
      (.crash : Task Surroundings (Except Error Token))) :
    ∃ now, Beyond status bytes now := by
  cases judged with
  | beyond arrived beyond =>
    cases arrived
    exact ⟨_, beyond⟩

theorem not_judged_crash {status : Nat} {e : String} :
    ¬ Judged credential status (.error e) (.crash : Task Surroundings (Except Error Token)) := by
  intro judged
  cases judged with
  | beyond arrived => cases arrived

theorem verdict_of_probing {start : Moment} (leads : (s.attempt resource r).Leads h₁ u)
    (flying : s.gateIn w.state = inFlight) :
    s.Verdict resource r w h₁ ((s.probeWith u).bind (Source.tell credential start)) where
  arrives arrived := arrived.cases leads
  opens read := by
    rcases run_of_judged (judged_of_read leads read) w with ⟨result, ran, judged⟩ | ⟨ran, judged⟩
    · obtain ⟨w', told, gate⟩ := run_probeWith start ran flying
      exact .inl ⟨w', _, told, gate.trans (outcome_of_judged judged)⟩
    · obtain ⟨w', lost, gate⟩ := run_probeWith_of_crashed start ran flying
      obtain ⟨now, beyond⟩ := beyond_of_judged judged
      exact .inr ⟨w', now, lost, gate, beyond⟩
  shuts read := by
    rcases run_of_judged (judged_of_read leads read) w with ⟨result, ran, judged⟩ | ⟨-, judged⟩
    · obtain ⟨w', told, gate⟩ := run_probeWith start ran flying
      obtain ⟨reason, failed⟩ := outcome_of_unread judged
      exact ⟨w', _, reason, told, gate.trans failed⟩
    · exact absurd judged not_judged_crash
  forsakes forsaken := by
    obtain ⟨m, leaves⟩ := leaves_of_forsaken leads forsaken
    have ran : u.run w = (w, .done (.error (.timeout credential m))) := by
      rcases leaves with rfl | rfl <;> rfl
    obtain ⟨w', told, gate⟩ := run_probeWith start ran flying
    exact ⟨w', _, _, told, gate⟩
  hears hears pends := by
    obtain ⟨m, here⟩ := hears.leads
    cases leads.unique here
    refine ⟨flying, fun cut => ?_, ?_⟩
    · obtain ⟨e, ran⟩ := run_of_cutOff (m := m) pends cut
      obtain ⟨w', told, gate⟩ := run_probeWith start ran flying
      exact ⟨w', _, _, told, gate⟩
    · rw [answering, Delayed.await_of_pends (pends_rest.mpr pends)]
      exact ⟨_, rfl, settles_abandoned flying⟩
  opened open_ := by
    rw [flying] at open_
    cases open_

section Over

variable {d e : History Surroundings} {status : Nat} {body : Body}
  (ended : ∀ {h v}, u.Leads h v → h = [] ∧ v = u) (leads : (s.attempt resource r).Leads d u)

include ended leads

/-! What a call has seen since it claimed the probe it has seen before its attempt was over. -/

theorem Arrived.of_append (arrived : s.Arrived resource r (d ++ e) status body) :
    s.Arrived resource r d status body :=
  Once.of_append ended leads (fun ⟨_, _, hears⟩ => hears.leads.imp' _ fun _ => id) arrived

theorem Read.of_append {content : Except String (List UInt8)}
    (read : s.Read resource r (d ++ e) status content) : s.Read resource r d status content :=
  Once.of_append ended leads (fun now => ⟨_, now.2⟩) read

theorem Forsaken.of_append (forsaken : s.Forsaken resource r (d ++ e) status body) :
    s.Forsaken resource r d status body :=
  Once.of_append ended leads (fun now => now.2.imp' _ fun _ => id) forsaken

end Over

theorem Read.append {status : Nat} {content : Except String (List UInt8)}
    (read : s.Read resource r h status content) (h' : History Surroundings) :
    s.Read resource r (h ++ h') status content := Once.append read h'

/-- An attempt that is over does not wait for a body. -/
theorem Hears.not_pends {d e : History Surroundings} {deadline : Option Instant} {status : Nat}
    {body : Body} {due : Instant} (ended : ∀ {h v}, u.Leads h v → h = [] ∧ v = u)
    (isOver : (∃ x, u = .done x) ∨ u = .crash) (leads : (s.attempt resource r).Leads d u)
    (hears : s.Hears resource r (d ++ e) deadline status body due) : ¬ body.Pends := by
  intro pends
  obtain ⟨m, here⟩ := hears.leads
  obtain ⟨v, first, rest⟩ := here.split
  cases first.unique leads
  have waits := (ended rest).2
  rw [answering, Delayed.await_of_pends (pends_rest.mpr pends)] at waits
  rcases isOver with ⟨x, rfl⟩ | rfl <;> cases waits

/-- A response that has arrived by the end of an attempt has been read by then, or forsaken. -/
theorem Arrived.cases_of_over {d e : History Surroundings} {status : Nat} {body : Body}
    (ended : ∀ {h v}, u.Leads h v → h = [] ∧ v = u) (isOver : (∃ x, u = .done x) ∨ u = .crash)
    (leads : (s.attempt resource r).Leads d u)
    (arrived : s.Arrived resource r (d ++ e) status body) :
    (∃ content, body.value = some content ∧ s.Read resource r (d ++ e) status content) ∨
      s.Forsaken resource r (d ++ e) status body := by
  rcases (arrived.of_append ended leads).cases leads with
    ⟨content, value, read⟩ | forsaken | ⟨deadline, due, hears, pends⟩
  · exact .inl ⟨content, value, read.append e⟩
  · exact .inr (Once.append forsaken e)
  · rw [← List.append_nil d] at hears
    exact absurd pends (hears.not_pends ended isOver leads)

theorem verdict_of_settled {start : Moment} {result x : Except Error Token}
    {d e : History Surroundings} (imds : s.endpoint.isImds = true)
    (leads : (s.attempt resource r).Leads d (.done result))
    (gate : s.gateIn w.state = outcome result) (telling : Telling start x t) :
    s.Verdict resource r w (d ++ e) t where
  arrives arrived := by
    rcases arrived.cases_of_over leads_done (.inl ⟨_, rfl⟩) leads with read | forsaken
    · exact .inl read
    · exact .inr (.inl forsaken)
  opens read := by
    obtain ⟨w', told, same⟩ := telling.run w
    refine .inl ⟨w', x, told, ?_⟩
    rcases judged_of_read leads (read.of_append leads_done leads) with judged | ⟨k, hk, -⟩
    · rw [same, gate, outcome_of_judged judged]
    · cases hk
  shuts read := by
    obtain ⟨w', told, same⟩ := telling.run w
    rcases judged_of_read leads (read.of_append leads_done leads) with judged | ⟨k, hk, -⟩
    · obtain ⟨reason, failed⟩ := outcome_of_unread judged
      exact ⟨w', x, reason, told, by rw [same, gate, failed]⟩
    · cases hk
  forsakes forsaken := by
    obtain ⟨w', told, same⟩ := telling.run w
    obtain ⟨m, hm | hm⟩ := leaves_of_forsaken leads (forsaken.of_append leads_done leads)
    · cases hm
    · cases hm
      exact ⟨w', x, _, told, by rw [same, gate]; rfl⟩
  hears hears pends := absurd pends (hears.not_pends leads_done (.inl ⟨_, rfl⟩) leads)
  opened open_ := by
    obtain ⟨status, bytes, read⟩ := read_of_succeeded imds leads (gate.symm.trans open_)
    exact ⟨status, bytes, read.append e⟩

theorem verdict_of_broken {d e : History Surroundings}
    (leads : (s.attempt resource r).Leads d .crash) (gate : s.gateIn w.state = abandoned) :
    s.Verdict resource r w (d ++ e) .crash where
  arrives arrived := by
    rcases arrived.cases_of_over leads_crash (.inr rfl) leads with read | forsaken
    · exact .inl read
    · exact .inr (.inl forsaken)
  opens read := by
    rcases judged_of_read leads (read.of_append leads_crash leads) with judged | ⟨k, hk, -⟩
    · obtain ⟨now, beyond⟩ := beyond_of_judged judged
      exact .inr ⟨w, now, rfl, gate, beyond⟩
    · cases hk
  shuts read := by
    rcases judged_of_read leads (read.of_append leads_crash leads) with judged | ⟨k, hk, -⟩
    · exact absurd judged not_judged_crash
    · cases hk
  forsakes forsaken := by
    obtain ⟨m, hm | hm⟩ :=
      leaves_of_forsaken leads (forsaken.of_append leads_crash leads) <;> cases hm
  hears hears pends := absurd pends (hears.not_pends leads_crash (.inr rfl) leads)
  opened open_ := by
    rw [gate] at open_
    cases open_

/-! ### Calls at the same time -/

/-- The world changes in any way around the source, but nobody else uses its gate. -/
def Untouched (s : ManagedIdentitySource) (w w' : World Surroundings) : Prop :=
  s.gateIn w'.state = s.gateIn w.state

/-- Every call is on its course, and only one of them claims the probe. -/
def coursePact (s : ManagedIdentitySource) : Pact Request Surroundings (Except Error Token) where
  world _ := True
  caller w x := Course s x.order (s.gateIn w.state) x.history x.rest
  apart x y := ¬ (s.Claimed x.history ∧ s.Claimed y.history)

theorem coursePact_kept (s : ManagedIdentitySource) :
    s.coursePact.Kept s.source.getToken s.Untouched where
  symm ha := fun ⟨hx, hy⟩ => ha ⟨hy, hx⟩
  calls _ _ := .starting not_claimed_nil
  callsApart _ := fun _ ⟨claimed, _⟩ => not_claimed_nil claimed
  goes _ course next := ⟨trivial, (course.next next).1⟩
  besideGo {w w' x y t} _ hx hy apart next := by
    refine ⟨hy.beside_transit (hx.next next).2 apart, fun ⟨claimed, claimed'⟩ => ?_⟩
    rcases of_claimed_snoc claimed with old | ⟨before, -⟩
    · exact apart ⟨old, claimed'⟩
    · exact hy.tested claimed' before
  drops _ _ _ := trivial
  besideDrop _ hx hy apart dropped := hy.beside_transit (hx.drop dropped) apart
  around _ _ := trivial
  besideAround {w w' x} _ hx same := by
    have stays : Transit s [] w.state w'.state := .stay same
    exact hx.beside_transit stays fun ⟨claimed, _⟩ => not_claimed_nil claimed

/-- **Why a move closes the gate although a response has arrived**: what is left of the attempt is
`u`. -/
inductive Slip (s : ManagedIdentitySource) (resource : String) (r : Request)
    (h₁ : History Surroundings) (u : Task Surroundings (Except Error Token))
    (m : Crowd.Move Request) (id status : Nat) (body : Body) : Prop
  /-- The body could not be read. -/
  | unread {e : String} (goes : m = .go id) (read : s.Read resource r h₁ status (.error e))
  /-- The call broke down over an expiry beyond the calendar. -/
  | beyond {bytes : List UInt8} {now : Instant} (goes : m = .go id)
      (read : s.Read resource r h₁ status (.ok bytes)) (broken : u = .crash)
      (beyond : Beyond status bytes now)
  /-- The attempt was cut off while it waited for the body. -/
  | forsaken (goes : m = .go id) (forsaken : s.Forsaken resource r h₁ status body)
  /-- The call is dropped while it waits for the body. -/
  | dropped {deadline : Option Instant} {due : Instant} (drops : m = .drop id)
      (hears : s.Hears resource r h₁ deadline status body due) (pends : body.Pends)

/-- **The verdicts of a probe**, in a state of a crowd of calls. -/
structure Verdicts (s : ManagedIdentitySource) (c : Calls) : Prop where
  /-- A call that has claimed the probe follows what has come back. -/
  call : ∀ {id : Nat} {x : Call}, c.callers id = some x → s.Claimed x.history →
    ∃ resource h₁, x.order.resource credential = .ok resource ∧ s.Since x.history h₁ ∧
      s.Verdict resource x.order c.world h₁ x.rest
  /-- The move that closes the gate is one of the call that makes the probe, and no response has
  arrived, or there was a slip. -/
  closes : ∀ {m : Crowd.Move Request} {c' : Calls} {reason : String},
    Crowd.Step s.source.getToken s.Untouched m c c' →
    s.gateIn c.world.state = inFlight → s.gateIn c'.world.state = .failed reason →
      ∃ id x resource h₁ u, (m = .go id ∨ m = .drop id) ∧ c.callers id = some x ∧
        s.Probes x.order x.history resource h₁ u ∧
        ∀ {status : Nat} {body : Body}, s.Arrived resource x.order h₁ status body →
          Slip s resource x.order h₁ u m id status body

theorem verdict_of_course {x : Call} (course : Course s x.order (s.gateIn w.state) x.history x.rest)
    (claimed : s.Claimed x.history) :
    ∃ resource h₁, x.order.resource credential = .ok resource ∧ s.Since x.history h₁ ∧
      s.Verdict resource x.order w h₁ x.rest := by
  generalize x.rest = t at course ⊢
  cases course with
  | starting free | asking free | beside free => exact absurd claimed free
  | probing probes flying =>
    exact ⟨_, _, probes.valid, probes.since, verdict_of_probing probes.leads flying⟩
  | settled imds valid since leads gate telling =>
    exact ⟨_, _, valid, since, verdict_of_settled imds leads gate telling⟩
  | broken valid since leads gate => exact ⟨_, _, valid, since, verdict_of_broken leads gate⟩

/-- An attempt that has failed although a response has arrived. -/
theorem slip_of_over {id status : Nat} {body : Body} {reason : String}
    (leads : (s.attempt resource r).Leads h₁ u)
    (ended : (∃ result, u = .done result ∧ outcome result = .failed reason) ∨ u = .crash)
    (arrived : s.Arrived resource r h₁ status body) :
    Slip s resource r h₁ u (.go id) id status body := by
  rcases arrived.cases leads with ⟨content, -, read⟩ | forsaken | ⟨deadline, due, hears, pends⟩
  · cases content with
    | error e => exact .unread rfl read
    | ok bytes =>
      rcases judged_of_read leads read with judged | ⟨k, rfl, -⟩
      · rcases ended with ⟨result, rfl, failed⟩ | rfl
        · rw [outcome_of_judged judged] at failed
          cases failed
        · obtain ⟨now, beyond⟩ := beyond_of_judged judged
          exact .beyond rfl read rfl beyond
      · rcases ended with ⟨result, hk, -⟩ | hk <;> cases hk
  · exact .forsaken rfl forsaken
  · rw [← List.append_nil h₁] at hears
    rcases ended with ⟨result, rfl, -⟩ | rfl
    · exact absurd pends (hears.not_pends leads_done (.inl ⟨_, rfl⟩) leads)
    · exact absurd pends (hears.not_pends leads_crash (.inr rfl) leads)

/-- An attempt that is dropped although a response has arrived. -/
theorem slip_of_drop {id status : Nat} {body : Body} (leads : (s.attempt resource r).Leads h₁ u)
    (waits : u.drop? w = some w') (arrived : s.Arrived resource r h₁ status body) :
    Slip s resource r h₁ u (.drop id) id status body := by
  rcases arrived.cases leads with ⟨content, -, read⟩ | forsaken | ⟨deadline, due, hears, pends⟩
  · rcases judged_of_read leads read with judged | ⟨k, rfl, -⟩
    · rcases judged.over with ⟨result, rfl⟩ | rfl <;> cases waits
    · cases waits
  · obtain ⟨m, rfl | rfl⟩ := leaves_of_forsaken leads forsaken <;> cases waits
  · exact .dropped rfl hears pends

theorem verdicts_of_holds {c : Calls} (h : s.coursePact.Holds c) : s.Verdicts c where
  call hx claimed := verdict_of_course (h.caller hx) claimed
  closes {m c' reason} step flying closed := by
    cases step with
    | call free =>
      rw [Crowd.put_world, flying] at closed
      cases closed
    | @go _ id x w t here next =>
      obtain ⟨resource, h₁, u, probes, ended⟩ := (h.caller here).closes_next next flying closed
      exact ⟨id, x, resource, h₁, u, .inl rfl, here, probes, slip_of_over probes.leads ended⟩
    | @drop _ id x w here dropped =>
      obtain ⟨resource, h₁, u, w₁, probes, waits⟩ :=
        (h.caller here).closes_drop dropped flying closed
      exact ⟨id, x, resource, h₁, u, .inr rfl, here, probes, slip_of_drop probes.leads waits⟩
    | around same =>
      rw [show s.gateIn _ = s.gateIn c.world.state from same, flying] at closed
      cases closed

/-- **The verdict follows the response**: in every state that calls get to, whatever comes back on
the wire, whatever the order of their steps and whoever is dropped. -/
theorem verdict_of_reaches (s : ManagedIdentitySource) {w : World Surroundings} {c : Calls}
    (reaches : Crowd.Reaches s.source.getToken s.Untouched (.empty w) c) : s.Verdicts c :=
  verdicts_of_holds (Pact.holds_of_reaches (coursePact_kept s) (Pact.holds_empty trivial) reaches)

/-- There is one reply on the wire: a response whose head is there at once. -/
def answered (body : Body) : World Surroundings :=
  .initial ⟨0⟩ (.ofCapacity 8)
    ⟨default, ⟨[⟨⟨0⟩, some (.response 200 body)⟩], []⟩, [], default,
      fun _ => .untested, fun _ => []⟩

/-- A call for a token, the body of the response and some moves of the call after which the gate is
closed although the response has arrived. -/
def Misjudged (s : ManagedIdentitySource) (r : Request) (body : Body)
    (moves : List (Crowd.Move Request)) : Prop :=
  ∃ (c : Calls) (x : Call) (h₁ : History Surroundings) (reason : String),
    Crowd.play? s.source.getToken (.call 0 r :: moves) (.empty (answered body)) = some c ∧
    c.callers 0 = some x ∧ s.Since x.history h₁ ∧ s.Arrived "a" r h₁ 200 body ∧
    s.gateIn c.world.state = .failed reason ∧ s.Verdicts c

/-- The gate closes although a response has arrived: reading its body fails, or the deadline of the
request comes before the body. -/
theorem verdict_of_reaches_torn :
    Misjudged stranded ⟨["a"], none, 0⟩ (.error "connection lost") (List.replicate 8 (.go 0)) ∧
      Misjudged stranded ⟨["a"], some ⟨0⟩, 0⟩ ⟨⟨5⟩, some (.ok [])⟩ (List.replicate 8 (.go 0)) := by
  have torn : Crowd.play? stranded.source.getToken (.call 0 ⟨["a"], none, 0⟩ ::
      List.replicate 8 (.go 0))
    (.empty (answered (.error "connection lost"))) = some _ := rfl
  have late : Crowd.play? stranded.source.getToken
    (.call 0 ⟨["a"], some ⟨0⟩, 0⟩ :: List.replicate 8 (.go 0))
    (.empty (answered ⟨⟨5⟩, some (.ok [])⟩)) = some _ := rfl
  refine ⟨⟨_, _, _, _, torn, rfl, ⟨[(_, _)], (_, _), rfl, rfl, rfl⟩, ?_, rfl,
      verdict_of_reaches stranded (Crowd.reaches_of_play? torn)⟩,
    ⟨_, _, _, _, late, rfl, ⟨[(_, _)], (_, _), rfl, rfl, rfl⟩, ?_, rfl,
      verdict_of_reaches stranded (Crowd.reaches_of_play? late)⟩⟩
  · exact ⟨[(_, _), (_, _), (_, _)], _, rfl, _, ⟨0⟩, ⟨⟨0⟩, _, .tail _ (.head _), rfl, rfl⟩, _,
      .step rfl (.step rfl (.step rfl (.refl _)))⟩
  · exact ⟨[(_, _), (_, _), (_, _)], _, rfl, _, ⟨0⟩, ⟨⟨0⟩, _, .tail _ (.head _), rfl, rfl⟩, _,
      .step rfl (.step rfl (.step rfl (.refl _)))⟩

end ManagedIdentitySource

end TokenChain
