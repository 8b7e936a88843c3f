import TokenChain.Proofs.Identity.Restraint
import TokenChain.Proofs.Source.Attempts

/-! # The limits of attempts

Every message that a member of a chain sends belongs to an attempt that is over in time
(`Member.attends_getToken`), whatever the wire, the files and the other callers do. The limit is
that of the member's policy; but the attempt that follows the claim of a probe gate has the limit of
the probe (`Member.limitAfter`).

So much follows from the attempts of executions, but for the metadata service. There a call that
claims the gate is about to make the probe, and one that finds the gate open has not claimed it
(`ManagedIdentitySource.of_leads_consult`), nor does it touch the gate between one attempt and
another. -/

namespace TokenChain

open TokenChain.Task TokenChain.Surroundings TokenChain.ProbeState

/-- A step claims the probe of a metadata service. -/
def ManagedIdentitySource.claims (s : ManagedIdentitySource)
    (p : World Surroundings × World Surroundings) : Bool :=
  s.endpoint.isImds && decide (s.gateIn p.1.state = untested) &&
    decide (s.gateIn p.2.state = inFlight)

namespace Member

/-- The limit of an attempt that a call of the member begins after some steps: that of the policy,
unless the call has just claimed the probe. -/
def limitAfter : Member → History Surroundings → Duration
  | managedIdentity s, past =>
    if past.getLast?.any s.claims then s.probeTimeout else s.retry.attemptTimeout
  | m, _ => m.policy.attemptTimeout

/-- An attempt that a call of the member may begin after some steps. -/
def Attempts (m : Member) (r : Request) (past : History Surroundings) (msg : Message)
    (a : Task Surroundings (Except Error Token)) : Prop :=
  ∃ family, a = Endpoint.attempt r m.source.name family msg (m.limitAfter past)

/-- What is laid down for the attempts of a member: they are over by the whole millisecond in which
their limit ends. -/
def terms (m : Member) (r : Request) : Terms := fun past msg a b late =>
  m.Attempts r past msg a ∧ late = (b + m.limitAfter past).ceilMilli

end Member

/-! ### Sources with one limit -/

theorem Member.terms_of_limited {m : Member} {r : Request} {past : History Surroundings}
    {t : Task Surroundings (Except Error Token)} {limit : Duration}
    (attends : t.Attends id (.limited r m.source.name limit))
    (same : ∀ h, m.limitAfter (past ++ h) = limit) : t.Attends id ((m.terms r).after past) := by
  refine attends.mono ?_
  rintro h msg a b late ⟨family, rfl, rfl⟩
  rw [Terms.after, terms, Attempts, same]
  exact ⟨⟨family, rfl⟩, rfl⟩

variable {r : Request}

theorem Endpoint.authorityToken_eq (credential agent : String) (authority : Url) (tenant : String)
    (proof : List (String × String)) (scopes : List String) :
    (∃ family msg, authorityToken credential agent authority tenant proof scopes =
      call credential family scopes msg) ∨
      ∃ x, authorityToken credential agent authority tenant proof scopes = .done x := by
  rw [authorityToken]
  cases tokenUrl authority tenant with
  | error e => exact .inr ⟨_, rfl⟩
  | ok url => exact .inl ⟨_, _, rfl⟩

theorem EnvironmentSource.attends_fetch (s : EnvironmentSource) (r : Request) :
    (s.fetch r).Attends id (.limited r credential s.retry.attemptTimeout) := by
  rw [fetch]
  cases s.client with
  | error missing => exact attends_of_posts trivial
  | ok client => exact RetryPolicy.attends_execute fun _ => Endpoint.authorityToken_eq ..

theorem WorkloadSource.attends_fetch (s : WorkloadSource) (r : Request) :
    (s.fetch r).Attends id (.limited r credential s.retry.attemptTimeout) := by
  rw [fetch]
  cases s.federation with
  | error missing => exact attends_of_posts trivial
  | ok f =>
    refine .of_next fun {w w' u} next => ?_
    cases next
    refine ⟨rfl, ?_⟩
    dsimp only
    cases assertion w.state.files f.tokenFile with
    | error e => exact attends_of_posts trivial
    | ok proof => exact RetryPolicy.attends_execute fun _ => Endpoint.authorityToken_eq ..

/-! ### Managed identities -/

namespace ManagedIdentitySource

variable {s : ManagedIdentitySource} {past h : History Surroundings}

theorem claims_eq_false {p : World Surroundings × World Surroundings}
    (idle : s.gateIn p.1.state = untested → s.gateIn p.2.state ≠ inFlight) :
    s.claims p = false := by
  rw [claims, Bool.eq_false_iff]
  intro claimed
  simp only [Bool.and_eq_true, decide_eq_true_eq] at claimed
  exact idle claimed.1.2 claimed.2

/-- A step that leaves the gate as it is does not claim the probe. -/
theorem claims_eq_false_of_same {p : World Surroundings × World Surroundings}
    (same : s.gateIn p.2.state = s.gateIn p.1.state) : s.claims p = false :=
  claims_eq_false fun before after => by
    rw [same, before] at after
    cases after

theorem limitAfter_eq (unclaimed : ∀ p ∈ past.getLast?, s.claims p = false) :
    (Member.managedIdentity s).limitAfter past = s.retry.attemptTimeout := by
  rw [Member.limitAfter, if_neg]
  rw [Bool.not_eq_true, Option.any_eq_false]
  exact unclaimed

theorem unclaimed_append (idle : ∀ p ∈ h, s.claims p = false)
    (before : h = [] → ∀ p ∈ past.getLast?, s.claims p = false) :
    ∀ p ∈ (past ++ h).getLast?, s.claims p = false := by
  intro p last
  rw [List.getLast?_append] at last
  rcases Option.or_eq_some_iff.mp last with last | ⟨none, last⟩
  · exact idle p (List.mem_of_getLast? last)
  · exact before (List.getLast?_eq_none_iff.mp none) p last

theorem spends_hold (s : ManagedIdentitySource) (r : Request) :
    (onGate s.gate (r.within credential none hold)).Spends (SameGate s.gate) 0 := by
  have holds : hold.Spends (fun _ g g' => g' = g) 0 :=
    ⟨fun _ => rfl, fun _ => ⟨0, Nat.le_refl 0, fun _ => rfl, fun _ => trivial⟩⟩
  refine spends_zoom (fun {_ g a} same => ?_) (holds.within r credential none)
  subst same
  exact if_pos rfl

theorem yields_hold (s : ManagedIdentitySource) (r : Request) :
    (onGate s.gate (r.within credential none hold)).Yields fun _ x => x ≠ .ok .probe := by
  intro m
  dsimp only
  split
  · exact nofun
  · intro x
    cases x with
    | ready =>
      intro a same
      exact admission_ne_probe _ (Except.ok.inj same)
    | cancelled | expired => exact fun _ => nofun

/-- **Asking at the gate**: a call that is to make the probe has just claimed it, and one that finds
the gate open has not. -/
theorem of_leads_consult {admission : Admission}
    (leads : (onGate s.gate (consult r credential)).Leads h (.done (.ok admission))) :
    (admission = .probe ∧ ∃ p, h = [p] ∧ s.gateIn p.1.state = untested ∧
      s.gateIn p.2.state = inFlight) ∨
      (admission ≠ .probe ∧ h ≠ [] ∧ ∀ p ∈ h, s.claims p = false) := by
  have asks : onGate s.gate (consult r credential) =
      .step (fun a => { a with gates := update a.gates s.gate (claim (a.gates s.gate)) })
        fun a => onGate s.gate (if a.gates s.gate =
          untested then .done (.ok .probe) else r.within credential none hold) := rfl
  rw [asks] at leads
  cases leads with
  | @step _ _ _ w _ _ next rest =>
    cases next
    dsimp only at rest
    split at rest
    · next fresh =>
      obtain ⟨rfl, same⟩ := leads_done rest
      cases same
      refine .inl ⟨rfl, _, rfl, fresh, ?_⟩
      show update w.state.gates s.gate (claim (w.state.gates s.gate)) s.gate = inFlight
      rw [fresh]
      exact if_pos rfl
    · next tested =>
      obtain ⟨es, writes⟩ := exists_writes rest
      have other : (.ok admission : Except Error Admission) ≠ .ok .probe :=
        writes.of_yields (s.yields_hold r)
      refine .inr ⟨fun same => other (congrArg _ same), by simp, List.forall_mem_cons.mpr ⟨?_,
        fun p mem => ?_⟩⟩
      · exact claims_eq_false fun before => absurd before tested
      · exact claims_eq_false_of_same (Spends.of_mem (fun _ => rfl) (s.spends_hold r) rest p mem)

theorem attends_askWith (s : ManagedIdentitySource) (p : RetryPolicy)
    (resource : String) (r : Request) :
    (s.askWith p resource r).Attends id (.limited r credential p.attemptTimeout) :=
  RetryPolicy.attends_execute fun _ => .inl ⟨_, _, rfl⟩

theorem attends_probe (s : ManagedIdentitySource) (resource : String) (r : Request)
    (claimed : (Member.managedIdentity s).limitAfter past = s.probeTimeout) :
    (s.probe resource r).Attends id (((Member.managedIdentity s).terms r).after past) := by
  have attempted :=
    Endpoint.attends_attempt r credential .managedIdentity (s.message resource) s.probeTimeout
  have settles : ∀ result, (s.conclude result).Spends Posts 0 :=
    fun _ => ⟨0, Nat.le_refl 0, posts_setGate _ _, fun _ => trivial⟩
  have silent : ∀ a :
      Surroundings, (a.setGate s.gate (.settle .abandoned)).wire.sent = a.wire.sent := fun _ => rfl
  refine (Attends.onLoss (attempted.mono ?_) silent).bind fun {x _} _ =>
    attends_of_posts (settles x)
  rintro h msg a b late ⟨rfl, rfl, rfl, rfl⟩
  rw [Terms.after, List.append_nil, Member.terms, Member.Attempts, claimed]
  exact ⟨⟨_, rfl⟩, rfl⟩

/-- Attempts behind an open gate have the limit of the policy: nobody claims the probe between
them. -/
theorem attends_opened (s : ManagedIdentitySource) (resource : String) (r : Request)
    (unclaimed : ∀ p ∈ past.getLast?, s.claims p = false) :
    (s.askWith s.retry resource r).Attends id
      (((Member.managedIdentity s).terms r).after past) := by
  have keeps : ∀ {h u}, (s.askWith s.retry resource r).Leads h u → ∀ p ∈ h, s.claims p = false :=
      fun leads p mem =>
    claims_eq_false_of_same
      (Spends.of_mem (fun _ => rfl)
        (leavesGate_of_spends (s.spends_askWith s.retry resource r)) leads p mem)
  refine ((s.attends_askWith s.retry resource r).along keeps).mono ?_
  rintro h msg a b late ⟨⟨family, rfl, rfl⟩, idle⟩
  have limit : (Member.managedIdentity s).limitAfter (past ++ h) = s.retry.attemptTimeout :=
    limitAfter_eq (unclaimed_append idle fun _ => unclaimed)
  rw [Terms.after, Member.terms, Member.Attempts, limit]
  exact ⟨⟨family, rfl⟩, rfl⟩

theorem attends_fetch (s : ManagedIdentitySource) (r : Request) (past : History Surroundings) :
    (s.fetch r).Attends id (((Member.managedIdentity s).terms r).after past) := by
  rw [fetch]
  split
  · exact attends_of_posts trivial
  next resource _ =>
    split
    next url metadata =>
      rw [fetchImds_eq]
      refine (attends_of_posts (spends_onGate s.gate _)).bind fun {x h} leads => ?_
      have same : h.focus id = h := List.map_id _
      rw [same, Terms.after_after]
      rcases x with e | (- | - | reason)
      · exact attends_of_posts trivial
      · rcases of_leads_consult leads with ⟨-, p, rfl, before, after⟩ | ⟨other, -⟩
        · refine s.attends_probe resource r ?_
          have claimed : s.claims p = true := by
            simp [claims, metadata, IdentityEndpoint.isImds, before, after]
          rw [Member.limitAfter, List.getLast?_concat, Option.any_some, if_pos claimed]
        · exact absurd rfl other
      · rcases of_leads_consult leads with ⟨other, -⟩ | ⟨-, asked, idle⟩
        · cases other
        · exact s.attends_opened resource r (unclaimed_append idle fun none => absurd none asked)
      · exact attends_of_posts trivial
    next url header service =>
      refine Member.terms_of_limited (m := .managedIdentity s)
        (s.attends_askWith s.retry resource r) fun h => ?_
      refine limitAfter_eq fun p _ => ?_
      rw [claims, service]
      rfl

end ManagedIdentitySource

/-! ### Members -/

/-- **Every message of a member** belongs to an attempt that is over in time. -/
theorem Member.attends_getToken (m : Member) (r : Request) (past : History Surroundings) :
    (m.source.getToken r).Attends id ((m.terms r).after past) := by
  cases m with
  | environment s =>
    refine Source.attends_reported fun w => ?_
    rw [Terms.after_after]
    exact terms_of_limited (m := .environment s) (s.attends_fetch r) fun _ => rfl
  | workload s =>
    refine Source.attends_reported fun w => ?_
    rw [Terms.after_after]
    exact terms_of_limited (m := .workload s) (s.attends_fetch r) fun _ => rfl
  | managedIdentity s =>
    refine Source.attends_reported fun w => ?_
    rw [Terms.after_after]
    exact s.attends_fetch r _
  | tool s =>
    exact attends_of_posts (s.spends_getToken posts_free (fun _ a => Wire.posts_free a.wire) r)
  | explicit e => exact attends_of_posts fun _ => trivial
  | rehearsed s =>
    exact attends_of_posts (s.spends_getToken posts_free (fun _ a => Wire.posts_free a.wire) r)

end TokenChain
