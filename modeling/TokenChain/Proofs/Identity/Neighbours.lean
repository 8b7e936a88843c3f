import TokenChain.Chain.Member
import TokenChain.Proofs.Identity.Messages

/-! # Tasks beside a gate

A task that leaves a gate alone (`LeavesGate`) does not change its state on any way through it. So
do all tasks of the library but those of the managed identity whose gate it is
(`leavesGate_member`): the members of a chain share their surroundings, but none of them touches the
gate of another one. -/

namespace TokenChain

open TokenChain.Task TokenChain.Surroundings

namespace Surroundings

/-- A gate is in the same state, whatever is counted. -/
def SameGate (gate _count : Nat) (a b : Surroundings) : Prop := b.gates gate = a.gates gate

/-- A task leaves a gate alone, on every way through it. -/
def LeavesGate {α : Type} (gate : Nat) (t : Task Surroundings α) : Prop :=
  t.Spends (SameGate gate) 0

variable {α β σ : Type} {gate : Nat} {t u : Task Surroundings α} {w w' : World Surroundings}

theorem leavesGate_of_spends {n : Nat} (h : t.Spends (PostsBeside gate) n) : LeavesGate gate t :=
  (h.weaken fun hp => hp.1).of_uncounted fun same => same

theorem LeavesGate.next (h : LeavesGate gate t) (next : t.next? w = some (w', u)) :
    w'.state.gates gate = w.state.gates gate ∧ LeavesGate gate u := by
  obtain ⟨m, le, same, spends⟩ := Spends.next (fun _ => rfl) h next
  exact ⟨same, spends.mono (Nat.sub_le 0 m)⟩

theorem LeavesGate.drop (h : LeavesGate gate t) (dropped : t.drop? w = some w') :
    w'.state.gates gate = w.state.gates gate := Spends.drop h dropped

theorem LeavesGate.leads {h : History Surroundings} (ht : LeavesGate gate t) (hl : t.Leads h u) :
    LeavesGate gate u :=
  Spends.leads (fun _ => rfl) ht hl

/-! ### Tasks built from others -/

theorem leavesGate_done (a : α) : LeavesGate gate (.done a) := trivial

theorem LeavesGate.bind {g : α → Task Surroundings β} (h : LeavesGate gate t)
    (hg : ∀ a, LeavesGate gate (g a)) : LeavesGate gate (t.bind g) := Spends.bind_free h hg

/-- A task on a part of the surroundings does what may be done to the part. -/
theorem spends_part {R : Nat → Surroundings → Surroundings → Prop} {part : Surroundings → σ}
    {put : σ → Surroundings → Surroundings} (may : ∀ s a, R 0 a (put s a)) (t : Task σ α) :
    (t.zoom part put).Spends R 0 :=
  spends_zoom (fun {_ s a} none => none ▸ may s a) (spends_any t)

theorem gates_update {i : Nat} (ne : gate ≠ i) (f : Nat → ProbeState) (g : ProbeState) :
    update f i g gate = f gate :=
  if_neg ne

theorem leavesGate_onGate {i : Nat} (ne : gate ≠ i) (t : Task ProbeState α) :
    LeavesGate gate (onGate i t) :=
  spends_part (fun g a => gates_update ne a.gates g) t

theorem sameGate_setGate {i : Nat} (ne : gate ≠ i) (f : ProbeState → ProbeState)
    (a : Surroundings) : SameGate gate 0 a (a.setGate i f) := gates_update ne a.gates _

theorem leavesGate_within {t : Task Surroundings (Except Error α)}
    (h : LeavesGate gate t) (r : Request) (credential : String) (limit : Option Duration) :
    LeavesGate gate (r.within credential limit t) :=
  Spends.within h r credential limit

theorem leavesGate_execute (p : RetryPolicy) (r : Request) (credential : String)
    {operation : Nat → Task Surroundings (Except Error α)}
    (h : ∀ k, LeavesGate gate (operation k)) :
    LeavesGate gate (p.execute r credential (fun _ => .done ()) operation) := by
  have all : (p.executeFrom r credential (fun _ => .done ()) operation p.maxRetries.toNat 0).Spends
      (SameGate gate) (0 * (p.maxRetries.toNat + 1)) :=
    Spends.executeFrom (fun _ => rfl) (fun _ => leavesGate_done ()) h p.maxRetries.toNat 0
  rwa [Nat.zero_mul] at all

theorem spends_reported {R : Nat → Surroundings → Surroundings → Prop} (credential : String)
    {work : Task Surroundings (Except Error Token)} (h : work.Spends R 0) :
    (Source.reported credential work).Spends R 0 :=
  fun _ => h.bind_free fun _ _ => trivial

theorem leavesGate_reported (credential : String) {work : Task Surroundings (Except Error Token)}
    (h : LeavesGate gate work) : LeavesGate gate (Source.reported credential work) :=
  spends_reported credential h

theorem leavesGate_call (credential : String) (family : Endpoint.Family)
    (scopes : List String) (m : Message) :
    LeavesGate gate (Endpoint.call credential family scopes m) :=
  leavesGate_of_spends (Endpoint.spends_call gate credential family scopes m)

theorem leavesGate_authorityToken (credential agent : String) (authority : Url) (tenant : String)
    (proof : List (String × String)) (scopes : List String) :
    LeavesGate gate (Endpoint.authorityToken credential agent authority tenant proof scopes) := by
  rw [Endpoint.authorityToken]
  cases Endpoint.tokenUrl authority tenant with
  | error e => trivial
  | ok url => exact leavesGate_call ..

end Surroundings

/-! ### Sources -/

variable {gate : Nat} {r : Request}

theorem EnvironmentSource.leavesGate (s : EnvironmentSource) (r : Request) :
    LeavesGate gate (s.source.getToken r) := by
  refine leavesGate_reported _ ?_
  rw [fetch]
  cases s.client with
  | error missing => trivial
  | ok client => exact leavesGate_execute _ _ _ fun _ => leavesGate_authorityToken ..

theorem WorkloadSource.leavesGate (s : WorkloadSource) (r : Request) :
    LeavesGate gate (s.source.getToken r) := by
  refine leavesGate_reported _ ?_
  rw [fetch]
  cases s.federation with
  | error missing => trivial
  | ok f =>
    refine ⟨0, Nat.le_refl 0, fun _ => rfl, fun around => ?_⟩
    dsimp only
    cases assertion around.files f.tokenFile with
    | error e => trivial
    | ok proof => exact leavesGate_execute _ _ _ fun _ => leavesGate_authorityToken ..

theorem ToolSource.spends_getToken {R : Nat → Surroundings → Surroundings → Prop}
    (free : ∀ a, R 0 a a) (may : ∀ tools a, R 0 a { a with tools }) (s : ToolSource) (r : Request) :
    (s.source.getToken r).Spends R 0 := by
  have fetches : (s.fetch r).Spends R 0 := by
    rw [fetch]
    cases s.arguments r with
    | error e => trivial
    | ok args =>
      have runs : (s.run r args).Spends R 0 := by
        refine Spends.within ?_ r _ _
        exact (spends_part may _).bind_free fun _ => trivial
      refine runs.bind_free fun result => ?_
      cases result with
      | error e => trivial
      | ok stdout =>
        refine ⟨0, Nat.le_refl 0, free, fun around => ?_⟩
        dsimp only
        cases readOutput s.tool around.zone stdout with
        | error e => trivial
        | ok found => trivial
  refine (spends_reported _ fetches).bind_free fun result => ?_
  exact (spends_part may _).bind_free fun _ => trivial

theorem ToolSource.leavesGate (s : ToolSource) (r : Request) :
    LeavesGate gate (s.source.getToken r) :=
  s.spends_getToken (fun _ => rfl) (fun _ _ => rfl) r

theorem RehearsedSource.spends_getToken {R : Nat → Surroundings → Surroundings → Prop}
    (free : ∀ a, R 0 a a) (may : ∀ rehearsals a, R 0 a { a with rehearsals })
    (s : RehearsedSource) (r : Request) : (s.source.getToken r).Spends R 0 := by
  have plays : ∀ delay cue, (s.play r delay cue).Spends R 0 := by
    intro delay cue
    have answers :
        ((perform r cue).bind fun result => .note ⟨.info, s.name, remark result⟩ (.done result) :
        Task Surroundings (Except Error Token)).Spends R 0 := by
      refine Spends.bind_free ?_ fun _ => trivial
      cases cue with
      | crash => trivial
      | error e => trivial
      | token secret lifetime =>
        intro m
        dsimp only
        cases Token.lasting? secret m.now lifetime r.scopes with
        | none => trivial
        | some token => trivial
    rw [play]
    split
    · exact answers
    · exact fun m => ⟨free, fun _ => answers⟩
  refine (spends_part (fun _ a => may _ a) _).bind_free fun cues => ?_
  cases cues.head? with
  | none => exact plays ..
  | some entry => exact plays ..

theorem RehearsedSource.leavesGate (s : RehearsedSource) (r : Request) :
    LeavesGate gate (s.source.getToken r) :=
  s.spends_getToken (fun _ => rfl) (fun _ _ => rfl) r

theorem ManagedIdentitySource.leavesGate (s : ManagedIdentitySource)
    (ne : gate ≠ s.gate) (r : Request) : LeavesGate gate (s.source.getToken r) := by
  have asks : ∀ (p : RetryPolicy) (resource : String), LeavesGate gate (s.askWith p resource r) :=
    fun p resource => leavesGate_execute _ _ _ fun _ => leavesGate_call ..
  refine leavesGate_reported _ ?_
  rw [fetch]
  split
  · trivial
  next resource _ =>
    split
    · rw [fetchImds_eq]
      refine (leavesGate_onGate ne _).bind fun x => ?_
      rcases x with e | (- | - | reason)
      · trivial
      · have attempted :
            LeavesGate gate (r.within credential (some s.probeTimeout) (s.ask resource r)) :=
          leavesGate_within (leavesGate_call ..) r _ _
        refine LeavesGate.bind ?_ fun _ =>
          ⟨0, Nat.le_refl 0, sameGate_setGate ne _, fun _ => trivial⟩
        exact Spends.onLoss (fun same same' => Eq.trans same' same)
          (sameGate_setGate ne _) attempted
      · exact asks ..
      · trivial
    · exact asks ..

/-- **A member** leaves every gate alone but its own. -/
theorem leavesGate_member (m : Member) (other : m.gate? ≠ some gate) (r : Request) :
    LeavesGate gate (m.source.getToken r) := by
  cases m with
  | environment s => exact s.leavesGate r
  | workload s => exact s.leavesGate r
  | managedIdentity s =>
    refine s.leavesGate ?_ r
    rintro rfl
    exact other rfl
  | tool s => exact s.leavesGate r
  | explicit e => exact fun _ => trivial
  | rehearsed s => exact s.leavesGate r

end TokenChain
