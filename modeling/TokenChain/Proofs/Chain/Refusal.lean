import TokenChain.Proofs.Chain.Departure
import TokenChain.Proofs.Identity.Restraint
import TokenChain.Proofs.Source.Refusal

/-! # Refused requests in a scan

A source that refuses a request is not ruled out for it: a later request may be in order. In the
scan it has failed, and the scan goes on to the next source at once (`scanning_passes`); whatever
else the calls of a chain do for such a request, the reason for which the source is ruled out, or
that there is none, stays as it is (`keepsReason_getToken`).

`Member.Declines` collects what becomes of a request that is refused, by the member alone and in a
scan. -/

namespace TokenChain

/-- Neither the chain nor anything around its sources is touched. -/
structure Shared.Untouched (a b : Shared Surroundings) : Prop where
  chain : b.chain = a.chain
  sources : a.sources.Untouched b.sources

namespace Chain

open TokenChain.Task TokenChain.Shared

variable {ρ α : Type} {r : Request} {i : Nat}

/-! ### Why a source is ruled out -/

/-- What is noted about a place stays as it is, whatever is counted. -/
def KeepsReason (i : Nat) (_count : Nat) (a b : Shared ρ) : Prop :=
  b.chain.reason? i = a.chain.reason? i

theorem keepsReason_lift (t : Task ρ α) : (Shared.lift t).Spends (KeepsReason i) 0 :=
  spends_zoom (fun none => none ▸ rfl) (spends_any t)

theorem keepsReason_noteFailure {j : Nat} (other : i ≠ j) (e : Error) (a : Shared ρ) :
    KeepsReason i 0 a (Shared.onChain (noteFailure j e) a) := by
  have noted := (noteFailure_eq j e a.chain).2.2.2 i
  rwa [if_neg other] at noted

section Refused
variable {source : Source ρ} {Quiet : ρ → ρ → Prop} {message : String} {n : Nat}
  (refused : (source.getToken r).Concludes Quiet (.error (.config message)) n)
include refused

/-- **A scan** in which the source at a place refuses the request. -/
theorem keepsReason_scanFrom (sources : List (Source ρ)) (j : Nat) (f : Findings)
    (here : ∀ k, j + k = i → ∀ other, sources[k]? = some other → other = source) :
    (scanFrom r sources j f).Spends (KeepsReason i) 0 := by
  induction sources generalizing j f with
  | nil => exact ⟨0, Nat.le_refl 0, fun _ => rfl, fun _ => trivial⟩
  | cons other rest ih =>
    have goesOn (f : Findings) : (scanFrom r rest (j + 1) f).Spends (KeepsReason i) 0 :=
      ih (j + 1) f fun k place => here (k + 1) (by omega)
    refine ⟨0, Nat.le_refl 0, fun _ => rfl, fun s => ?_⟩
    dsimp only
    cases s.chain.reason? j with
    | some reason => exact goesOn _
    | none =>
      by_cases at_i : i = j
      · obtain rfl := here 0 at_i.symm other rfl
        have lifted :
            (Shared.lift (other.getToken r)).Concludes (fun a b => b.chain = a.chain)
              (.error (.config message)) n :=
          refused.zoom fun _ => rfl
        refine lifted.spends_bind (fun same => congrArg (·.reason? i) same) ?_
        exact ⟨0, Nat.le_refl 0, fun _ => rfl, fun _ => goesOn _⟩
      · refine (keepsReason_lift _).bind_free fun x => ?_
        cases x with
        | ok token => exact ⟨0, Nat.le_refl 0, fun _ => rfl, fun _ => trivial⟩
        | error e => exact ⟨0, Nat.le_refl 0, keepsReason_noteFailure at_i e, fun _ => goesOn _⟩

/-- **A call of a chain** with a source that refuses the request never changes why the source is
ruled out. -/
theorem keepsReason_getToken {c : Chain ρ} (here : c.sources[i]? = some source) :
    (c.getToken r).Spends (KeepsReason i) 0 := by
  have asks (j : Nat) : (c.ask r j).Spends (KeepsReason i) 0 := by
    rw [ask]
    cases c.sources[j]? with
    | none => trivial
    | some other => exact keepsReason_lift _
  have scans : (scanFrom r c.sources 0 .empty).Spends (KeepsReason i) 0 := by
    refine keepsReason_scanFrom refused c.sources 0 .empty fun k place other found => ?_
    rw [Nat.zero_add] at place
    rw [place, here] at found
    exact (Option.some.inj found).symm
  have queues : (waitTurn r : Task (Shared ρ) _).Spends (KeepsReason i) 0 := by
    refine Spends.within ?_ r _ _
    exact ⟨0, Nat.le_refl 0, fun _ => rfl, fun _ => ⟨fun _ => rfl, fun _ => trivial⟩⟩
  refine ⟨0, Nat.le_refl 0, fun _ => rfl, fun s => ?_⟩
  dsimp only
  cases s.chain.selected with
  | some j => exact asks j
  | none =>
    refine queues.bind_free fun turn => ?_
    cases turn with
    | error e => trivial
    | ok ticket =>
      refine ⟨0, Nat.le_refl 0, fun _ => rfl, fun s => ?_⟩
      dsimp only
      cases s.chain.selected with
      | some j => exact ⟨0, Nat.le_refl 0, fun _ => rfl, fun _ => asks j⟩
      | none =>
        refine Spends.bind_free ?_ fun _ => ⟨0, Nat.le_refl 0, fun _ => rfl, fun _ => trivial⟩
        exact scans.onLoss (fun first second => Eq.trans second first) fun _ => rfl

end Refused

/-! ### How a scan goes on -/

/-- The position after some more steps. -/
def Position.along (c : Chain ρ) (r : Request) (p : Position ρ) (h : History (Shared ρ)) :
    Position ρ :=
  h.foldl (fun p step => p.follow c r step.1) p

theorem Position.of_append (c : Chain ρ) (r : Request) (h₁ h₂ : History (Shared ρ)) :
    Position.of c r (h₁ ++ h₂) = (Position.of c r h₁).along c r h₂ := List.foldl_append

section Passing
variable {c : Chain Surroundings} {ticket n : Nat} {f : Findings} {message : String}
  {h : History (Shared Surroundings)} {u : Task (Shared Surroundings) (Except Error Token)}

/-- **A call whose source at work refuses the request**: it cannot be held up before it has gone on
to the next place with one more failure, and touches nothing until then. -/
theorem trying_passes {v : Task Surroundings (Except Error Token)}
    (settled : v.Concludes Surroundings.Untouched (.error (.config message)) n)
    (leads : ((Position.trying ticket i f v).task c r).Leads h u) :
    ((∀ w, (u.next? w).isSome) ∧ h.length ≤ n ∧ ∀ p ∈ h, p.1.state.Untouched p.2.state) ∨
      ∃ h₁ h₂, h = h₁ ++ h₂ ∧ h₁.length ≤ n + 1 ∧ (∀ p ∈ h₁, p.1.state.Untouched p.2.state) ∧
        (Position.trying ticket i f v).along c r h₁ =
          .scanning ticket (i + 1) (f.fail i (c.nameAt i) (.config message)) := by
  induction h generalizing v n with
  | nil =>
    cases leads
    refine .inl ⟨fun w => ?_, Nat.zero_le n, List.forall_mem_nil _⟩
    cases settled <;> rfl
  | cons step h ih =>
    obtain ⟨w, w'⟩ := step
    cases leads with
    | step next rest =>
      obtain ⟨rfl, effect⟩ := next?_task next
      rcases outside_next?_trying next with ⟨inside, stays⟩ | ⟨same, ended⟩
      · -- the source takes a step
        obtain ⟨m, rfl, quiet, settled⟩ := settled.next Surroundings.Untouched.refl inside
        have chain : w'.state.chain = w.state.chain := by
          have unfinished : ∀ x, v ≠ .done x := by
            rintro _ rfl
            cases inside
          have unbroken : v ≠ .crash := by
            rintro rfl
            cases inside
          rw [effect, effect_work unfinished unbroken]
        have first : w.state.Untouched w'.state := ⟨chain, quiet⟩
        rw [stays] at rest
        obtain ⟨goesOn, few, later⟩ | ⟨h₁, h₂, rfl, few, later, comes⟩ := ih settled rest
        · exact .inl ⟨goesOn, Nat.succ_le_succ few, List.forall_mem_cons.mpr ⟨first, later⟩⟩
        · refine .inr ⟨(w, w') :: h₁, h₂, rfl, Nat.succ_le_succ few,
            List.forall_mem_cons.mpr ⟨first, later⟩, ?_⟩
          rw [Position.along, List.foldl_cons, stays]
          exact comes
      · -- the scan takes the error
        cases settled with
        | look | note | step => cases ended
        | done =>
          have first : w.state.Untouched w'.state := ⟨effect, by rw [same]; exact .refl _⟩
          exact .inr ⟨[(w, w')], h, rfl, Nat.succ_le_succ (Nat.zero_le n),
            List.forall_mem_singleton.mpr first, rfl⟩

/-- **A call whose scan comes to a source that refuses the request** and is not ruled out. -/
theorem scanning_passes {source : Source Surroundings} (here : c.sources[i]? = some source)
    (refused : (source.getToken r).Concludes Surroundings.Untouched (.error (.config message)) n)
    {before : History (Shared Surroundings)} (at_i : Position.of c r before = .scanning ticket i f)
    {w w' : World (Shared Surroundings)} (leads : (c.getToken r).Leads (before ++ (w, w') :: h) u)
    (inPlay : w.state.chain.reason? i = none) :
    ((∀ v, (u.next? v).isSome) ∧ h.length ≤ n ∧ ∀ p ∈ h, p.1.state.Untouched p.2.state) ∨
      ∃ h₁ h₂, h = h₁ ++ h₂ ∧ h₁.length ≤ n + 1 ∧ (∀ p ∈ h₁, p.1.state.Untouched p.2.state) ∧
        Position.of c r (before ++ (w, w') :: h₁) =
          .scanning ticket (i + 1) (f.fail i source.name (.config message)) := by
  have called : Position.of c r (before ++ [(w, w')]) = .trying ticket i f (source.getToken r) := by
    rw [Position.of_snoc, at_i, Position.follow, here, inPlay]
  rw [List.append_cons] at leads
  obtain ⟨v, first, later⟩ := leads.split
  rw [task_of_leads first, called] at later
  obtain working | ⟨h₁, h₂, rfl, few, quiet, comes⟩ := trying_passes refused later
  · exact .inl working
  · refine .inr ⟨h₁, h₂, rfl, few, quiet, ?_⟩
    rw [List.append_cons, Position.of_append, called, comes, nameAt, here]
    rfl

end Passing

end Chain

namespace Member

open TokenChain.Task

/-- **What becomes of a request that a member declines** with the given error. -/
structure Declines (m : Member) (r : Request) (e : Error) : Prop where
  /-- A call can always take its next step until it has ended with the error. -/
  returns : ∀ {h : History Surroundings} {u : Task Surroundings (Except Error Token)},
    (m.source.getToken r).Leads h u → u = .done (.error e) ∨ ∀ w, (u.next? w).isSome
  /-- It has ended after four steps at the latest, and none of them touches anything. -/
  untouched : ∀ {h : History Surroundings} {u : Task Surroundings (Except Error Token)},
    (m.source.getToken r).Leads h u → h.length ≤ 4 ∧ ∀ p ∈ h, p.1.state.Untouched p.2.state
  /-- By its end it has written one entry, which is the report of its outcome. -/
  logged : ∀ {h : History Surroundings} {es : List Entry} {x : Except Error Token},
    (m.source.getToken r).Writes h es (.done x) → x = .error e ∧
    ∃ elapsed time, es = [⟨Source.report m.source.name elapsed (.error e), time⟩]
  /-- In a chain that has the member at some place, no step of a call changes what is noted about
  the place. -/
  unmarked : ∀ {c : Chain Surroundings} {i : Nat}, c.sources[i]? = some m.source →
    ∀ {h : History (Shared Surroundings)} {u : Task (Shared Surroundings) (Except Error Token)},
    (c.getToken r).Leads h u →
      ∀ p ∈ h, p.2.state.chain.reason? i = p.1.state.chain.reason? i
  /-- A call whose scan comes to the member and does not find it ruled out cannot be held up before
  it goes on to the next place, with the error among the failures, and nothing is touched until
  then. -/
  passed : ∀ {c : Chain Surroundings} {ticket i : Nat} {f : Chain.Findings},
    c.sources[i]? = some m.source → ∀ {before : History (Shared Surroundings)},
    Chain.Position.of c r before = .scanning ticket i f →
    ∀ {w w' : World (Shared Surroundings)} {h : History (Shared Surroundings)}
      {u : Task (Shared Surroundings) (Except Error Token)},
      (c.getToken r).Leads (before ++ (w, w') :: h) u →
    w.state.chain.reason? i = none →
      ((∀ v, (u.next? v).isSome) ∧ h.length ≤ 4 ∧ ∀ p ∈ h, p.1.state.Untouched p.2.state) ∨
        ∃ h₁ h₂, h = h₁ ++ h₂ ∧ h₁.length ≤ 5 ∧ (∀ p ∈ h₁, p.1.state.Untouched p.2.state) ∧
          Chain.Position.of c r (before ++ (w, w') :: h₁) =
            .scanning ticket (i + 1) (f.fail i m.source.name e)

/-- **A request that a member refuses** is declined as not acceptable: whatever the gates, the wire
and the tools are like, whatever others do meanwhile, and whether the request has been cancelled or
not. -/
theorem declines_of_refuses {m : Member} {r : Request} (refuses : m.Refuses r) :
    ∃ message, m.Declines r (.config message) := by
  obtain ⟨message, concludes, yields⟩ := concludes_of_refuses refuses
  refine ⟨message, ?_⟩
  constructor
  case returns =>
    intro h u leads
    obtain ⟨-, k, -, rest⟩ := concludes.of_leads Surroundings.Untouched.refl leads
    exact rest.goesOn
  case untouched =>
    intro h u leads
    obtain ⟨quiet, k, length, -⟩ := concludes.of_leads Surroundings.Untouched.refl leads
    exact ⟨by omega, quiet⟩
  case logged =>
    intro h es x writes
    obtain ⟨rfl, elapsed, report⟩ := writes.of_yields yields
    obtain ⟨entry, rfl, same⟩ := List.map_eq_singleton_iff.mp report
    exact ⟨rfl, elapsed, entry.time, by rw [← same]⟩
  case unmarked =>
    intro c i here h u leads
    exact (Chain.keepsReason_getToken concludes here).of_mem (fun _ => rfl) leads
  case passed =>
    intro c ticket i f here before at_i w w' h u leads inPlay
    exact Chain.scanning_passes here concludes at_i leads inPlay

/-- **A scope that looks like an option** is declined by a managed identity in three steps. -/
theorem declines_of_refuses_dashed :
    (managedIdentity .stranded).Refuses ⟨["-x"], none, 0⟩ ∧
      ∃ message, (managedIdentity .stranded).Declines ⟨["-x"], none, 0⟩ (.config message) ∧
        ∃ h, (ManagedIdentitySource.stranded.source.getToken ⟨["-x"], none, 0⟩).Leads h
          (.done (.error (.config message))) ∧ h.length = 3 := by
  have refuses : (managedIdentity .stranded).Refuses ⟨["-x"], none, 0⟩ := by
    refine .identity ?_
    rintro ⟨scope, ⟨⟩, fit⟩
    exact fit.undashed (by decide)
  obtain ⟨message, declines⟩ := declines_of_refuses refuses
  refine ⟨refuses, message, declines, ?_⟩
  let w := ManagedIdentitySource.wilderness
  have leads :
      (ManagedIdentitySource.stranded.source.getToken ⟨["-x"], none, 0⟩).Leads
        [(w, w), (w, w), (w, _)] _ :=
    .step rfl (.step rfl (.step rfl (.refl _)))
  obtain ended | goesOn := declines.returns leads
  · rw [ended] at leads
    exact ⟨_, leads, rfl⟩
  · cases goesOn w

end Member

end TokenChain
