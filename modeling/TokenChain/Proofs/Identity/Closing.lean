import TokenChain.Proofs.Chain.Selection
import TokenChain.Proofs.Identity.Verdict

/-! # What closes the gate of a managed identity in a chain

A chain asks a managed identity among other sources, for any number of calls at the same time. The
steps of a call that are not those of the chain are steps of the source at work (`outside_next?`),
so a call of the chain keeps the managed identity on its course as a call of its own would
(`Engaged`), and the gate makes no other moves than those of `Course`.

`closed_of_run` says what lies behind a gate that is closed: the call that had claimed the probe has
sent its message, or its attempt came to nothing before it could. A request that is cancelled while
an earlier source works for it is such a case: the scan goes on, claims the probe and closes the
gate with nothing sent (`closed_unsent`). -/

namespace TokenChain.ManagedIdentitySource

open TokenChain.Task TokenChain.Shared TokenChain.Surroundings
  TokenChain.ProbeState TokenChain.Chain

variable {s : ManagedIdentitySource} {c : Chain Surroundings} {r : Request}
  {w w' : World (Shared Surroundings)} {t : Task (Shared Surroundings) (Except Error Token)}
  {x y : Chain.Call Surroundings} {h h' : History Surroundings}

/-- The other sources of a chain leave the gate of the managed identity alone. -/
def Among (s : ManagedIdentitySource) (c : Chain Surroundings) : Prop :=
  ∀ source ∈ c.sources, source = s.source ∨ ∀ r, LeavesGate s.gate (source.getToken r)

/-- A chain of members of which no other one has the same gate. -/
theorem among_of_members {members : List Member}
    (own : ∀ m ∈ members, m = .managedIdentity s ∨ m.gate? ≠ some s.gate) :
    s.Among ⟨members.map Member.source⟩ := by
  intro source here
  obtain ⟨m, hm, rfl⟩ := List.mem_map.mp here
  rcases own m hm with rfl | other
  · exact .inl rfl
  · exact .inr (leavesGate_member m other)

/-- The state of the gate beside the chain. -/
def gateBeside (s : ManagedIdentitySource) (w : World (Shared Surroundings)) : ProbeState :=
  s.gateIn w.state.sources

/-- Some steps of a call as they are seen outside the chain. -/
def outward (h : History (Shared Surroundings)) : History Surroundings :=
  h.map fun p => (outside p.1, outside p.2)

/-- The world changes around the chain in any way but at the gate, or the chain is reset. -/
inductive Spares (s : ManagedIdentitySource) (c : Chain Surroundings)
    (w : World (Shared Surroundings)) : World (Shared Surroundings) → Prop
  | beside {w' : World (Shared Surroundings)} (beside : Beside w w')
      (same : s.gateBeside w' = s.gateBeside w) : Spares s c w w'
  | reset : Spares s c w (c.reset.run w).1

theorem outward_snoc (h : History (Shared Surroundings)) (w w' : World (Shared Surroundings)) :
    outward (h ++ [(w, w')]) = outward h ++ [(outside w, outside w')] := List.map_append ..

theorem Spares.same (h : s.Spares c w w') : s.gateBeside w' = s.gateBeside w := by
  cases h with
  | beside _ same => exact same
  | reset =>
    rw [Chain.reset, Task.run]
    split
    · rfl
    · rfl

/-! ### Steps among steps -/

theorem Claimed.append_left (claimed : s.Claimed h) (h' : History Surroundings) :
    s.Claimed (h' ++ h) := by
  obtain ⟨p, hp, claims⟩ := claimed
  exact ⟨p, List.mem_append_right h' hp, claims⟩

theorem Since.append_left {h₁ : History Surroundings} (since : s.Since h h₁)
    (h' : History Surroundings) : s.Since (h' ++ h) h₁ := by
  obtain ⟨h₀, p, rfl, claims⟩ := since
  exact ⟨h' ++ h₀, p, by simp, claims⟩

theorem Probes.append_left {resource : String} {h₁ : History Surroundings}
    {u : Task Surroundings (Except Error Token)} (probes : s.Probes r h resource h₁ u)
    (h' : History Surroundings) : s.Probes r (h' ++ h) resource h₁ u :=
  ⟨probes.imds, probes.valid, probes.since.append_left h', probes.leads⟩

theorem Transit.append_left {a b : Surroundings} (transit : Transit s h a b)
    (h' : History Surroundings) : Transit s (h' ++ h) a b := by
  cases transit with
  | stay same => exact .stay same
  | claim before after => exact .claim before after
  | settle claimed before after => exact .settle (claimed.append_left h') before after

/-! ### Calls of the chain -/

/-- **A call of the chain** that has claimed the probe has left the gate tested, and the source at
work for it is on its course, with the steps that it has taken since it began. -/
structure Engaged (s : ManagedIdentitySource) (c : Chain Surroundings) (g : ProbeState)
    (x : Chain.Call Surroundings) : Prop where
  tested : s.Claimed (outward x.history) → g ≠ untested
  works : ∀ {i : Nat} {u : Task Surroundings (Except Error Token)},
    (c.position x).source? = some (i, u) → ∃ h₀ h₁, outward x.history = h₀ ++ h₁ ∧
    Course s x.order g h₁ u

theorem course_of_mem (among : s.Among c) {source : Source Surroundings}
    (here : source ∈ c.sources) (r : Request) (g : ProbeState) :
    Course s r g [] (source.getToken r) := by
  rcases among source here with rfl | leaves
  · exact .starting not_claimed_nil
  · exact .beside not_claimed_nil (leaves r)

/-- **A call takes a step**: what it does to the gate is a transit. -/
theorem Engaged.next (among : s.Among c) (engaged : Engaged s c (s.gateBeside w) x)
    (next : ((c.position x).task c x.order).next? w = some (w', t)) :
    Engaged s c (s.gateBeside w') (x.after w w' t) ∧
      Transit s (outward x.history) w.state.sources w'.state.sources := by
  rcases outside_next? next with ⟨i, u, u', hp, hu, hq⟩ | ⟨same, begins⟩
  · obtain ⟨h₀, h₁, steps, course⟩ := engaged.works hp
    obtain ⟨course', transit⟩ := Course.next (w := outside w) course hu
    refine ⟨⟨fun claimed => ?_, fun hi => ?_⟩, steps ▸ transit.append_left h₀⟩
    · rw [Caller.after, outward_snoc] at claimed
      rcases of_claimed_snoc claimed with old | ⟨-, after⟩
      · exact transit.onward.ne_untested (engaged.tested old)
      · rw [show s.gateBeside w' = inFlight from after]
        exact nofun
    · rw [position_after, hq] at hi
      cases hi
      exact ⟨h₀, h₁ ++ [(outside w, outside w')], by rw [Caller.after, outward_snoc, steps,
        List.append_assoc], course'⟩
  · have stays : s.gateBeside w' = s.gateBeside w := congrArg s.gateIn same
    refine ⟨⟨fun claimed => ?_, fun hi => ?_⟩, .stay stays⟩
    · rw [Caller.after, outward_snoc] at claimed
      rcases of_claimed_snoc claimed with old | ⟨before, after⟩
      · rw [stays]
        exact engaged.tested old
      · rw [show s.gateIn (outside w').state =
          s.gateIn (outside w).state from stays, before] at after
        cases after
    · rw [position_after] at hi
      obtain ⟨source, here, rfl⟩ := begins hi
      exact ⟨_, [], (List.append_nil _).symm, course_of_mem among here _ _⟩

/-- **A call that is dropped** does no more to the gate than a step. -/
theorem Engaged.drop (engaged : Engaged s c (s.gateBeside w) x)
    (dropped : ((c.position x).task c x.order).drop? w = some w') :
    Transit s (outward x.history) w.state.sources w'.state.sources := by
  rcases outside_drop? dropped with ⟨i, u, hp, hu⟩ | same
  · obtain ⟨h₀, h₁, steps, course⟩ := engaged.works hp
    have transit := Course.drop (w := outside w) course hu
    exact steps ▸ transit.append_left h₀
  · exact .stay (congrArg s.gateIn same)

/-- **A step of another call** leaves a call as it is. -/
theorem Engaged.beside_transit (engaged : Engaged s c (s.gateBeside w) x)
    (transit : Transit s h w.state.sources w'.state.sources)
    (apart : ¬ (s.Claimed h ∧ s.Claimed (outward x.history))) :
    Engaged s c (s.gateBeside w') x where
  tested claimed := transit.onward.ne_untested (engaged.tested claimed)
  works hi := by
    obtain ⟨h₀, h₁, steps, course⟩ := engaged.works hi
    refine ⟨h₀, h₁, steps, course.beside_transit transit fun ⟨claimed, claimed'⟩ =>
      apart ⟨claimed, ?_⟩⟩
    rw [steps]
    exact claimed'.append_left h₀

/-- Every call is where its steps have led it and is engaged as they say, and only one of them
claims the probe. -/
def engagedPact (s : ManagedIdentitySource) (c : Chain Surroundings) :
    Pact Request (Shared Surroundings) (Except Error Token) where
  world _ := True
  caller w x := x.rest = (c.position x).task c x.order ∧ Engaged s c (s.gateBeside w) x
  apart x y := ¬ (s.Claimed (outward x.history) ∧ s.Claimed (outward y.history))

theorem engagedPact_kept (among : s.Among c) : (s.engagedPact c).Kept c.getToken (s.Spares c) where
  symm ha := fun ⟨hx, hy⟩ => ha ⟨hy, hx⟩
  calls _ _ := ⟨rfl, fun claimed => absurd claimed not_claimed_nil, nofun⟩
  callsApart _ := fun _ ⟨claimed, _⟩ => not_claimed_nil claimed
  goes {w w' x t} _ hx next := by
    obtain ⟨hrest, engaged⟩ := hx
    rw [hrest] at next
    refine ⟨trivial, ?_, (engaged.next among next).1⟩
    show t = (c.position (x.after w w' t)).task c x.order
    rw [position_after]
    exact (next?_task next).1
  besideGo {w w' x y t} _ hx hy apart next := by
    obtain ⟨hrest, engaged⟩ := hx
    rw [hrest] at next
    refine ⟨⟨hy.1, hy.2.beside_transit (engaged.next among next).2 apart⟩,
      fun ⟨claimed, claimed'⟩ => ?_⟩
    rw [Caller.after, outward_snoc] at claimed
    rcases of_claimed_snoc claimed with old | ⟨before, -⟩
    · exact apart ⟨old, claimed'⟩
    · exact hy.2.tested claimed' before
  drops _ _ _ := trivial
  besideDrop _ hx hy apart dropped := by
    rw [hx.1] at dropped
    exact ⟨hy.1, hy.2.beside_transit (hx.2.drop dropped) apart⟩
  around _ _ := trivial
  besideAround _ hx spares :=
    ⟨hx.1, hx.2.beside_transit (h := []) (.stay spares.same) fun ⟨claimed, _⟩ =>
      not_claimed_nil claimed⟩

/-- **A move** of the calls takes the gate on, if it moves at all. -/
theorem onward_of_step (among : s.Among c) {m : Crowd.Move Request}
    {g g' : Chain.Calls Surroundings} (holds : (s.engagedPact c).Holds g)
    (step : Crowd.Step c.getToken (s.Spares c) m g g') :
    Onward (s.gateBeside g.world) (s.gateBeside g'.world) := by
  cases step with
  | call free => exact .stay _
  | go here next =>
    obtain ⟨hrest, engaged⟩ := holds.caller here
    rw [hrest] at next
    exact (engaged.next among next).2.onward
  | drop here dropped =>
    obtain ⟨hrest, engaged⟩ := holds.caller here
    rw [hrest] at dropped
    exact (engaged.drop dropped).onward
  | around spares =>
    rw [show s.gateBeside _ = _ from spares.same]
    exact .stay _

/-! ### The move that closes the gate -/

/-- With this move a call of the chain that had claimed the probe closed the gate, and its attempt
was spent. -/
def Closes (s : ManagedIdentitySource)
    (e : Crowd.Event Request (Shared Surroundings) (Except Error Token)) (reason : String) : Prop :=
  s.gateBeside e.before.world = inFlight ∧ s.gateBeside e.after.world = .failed reason ∧
    ∃ id x resource h₁ u, (e.move = .go id ∨ e.move = .drop id) ∧ e.before.callers id = some x ∧
      s.Probes x.order (outward x.history) resource h₁ u ∧ s.Spent resource x.order h₁

/-- **The move that closes the gate** is one of the call that makes the probe. -/
theorem closes_of_step {m : Crowd.Move Request} {g g' : Chain.Calls Surroundings} {reason : String}
    (holds : (s.engagedPact c).Holds g) (step : Crowd.Step c.getToken (s.Spares c) m g g')
    (flying : s.gateBeside g.world = inFlight) (closed : s.gateBeside g'.world = .failed reason) :
    s.Closes ⟨m, g, g'⟩ reason := by
  -- What happens outside the chain is all that can close the gate.
  have changes : ∀ {w : World (Shared Surroundings)}, s.gateBeside w = .failed reason →
      w.state.sources ≠ g.world.state.sources := by
    intro w closed same
    rw [gateBeside, same, show s.gateIn g.world.state.sources = inFlight from flying] at closed
    cases closed
  refine ⟨flying, closed, ?_⟩
  cases step with
  | call free => exact absurd rfl (changes closed)
  | @go _ id x w t here next =>
    obtain ⟨hrest, engaged⟩ := holds.caller here
    rw [hrest] at next
    rcases outside_next? next with ⟨i, u, u', hp, hu, -⟩ | ⟨same, -⟩
    · obtain ⟨h₀, h₁, steps, course⟩ := engaged.works hp
      obtain ⟨resource, h₂, u₀, probes, ended⟩ :=
        Course.closes_next (w := outside g.world) course hu flying closed
      refine ⟨id, x, resource, h₂, u₀, .inl rfl, here, steps ▸ probes.append_left h₀, ?_⟩
      refine spent_of_leads probes.imds probes.leads (ended.imp ?_ .inl)
      rintro ⟨result, rfl, -⟩
      exact ⟨result, rfl⟩
    · exact absurd same (changes closed)
  | @drop _ id x w here dropped =>
    obtain ⟨hrest, engaged⟩ := holds.caller here
    rw [hrest] at dropped
    rcases outside_drop? dropped with ⟨i, u, hp, hu⟩ | same
    · obtain ⟨h₀, h₁, steps, course⟩ := engaged.works hp
      obtain ⟨resource, h₂, u₀, w₁, probes, waits⟩ :=
        Course.closes_drop (w := outside g.world) course hu flying closed
      refine ⟨id, x, resource, h₂, u₀, .inr rfl, here, steps ▸ probes.append_left h₀, ?_⟩
      exact spent_of_leads probes.imds probes.leads (.inr (.inr ⟨_, _, waits⟩))
    · exact absurd same (changes closed)
  | around spares =>
    rw [show s.gateBeside _ = _ from spares.same, flying] at closed
    cases closed

/-- **Behind a closed gate** there is a move that closed it: of the call that had claimed the probe,
and whose attempt was spent. The induction is on the run: a gate that was closed before stays so. -/
theorem closed_of_run (s : ManagedIdentitySource) (c : Chain Surroundings) (among : s.Among c)
    {w : World (Shared Surroundings)} (fresh : s.gateBeside w = untested)
    {l : List (Crowd.Event Request (Shared Surroundings) (Except Error Token))}
    {g : Chain.Calls Surroundings} (run : Crowd.Run c.getToken (s.Spares c) (.empty w) l g)
    {reason : String} (closed : s.gateBeside g.world = .failed reason) :
    ∃ e ∈ l, s.Closes e reason := by
  induction run with
  | nil =>
    rw [show s.gateBeside (Crowd.empty w).world = untested from fresh] at closed
    cases closed
  | @snoc g₁ g₂ m l before step ih =>
    have holds :=
      Pact.holds_of_reaches (engagedPact_kept among) (Pact.holds_empty trivial) before.reaches
    have onward := onward_of_step among holds step
    generalize hg : s.gateBeside g₁.world = gate at onward
    rw [closed] at onward
    cases onward with
    | stay =>
      obtain ⟨e, he, closes⟩ := ih hg
      exact ⟨e, List.mem_append_left _ he, closes⟩
    | settle =>
      exact ⟨_, List.mem_append_right l (List.mem_singleton_self _),
        closes_of_step holds step hg closed⟩

/-- A source that takes its time before it says that it does not apply. -/
def late : RehearsedSource := ⟨"late", .explicit, 0⟩

/-- The managed identity after such a source. -/
def afterLate (s : ManagedIdentitySource) : Chain Surroundings :=
  ⟨[Member.rehearsed late, .managedIdentity s].map Member.source⟩

theorem among_afterLate (s : ManagedIdentitySource) : s.Among s.afterLate := by
  refine among_of_members fun m here => ?_
  rcases List.mem_pair.mp here with rfl | rfl
  · exact .inr nofun
  · exact .inl rfl

/-- Nobody has called, and nobody will answer on the wire. -/
def outset : World (Shared Surroundings) :=
  .initial ⟨0⟩ (.ofCapacity 8) ⟨.initial, { wilderness.state with
    rehearsals := fun _ => [(⟨5⟩, .error (.unavailable "late" "not here"))] }⟩

/-- The calls of this chain while the first source is at work for one of them. -/
def whileLate (s : ManagedIdentitySource) : Chain.Calls Surroundings :=
  Crowd.play s.afterLate.getToken (.call 0 ⟨["a"], none, 0⟩ ::
    List.replicate 8 (.go 0)) (.empty outset)

/-- The calls some steps after the first source has answered in the given world. -/
def onceLate (s : ManagedIdentitySource) (n : Nat) (w : World (Shared Surroundings)) :
    Chain.Calls Surroundings :=
  Crowd.play s.afterLate.getToken (List.replicate n (.go 0)) { s.whileLate with world := w }

theorem reaches_onceLate (s : ManagedIdentitySource) (n : Nat) {w : World (Shared Surroundings)}
    (waits : Crowd.play? s.afterLate.getToken
      (.call 0 ⟨["a"], none, 0⟩ :: List.replicate 8 (.go 0)) (.empty outset) = some s.whileLate)
    (spares : s.Spares s.afterLate s.whileLate.world w)
    (goes : Crowd.play? s.afterLate.getToken
      (List.replicate n (.go 0)) { s.whileLate with world := w } = some (s.onceLate n w)) :
    Crowd.Reaches s.afterLate.getToken (s.Spares s.afterLate) (.empty outset) (s.onceLate n w) :=
  (Crowd.reaches_of_play? waits).trans (.head ⟨_, .around spares⟩ (Crowd.reaches_of_play? goes))

/-- The message was sent and nobody has answered. -/
theorem closed_of_run_afterLate :
    ∃ (l : List (Crowd.Event Request (Shared Surroundings) (Except Error Token)))
      (g : Chain.Calls Surroundings) (reason : String),
      Crowd.Run stranded.afterLate.getToken
        (stranded.Spares stranded.afterLate) (.empty outset) l g ∧
      stranded.gateBeside g.world = .failed reason ∧ g.world.state.sources.wire.sent.length = 1 ∧
      ∃ e ∈ l, stranded.Closes e reason := by
  obtain ⟨l, run⟩ := (reaches_onceLate stranded 10 (w := stranded.whileLate.world.advance ⟨6⟩) rfl
    (.beside rfl rfl) rfl).exists_run
  exact ⟨l, _, _, run, rfl, rfl, closed_of_run stranded _ (among_afterLate stranded) rfl run rfl⟩

/-- The gate is closed and nothing has been sent. -/
def Unsent (s : ManagedIdentitySource) (g : Chain.Calls Surroundings) : Prop :=
  Crowd.Reaches s.afterLate.getToken (s.Spares s.afterLate) (.empty outset) g ∧
    (∃ reason, s.gateBeside g.world = .failed reason) ∧ g.world.state.sources.wire.sent = []

/-- The managed identity with a time limit that no clock can show. -/
def unlimited : ManagedIdentitySource :=
  { stranded with probeTimeout := .ofSeconds 9223372036854775808 }

/-- **Closed with nothing sent**: the request is cancelled while the first source is at work for it,
and the scan goes on to the managed identity all the same. The same comes of a time limit whose end
no clock can show. -/
theorem closed_unsent :
    Unsent stranded (stranded.onceLate 9 ((stranded.whileLate.world.cancel 0).advance ⟨6⟩)) ∧
      Unsent unlimited (unlimited.onceLate 9 (unlimited.whileLate.world.advance ⟨6⟩)) := by
  refine ⟨⟨?_, ⟨_, rfl⟩, rfl⟩, ⟨?_, ⟨_, rfl⟩, rfl⟩⟩
  · exact reaches_onceLate stranded 9 rfl (.beside rfl rfl) rfl
  · exact reaches_onceLate unlimited 9 rfl (.beside rfl rfl) rfl

end TokenChain.ManagedIdentitySource
