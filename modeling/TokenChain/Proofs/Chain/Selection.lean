import TokenChain.Proofs.Chain.Turn
import TokenChain.Proofs.Schedule

/-! # Calls at the same time

Any number of calls work with one chain, in any order of their steps; each may be dropped where it
waits, and the chain may be reset at any time (`Around.reset`). What holds in every state that such
a crowd reaches is `Orderly`, how a move may change the selection is `Change`, and what holds
besides if nobody resets the chain is `Loyal`. `selection_of_reaches` says all three,
`loyal_of_runCalls` says it of the calls of a session.

The lock of the chain is the first ticket: the call that holds it has its turn. -/

namespace TokenChain.Chain

open TokenChain.Task TokenChain.Shared

variable {ρ : Type}

/-- A call of a chain among others. -/
abbrev Call (ρ : Type) := Caller Request (Shared ρ) (Except Error Token)

/-- The calls of a chain. -/
abbrev Calls (ρ : Type) := Crowd Request (Shared ρ) (Except Error Token)

/-- Where a call is. -/
def position (c : Chain ρ) (x : Call ρ) : Position ρ := Position.of c x.order x.history

theorem position_after (c : Chain ρ) (x : Call ρ) (w w' : World (Shared ρ))
    (t : Task (Shared ρ) (Except Error Token)) :
    c.position (x.after w w' t) = (c.position x).follow c x.order w :=
  Position.of_snoc c x.order x.history w w'

/-- The world changes around the chain in any way: the clock, the log, cancellations, the state of
the sources. -/
def Beside (w w' : World (Shared ρ)) : Prop := w'.state.chain = w.state.chain

/-- The world changes around the chain, or the chain is reset. -/
inductive Around (c : Chain ρ) (w : World (Shared ρ)) : World (Shared ρ) → Prop
  | beside {w' : World (Shared ρ)} (h : Beside w w') : Around c w w'
  | reset : Around c w (c.reset.run w).1

theorem run_reset (c : Chain ρ) (w : World (Shared ρ)) :
    (c.reset.run w).1.state.chain = w.state.chain.forget := by
  rw [reset, Task.run]
  split
  · rfl
  · rfl

/-! ### The pact of the calls -/

/-- Every call is where its steps have led it, and what its position stands for holds. -/
def pact (c : Chain ρ) : Pact Request (Shared ρ) (Except Error Token) where
  world w := Sound c w.state.chain
  caller w x := x.rest = (c.position x).task c x.order ∧ Fits c w.state.chain (c.position x)
  apart x y := Apart (c.position x) (c.position y)

theorem pact_kept (c : Chain ρ) : c.pact.Kept c.getToken c.Around where
  symm h := h.symm
  calls r _ := ⟨rfl, fits_of_idle rfl rfl⟩
  callsApart _ := nofun
  goes {w w' x t} sound hx next := by
    obtain ⟨hrest, fits⟩ := hx
    rw [hrest] at next
    obtain ⟨ht, hw⟩ := next?_task next
    show Sound c _ ∧ t = (c.position (x.after w w' t)).task c x.order ∧
      Fits c _ (c.position (x.after w w' t))
    rw [hw, position_after]
    exact ⟨sound.effect fits, ht, fits.next (next_follow _)⟩
  besideGo {w w' x y t} sound hx hy apart next := by
    obtain ⟨hrest, fits⟩ := hx
    rw [hrest] at next
    obtain ⟨-, hw⟩ := next?_task next
    show (_ ∧ Fits c _ _) ∧ Apart (c.position (x.after w w' t)) _
    rw [hw, position_after]
    exact ⟨⟨hy.1, fits.beside hy.2 apart⟩, Apart.next sound hy.2 apart (next_follow _)⟩
  drops {w w' x} sound hx dropped := by
    rw [hx.1] at dropped
    show Sound c _
    rw [drop?_task dropped]
    exact sound.release _
  besideDrop {w w' x y} sound hx hy apart dropped := by
    rw [hx.1] at dropped
    show _ ∧ Fits c _ _
    rw [drop?_task dropped]
    exact ⟨hy.1, hy.2.besideRelease apart⟩
  around {w w'} sound h := by
    show Sound c _
    cases h with
    | beside h =>
      rw [show w'.state.chain = w.state.chain from h]
      exact sound
    | reset =>
      rw [run_reset]
      exact sound.forget
  besideAround {w w' x} _ hx h := by
    show _ ∧ Fits c _ _
    cases h with
    | beside h =>
      rw [show w'.state.chain = w.state.chain from h]
      exact hx
    | reset =>
      rw [run_reset]
      exact ⟨hx.1, hx.2.forget⟩

theorem sound_of_initial {c : Chain ρ} {s : ChainState} (h : s = .initial) : Sound c s := by
  subst h
  exact ⟨nofun, nofun, nofun, nofun⟩

/-! ### In every state -/

/-- **What holds in every state** of a crowd of calls. -/
structure Orderly (c : Chain ρ) (s : Calls ρ) : Prop where
  /-- At most one call goes through the sources. -/
  alone : ∀ {i j : Nat} {x y : Call ρ}, s.callers i = some x → s.callers j = some y →
    (c.position x).inLoop = true → (c.position y).inLoop = true → i = j
  /-- It holds the first ticket. -/
  locked : ∀ {i : Nat} {x : Call ρ}, s.callers i = some x → (c.position x).inLoop = true →
    ∃ ticket, (c.position x).ticket? = some ticket ∧ s.world.state.chain.turns.isFirst ticket = true
  /-- And nothing is selected meanwhile. -/
  idle : ∀ {i : Nat} {x : Call ρ}, s.callers i = some x → (c.position x).inLoop = true →
    s.world.state.chain.selected = none
  /-- What is selected is a source of the chain that is not ruled out, with the record of the scan
  that selected it. -/
  selected : ∀ k, s.world.state.chain.selected = some k → k < c.sources.length ∧
    s.world.state.chain.reason? k = none ∧ Selects s.world.state.chain.lastScan k

theorem orderly_of_holds {c : Chain ρ} {s : Calls ρ} (h : c.pact.Holds s) : c.Orderly s where
  alone {i j x y} hx hy loop loop' := by
    by_contra hne
    have := (h.caller hx).2.not_hasTurn (h.caller hy).2 (h.apart hx hy hne)
        (Position.hasTurn_of_inLoop loop)
    rw [Position.hasTurn_of_inLoop loop'] at this
    cases this
  locked {i x} hx loop := by
    have turn := Position.hasTurn_of_inLoop loop
    obtain ⟨t, ht⟩ := Position.ticket?_of_hasTurn turn
    exact ⟨t, ht, by simp [Turns.isFirst, (h.caller hx).2.turn turn, ht]⟩
  idle hx loop := (h.caller hx).2.selected loop
  selected k hk := ⟨h.world.valid k hk, h.world.inPlay k hk, h.world.record k hk⟩

/-! ### In every move -/

/-- **How a move may change the selection.** -/
inductive Change (c : Chain ρ) (m : Crowd.Move Request) (s s' : Calls ρ) : Prop
  /-- Not at all; and while a source is selected, the record of the scan that selected it stays. -/
  | none (selected : s'.world.state.chain.selected = s.world.state.chain.selected)
      (record : s.world.state.chain.selected ≠ none → s'.world.state.chain.lastScan =
        s.world.state.chain.lastScan)
  /-- The call that holds the first ticket got a token in its scan: it selects the source and puts
  its record down. -/
  | select {id : Nat} {x : Call ρ} {ticket k : Nat} {f : Findings} {token : Token}
      (move : m = .go id) (here : s.callers id = some x)
      (at_ : c.position x = .trying ticket k f (.done (.ok token)))
      (turn : s.world.state.chain.turns.isFirst ticket = true)
      (before : s.world.state.chain.selected = Option.none)
      (after : s'.world.state.chain.selected = some k)
      (record : s'.world.state.chain.lastScan = f.succeed k token)
  /-- The chain is reset. -/
  | reset {k : Nat} (move : m = .around) (reset : s'.world = (c.reset.run s.world).1)
      (before : s.world.state.chain.selected = some k)
      (after : s'.world.state.chain.selected = Option.none)

theorem selected_effect {c : Chain ρ} {s : ChainState} {p : Position ρ} (fits : Fits c s p) :
    (∃ ticket k f token, p = .trying ticket k f (.done (.ok token))) ∨
      ((p.effect c s).selected = s.selected ∧
        (s.selected ≠ none → (p.effect c s).lastScan = s.lastScan)) := by
  cases p with
  | scanning ticket i f =>
    rw [Position.effect]
    split_ifs with hi
    · exact .inr ⟨rfl, fun _ => rfl⟩
    · exact .inr ⟨rfl, fun h => absurd fits.scan.1 h⟩
  | trying ticket i f u =>
    cases u with
    | done x =>
      cases x with
      | ok token => exact .inl ⟨ticket, i, f, token, rfl⟩
      | error e =>
        obtain ⟨selected, lastScan, -, -⟩ := noteFailure_eq i e s
        exact .inr ⟨selected, fun _ => lastScan⟩
    | crash | look | note | step | wait => exact .inr ⟨rfl, fun _ => rfl⟩
  | arriving | knocking | entering | queued | quitting | admitted | yielding | skipping | closing
  | asking | ended | lost => exact .inr ⟨rfl, fun _ => rfl⟩

theorem selected_release (s : ChainState) (p : Position ρ) :
    (p.release s).selected = s.selected ∧ (p.release s).lastScan = s.lastScan := by
  rw [Position.release]
  cases p.ticket? <;> exact ⟨rfl, rfl⟩

theorem reason?_release (s : ChainState) (p : Position ρ) (k : Nat) :
    (p.release s).reason? k = s.reason? k := by
  rw [Position.release]
  cases p.ticket? <;> rfl

theorem change_of_step {c : Chain ρ} {m : Crowd.Move Request} {s s' : Calls ρ} (h : c.pact.Holds s)
    (step : Crowd.Step c.getToken c.Around m s s') : c.Change m s s' := by
  cases step with
  | call free => exact .none rfl fun _ => rfl
  | @go _ id x w t here next =>
    obtain ⟨hrest, fits⟩ := h.caller here
    rw [hrest] at next
    have hw := (next?_task next).2
    rcases selected_effect fits with ⟨ticket, k, f, token, hp⟩ | ⟨selected, record⟩
    · rw [hp] at fits
      have first : s.world.state.chain.turns.isFirst ticket = true := by
        rw [Turns.isFirst, fits.turn rfl]
        exact beq_self_eq_true _
      rw [hp] at hw
      refine .select rfl here hp first fits.scan.1 ?_ ?_
      · rw [Crowd.put_world, hw]
        rfl
      · rw [Crowd.put_world, hw]
        rfl
    · refine .none ?_ ?_
      · rw [Crowd.put_world, hw, selected]
      · rw [Crowd.put_world, hw]
        exact record
  | @drop _ id x w here dropped =>
    rw [(h.caller here).1] at dropped
    obtain ⟨selected, record⟩ := selected_release s.world.state.chain (c.position x)
    refine .none ?_ fun _ => ?_
    · rw [Crowd.put_world, drop?_task dropped, selected]
    · rw [Crowd.put_world, drop?_task dropped, record]
  | @around _ w hw =>
    cases hw with
    | beside hw =>
      have same : w.state.chain = s.world.state.chain := hw
      exact .none (by rw [same]) fun _ => by rw [same]
    | reset =>
      cases hsel : s.world.state.chain.selected with
      | none => exact .none (by rw [hsel, run_reset]; rfl) fun h => absurd hsel h
      | some k => exact .reset rfl rfl hsel (by rw [run_reset]; rfl)

/-! ### Without a reset -/

/-- The source from which the value of a call comes or will come. -/
def Position.origin? : Position ρ → Option Nat
  | yielding _ i | asking i _ => some i
  | closing _ source? _ | ended source? _ => source?
  | _ => none

/-- A selection outlasts every step. -/
theorem selected_effect_of_some {c : Chain ρ} {s : ChainState} {p : Position ρ}
    {k : Nat} (fits : Fits c s p) (h : s.selected = some k) : (p.effect c s).selected = some k := by
  rcases selected_effect fits with ⟨ticket, i, f, token, rfl⟩ | ⟨same, -⟩
  · rw [fits.scan.1] at h
    cases h
  · rw [same, h]

/-- A call whose value comes from a source has it from the selected one. -/
theorem selected_next {c : Chain ρ} {r : Request} {w : World (Shared ρ)}
    {p q : Position ρ} {k : Nat} (fits : Fits c w.state.chain p)
    (loyal : ∀ i, p.origin? = some i → w.state.chain.selected = some i) (next : p.Next c r w q)
    (h : q.origin? = some k) : (p.effect c w.state.chain).selected = some k := by
  have keeps : p.origin? = some k → (p.effect c w.state.chain).selected = some k :=
    fun hp => selected_effect_of_some fits (loyal k hp)
  cases next with
  | ask selected | yield selected =>
    cases h
    exact selected
  | win => exact h
  | askAfter | close | answer | stay => exact keeps h
  | miss | knock | refuse | enter | queue | cancel | advance | expire | quit | scan | missAfter
  | exhaust | skip | attempt | goOn | fail | breakDown | work | gone => cases h

/-- What a call is loyal to: its value comes from the selected source. -/
def loyalPact (c : Chain ρ) : Pact Request (Shared ρ) (Except Error Token) where
  world := c.pact.world
  caller w x :=
    c.pact.caller w x ∧ ∀ i, (c.position x).origin? = some i → w.state.chain.selected = some i
  apart := c.pact.apart

theorem loyalPact_kept (c : Chain ρ) : c.loyalPact.Kept c.getToken Beside where
  symm h := c.pact_kept.symm h
  calls r h := ⟨c.pact_kept.calls r h, nofun⟩
  callsApart r := fun h => c.pact_kept.callsApart r h.1
  goes {w w' x t} sound hx next := by
    obtain ⟨sound', hx'⟩ := c.pact_kept.goes sound hx.1 next
    refine ⟨sound', hx', fun i hi => ?_⟩
    obtain ⟨⟨hrest, fits⟩, loyal⟩ := hx
    rw [hrest] at next
    rw [position_after] at hi
    rw [(next?_task next).2]
    exact selected_next fits loyal (next_follow _) hi
  besideGo {w w' x y t} sound hx hy apart next := by
    obtain ⟨hy', apart'⟩ := c.pact_kept.besideGo sound hx.1 hy.1 apart next
    refine ⟨⟨hy', fun i hi => ?_⟩, apart'⟩
    obtain ⟨hrest, fits⟩ := hx.1
    rw [hrest] at next
    rw [(next?_task next).2]
    exact selected_effect_of_some fits (hy.2 i hi)
  drops sound hx dropped := c.pact_kept.drops sound hx.1 dropped
  besideDrop {w w' x y} sound hx hy apart dropped := by
    refine ⟨c.pact_kept.besideDrop sound hx.1 hy.1 apart dropped, fun i hi => ?_⟩
    rw [hx.1.1] at dropped
    rw [drop?_task dropped, (selected_release _ _).1]
    exact hy.2 i hi
  around sound h := c.pact_kept.around sound (.beside h)
  besideAround {w w' x} sound hx h := by
    refine ⟨c.pact_kept.besideAround sound hx.1 (.beside h), fun i hi => ?_⟩
    rw [show w'.state.chain = w.state.chain from h]
    exact hx.2 i hi

/-! ### Where a token comes from -/

/-- In the course of some steps of a call, source `k` came to its end with the token. -/
def Issued (c : Chain ρ) (r : Request) (h : History (Shared ρ)) (k : Nat) (token : Token) : Prop :=
  ∃ h₁ h₂, h = h₁ ++ h₂ ∧ (Position.of c r h₁).source? = some (k, .done (.ok token))

theorem Issued.append {c : Chain ρ} {r : Request} {h : History (Shared ρ)} {k : Nat} {token : Token}
    (hi : Issued c r h k token) (h' : History (Shared ρ)) : Issued c r (h ++ h') k token := by
  obtain ⟨h₁, h₂, rfl, hs⟩ := hi
  exact ⟨h₁, h₂ ++ h', List.append_assoc .., hs⟩

theorem of_next_closing {c : Chain ρ} {r : Request} {w : World (Shared ρ)}
    {p : Position ρ} {ticket : Nat} {source? : Option Nat} {token : Token}
    (next : p.Next c r w (.closing ticket source? (.ok token))) :
    ∃ k, source? = some k ∧ p.source? = some (k, .done (.ok token)) := by
  cases next with
  | @win _ i => exact ⟨i, rfl, rfl⟩

theorem of_next_ended {c : Chain ρ} {r : Request} {w : World (Shared ρ)} {p : Position ρ}
    {source? : Option Nat} {token : Token} (next : p.Next c r w (.ended source? (.ok token))) :
    (∃ ticket, p = .closing ticket source? (.ok token)) ∨ p = .ended source? (.ok token) := by
  cases next with
  | @close ticket => exact .inl ⟨ticket, rfl⟩
  | stay => exact .inr rfl

/-- The induction over the steps of a call: a token that a call is about to end with was issued by a
source. -/
theorem issued_of_closing (c : Chain ρ) (r : Request) {token : Token} (h : History (Shared ρ)) :
    (∀ {ticket source?}, Position.of c r h = .closing ticket source? (.ok token) →
      ∃ k, source? = some k ∧ Issued c r h k token) ∧
    ∀ {source?}, Position.of c r h = .ended source? (.ok token) →
      ∃ k, source? = some k ∧ Issued c r h k token := by
  induction h using List.reverseRecOn with
  | nil => exact ⟨nofun, nofun⟩
  | append_singleton h step ih =>
    obtain ⟨w, w'⟩ := step
    have next : (Position.of c r h).Next c r w (Position.of c r (h ++ [(w, w')])) := by
      rw [Position.of_snoc]
      exact next_follow _
    refine ⟨fun he => ?_, fun he => ?_⟩
    · obtain ⟨k, hk, hs⟩ := of_next_closing (he ▸ next)
      exact ⟨k, hk, h, _, rfl, hs⟩
    · rcases of_next_ended (he ▸ next) with ⟨ticket, hp⟩ | hp
      · obtain ⟨k, hk, hi⟩ := ih.1 hp
        exact ⟨k, hk, hi.append _⟩
      · obtain ⟨k, hk, hi⟩ := ih.2 hp
        exact ⟨k, hk, hi.append _⟩

theorem inTurn_ne_done (ticket : Nat) (t : Task (Shared ρ) (Except Error Token))
    (x : Except Error Token) : inTurn ticket t ≠ .done x := by
  cases t <;> exact nofun

theorem of_task_eq_done {c : Chain ρ} {r : Request} {p : Position ρ} {x : Except Error Token}
    (h : p.task c r = .done x) :
    (∃ i, p = .asking i (.done x)) ∨ ∃ source?, p = .ended source? x := by
  cases p with
  | scanning | skipping | trying => exact absurd h (inTurn_ne_done _ _ _)
  | asking i u =>
    cases u with
    | done y =>
      cases h
      exact .inl ⟨i, rfl⟩
    | crash | look | note | step | wait => cases h
  | ended source? x =>
    cases h
    exact .inr ⟨source?, rfl⟩
  | arriving | knocking | entering | queued | quitting | admitted | yielding | closing | lost =>
    cases h

theorem issued_of_rest {c : Chain ρ} {x : Call ρ} {token : Token}
    (h : (c.position x).task c x.order = .done (.ok token)) :
    ∃ k, (c.position x).origin? = some k ∧ Issued c x.order x.history k token := by
  rcases of_task_eq_done h with ⟨i, hp⟩ | ⟨source?, hp⟩
  · refine ⟨i, by rw [hp]; rfl, x.history, [], (List.append_nil _).symm, ?_⟩
    show (c.position x).source? = _
    rw [hp]
    rfl
  · obtain ⟨k, hk, hi⟩ := (issued_of_closing c x.order x.history).2 hp
    exact ⟨k, by rw [hp]; exact hk, hi⟩

/-- **What holds besides if nobody resets the chain.** -/
structure Loyal (c : Chain ρ) (s : Calls ρ) : Prop where
  /-- All calls that have ended with a token got it from the same source. -/
  one : ∃ k, ∀ {id : Nat} {x : Call ρ} {token : Token}, s.callers id = some x →
    x.rest = .done (.ok token) → Issued c x.order x.history k token
  /-- What is selected stays selected, and no other source is at work for a call from then on. -/
  only : ∀ k, s.world.state.chain.selected = some k → ∀ s', Crowd.Reaches c.getToken Beside s s' →
    s'.world.state.chain.selected = some k ∧
      ∀ {id i : Nat} {x : Call ρ} {u : Task ρ (Except Error Token)}, s'.callers id = some x →
        (c.position x).source? = some (i, u) → i = k

/-- **One move** without a reset leaves a selection as it is. -/
theorem selected_of_step {c : Chain ρ} {m : Crowd.Move Request} {s s' : Calls ρ} {k : Nat}
    (h : c.loyalPact.Holds s) (hk : s.world.state.chain.selected = some k)
    (step : Crowd.Step c.getToken Beside m s s') : s'.world.state.chain.selected = some k := by
  cases step with
  | call free => exact hk
  | @go _ id x w _ here next =>
    obtain ⟨hrest, fits⟩ := (h.caller here).1
    rw [hrest] at next
    rw [Crowd.put_world, (next?_task next).2]
    exact selected_effect_of_some fits hk
  | @drop _ id x w here dropped =>
    rw [(h.caller here).1.1] at dropped
    rw [Crowd.put_world, drop?_task dropped, (selected_release _ _).1]
    exact hk
  | @around _ w hw =>
    rw [show w.state.chain = s.world.state.chain from hw]
    exact hk

theorem selected_of_reaches {c : Chain ρ} {s s' : Calls ρ} {k : Nat} (h : c.loyalPact.Holds s)
    (hk : s.world.state.chain.selected = some k) (reaches : Crowd.Reaches c.getToken Beside s s') :
    s'.world.state.chain.selected = some k := by
  induction reaches with
  | refl => exact hk
  | tail before step ih =>
    obtain ⟨m, step⟩ := step
    exact selected_of_step (Pact.holds_of_reaches c.loyalPact_kept h before) ih step

theorem loyal_of_holds {c : Chain ρ} {s : Calls ρ} (h : c.loyalPact.Holds s) : c.Loyal s where
  one := by
    -- The source is the selected one; as long as nothing is selected, no call has ended with a
    -- token.
    refine ⟨s.world.state.chain.selected.getD 0, fun {id x token} hx hdone => ?_⟩
    obtain ⟨⟨hrest, -⟩, loyal⟩ := h.caller hx
    obtain ⟨k, hk, issued⟩ := issued_of_rest (hrest.symm.trans hdone)
    rw [loyal k hk]
    exact issued
  only k hk s' reaches := by
    have hk' := selected_of_reaches h hk reaches
    refine ⟨hk', fun {id i x u} hx hu => ?_⟩
    obtain ⟨⟨-, fits⟩, loyal⟩ := (Pact.holds_of_reaches c.loyalPact_kept h reaches).caller hx
    cases hp : c.position x with
    | asking j v =>
      rw [hp] at hu loyal
      cases hu
      have := loyal i rfl
      rw [hk'] at this
      exact (Option.some.inj this).symm
    | trying ticket j f v =>
      rw [hp] at fits
      rw [fits.scan.1] at hk'
      cases hk'
    | _ =>
      rw [hp] at hu
      cases hu

/-- **The calls of a session** that ask its chain, which has not been called before, get on in the
same way. -/
theorem loyal_of_runCalls (s : Session) (calls : List TokenChain.Call)
    (start : s.world.state.chain = .initial)
    (asks : ∀ p ∈ s.keyed calls, ∃ r, s.chain.getToken r = s.work p.1 p.2) : ∃ g :
    Calls Surroundings, g.world = (s.runCalls calls).1.world ∧ s.chain.Orderly g ∧ s.chain.Loyal g ∧
      ∀ x time, some ⟨.value x, time⟩ ∈ (s.runCalls calls).2 →
      ∃ id y, g.callers id = some y ∧ y.rest = .done x := by
  have beside : ∀ {w w' : World (Shared Surroundings)}, w'.state = w.state → Beside w w' :=
    fun same => congrArg Shared.chain same
  obtain ⟨g, reaches, world, values⟩ := s.reaches_runCalls calls asks beside
  have sound : Sound s.chain (s.arranged calls).state.chain :=
    sound_of_initial (by rw [s.arranged_state, start])
  have unreset : s.chain.loyalPact.Holds g :=
    Pact.holds_of_reaches s.chain.loyalPact_kept (Pact.holds_empty sound) reaches
  have holds : s.chain.pact.Holds g :=
    ⟨unreset.world, fun hx => (unreset.caller hx).1, unreset.apart⟩
  exact ⟨g, world, orderly_of_holds holds, loyal_of_holds unreset, values⟩

/-- **Calls at the same time**: whatever the order of their steps, who is dropped and when the chain
is reset, at most one call scans at a time and none does while a source is selected; only the scan
that holds the lock selects a source, with its record, and only a reset forgets it. Without a reset
all tokens come from one source, and once it is selected no other one is asked. -/
theorem selection_of_reaches (c : Chain ρ) {w : World (Shared ρ)}
    (start : w.state.chain = .initial) {s : Calls ρ}
    (reaches : Crowd.Reaches c.getToken c.Around (.empty w) s) : c.Orderly s ∧
      (∀ m s', Crowd.Step c.getToken c.Around m s s' → c.Change m s s') ∧
      (Crowd.Reaches c.getToken Beside (.empty w) s → c.Loyal s) := by
  have sound : Sound c w.state.chain := sound_of_initial start
  have holds : c.pact.Holds s := Pact.holds_of_reaches c.pact_kept (Pact.holds_empty sound) reaches
  refine ⟨orderly_of_holds holds, fun m s' step => change_of_step holds step, fun unreset => ?_⟩
  exact loyal_of_holds (Pact.holds_of_reaches c.loyalPact_kept (Pact.holds_empty sound) unreset)

/-- Two calls that both find nothing selected; the second one waits for the first one's scan. -/
def twoCalls : List (Crowd.Move Request) :=
  [.call 0 ⟨[], none, 0⟩, .call 1 ⟨[], none, 0⟩, .go 0, .go 1, .go 0, .go 0, .go 1, .go 1] ++
    List.replicate 7 (.go 0) ++ List.replicate 3 (.go 1)

theorem selection_of_reaches_twoCalls :
    ∃ s : Calls Unit, Crowd.Reaches absentThenReady.getToken absentThenReady.Around
        (.empty (.initial ⟨0⟩ (.ofCapacity 8) ⟨.initial, ()⟩)) s ∧
      s.world.state.chain.selected = some 1 ∧ s.world.state.chain.turns.waiting = [] ∧
      absentThenReady.Orderly s ∧ absentThenReady.Loyal s := by
  have played : Crowd.play? absentThenReady.getToken twoCalls
      (.empty (.initial ⟨0⟩ (.ofCapacity 8) ⟨.initial, ()⟩)) = some _ := rfl
  obtain ⟨orderly, -, loyal⟩ :=
    selection_of_reaches absentThenReady rfl (Crowd.reaches_of_play? played)
  exact ⟨_, Crowd.reaches_of_play? played, rfl, rfl, orderly, loyal (Crowd.reaches_of_play? played)⟩

end TokenChain.Chain
