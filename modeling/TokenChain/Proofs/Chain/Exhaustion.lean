import TokenChain.Proofs.Chain.Exclusion

/-! # When no source applies

Once a scan has heard from all sources that they do not apply, the chain has nobody left to ask,
unless it is reset (`Exhausts`). No source is at work from then on (`Exhausts.silent`). A later call
either is cut short while it waits for its turn (`CutShort`), or it scans, skips every source and
fails for the reasons that are remembered: its failure echoes the first one (`Echoes`,
`outcome_of_resigned`). Nothing but its own steps and those of the calls before it is needed for it
to come to its end (`Exhausts.finishes`): the waiting tickets are held by calls, and the call that
holds the first one gets through its scan step by step.

`exclusion_of_reaches` adds to this what holds of sources that are out of play. -/

namespace TokenChain.Chain

open TokenChain.Task TokenChain.Shared TokenChain.Memory

variable {ρ : Type} {c : Chain ρ}

/-! ### The failure of a scan, again -/

/-- A failure of a whole chain says the same as an earlier one: the same sources in the same order,
with the same reasons. Even the text is the same if each source names itself in its failure. -/
structure Echoes (fs fs' : List (String × Error)) : Prop where
  credentials : fs'.map Prod.fst = fs.map Prod.fst
  reasons : (fs'.map fun p => reasonIn (.error p.2)) = fs.map fun p => reasonIn (.error p.2)
  allUnavailable : Error.allUnavailable fs' = true
  text : (∀ p ∈ fs, p.2.credential? = some p.1) → (Error.aggregate fs').message =
    (Error.aggregate fs).message

/-- What a scan notes of a source that it skips. -/
def skipped (c : Chain ρ) (reason : Nat → String) (i : Nat) : String × Error :=
  (c.nameAt i, .unavailable (c.nameAt i) (reason i))

theorem Echoes.refl {fs : List (String × Error)} (h : Error.allUnavailable fs = true) :
    Echoes fs fs :=
  ⟨rfl, rfl, h, fun _ => rfl⟩

theorem unavailable_of_all {n : Nat} {name : Nat → String} {cause : Nat → Error}
    (all : Error.allUnavailable ((List.range n).map fun i => (name i, cause i)) = true)
    {i : Nat} (hi : i < n) : ∃ credential reason, cause i = .unavailable credential reason := by
  have h : (cause i).isUnavailable = true := by
    have := (Bool.and_eq_true_iff.mp all).2
    exact List.all_eq_true.mp this (name i, cause i) (List.mem_map_of_mem (List.mem_range.mpr hi))
  cases he : cause i with
  | unavailable credential reason => exact ⟨credential, reason, rfl⟩
  | _ =>
    rw [he] at h
    cases h

/-- **The failure of a scan that skips every source** echoes the one that ruled them out. -/
theorem echoes_skipped {cause : Nat → Error} {reason : Nat → String}
    (all : Error.allUnavailable ((List.range c.sources.length).map fun i => (c.nameAt i, cause i)) =
      true)
    (same : ∀ i < c.sources.length, ∃ credential, cause i = .unavailable credential (reason i)) :
    Echoes ((List.range c.sources.length).map fun i => (c.nameAt i, cause i))
      ((List.range c.sources.length).map (c.skipped reason)) where
  credentials := by
    rw [List.map_map, List.map_map]
    rfl
  reasons := by
    rw [List.map_map, List.map_map]
    refine List.map_congr_left fun i hi => ?_
    obtain ⟨credential, he⟩ := same i (List.mem_range.mp hi)
    simp [skipped, reasonIn, he]
  allUnavailable := by
    rw [Error.allUnavailable, Bool.and_eq_true_iff] at all ⊢
    refine ⟨?_, List.all_eq_true.mpr fun p hp => ?_⟩
    · simpa using all.1
    · obtain ⟨i, -, rfl⟩ := List.mem_map.mp hp
      rfl
  text named := by
    congr 2
    refine List.map_congr_left fun i hi => ?_
    obtain ⟨credential, he⟩ := same i (List.mem_range.mp hi)
    have hn := named _ (List.mem_map_of_mem hi)
    rw [he] at hn
    have hc : credential = c.nameAt i := Option.some.inj hn
    rw [skipped, he, hc]

/-! ### Calls that are cut short -/

/-- Whether a call waits for its turn, or is about to. -/
def Position.isWaiting : Position ρ → Bool
  | knocking | queued _ => true
  | _ => false

/-- A call has been cut short while it waited for its turn: its request was cancelled, or its
deadline had come. -/
def CutShort (c : Chain ρ) (r : Request) (h : History (Shared ρ)) : Prop :=
  ∃ h₁ w w' h₂, h = h₁ ++ (w, w') :: h₂ ∧ (Position.of c r h₁).isWaiting = true ∧
    (w.cancelled r.cancel = true ∨ r.deadline.any (fun d => decide (d ≤ w.now)) = true)

theorem CutShort.append {r : Request} {h : History (Shared ρ)} (hc : CutShort c r h)
    (h' : History (Shared ρ)) : CutShort c r (h ++ h') := by
  obtain ⟨h₁, w, w', h₂, rfl, waiting, why⟩ := hc
  exact ⟨h₁, w, w', h₂ ++ h', by simp, waiting, why⟩

theorem cutShort_snoc {r : Request} {h : History (Shared ρ)} {w : World (Shared ρ)}
    (w' : World (Shared ρ)) (waiting : (Position.of c r h).isWaiting = true)
    (why : w.cancelled r.cancel = true ∨ r.deadline.any (fun d => decide (d ≤ w.now)) = true) :
    CutShort c r (h ++ [(w, w')]) :=
  ⟨h, w, w', [], rfl, waiting, why⟩

/-- A call that stops waiting before its turn has come, although it was not cancelled, has reached
its deadline. -/
theorem late_of_next? {r : Request} {w w' : World (Shared ρ)} {ticket : Nat}
    {t : Task (Shared ρ) (Except Error Token)}
    (h : ((Position.queued ticket).task c r).next? w = some (w', t))
    (alive : w.cancelled r.cancel = false) (behind : w.state.chain.turns.isFirst ticket = false) :
    r.deadline.any (fun d => decide (d ≤ w.now)) = true := by
  obtain ⟨x, hx, -⟩ := Option.map_eq_some_iff.mp h
  have none_right : ∀ d : Option Instant, Instant.earliest d none = d := fun d => by cases d <;> rfl
  simp only [Wait.wake?, Option.any_some, Option.any_none, Bool.or_false, alive, behind,
    none_right, Bool.false_eq_true, if_false] at hx
  split_ifs at hx with late
  exact late

/-- What a call gives up with when it is cut short. -/
def IsCut (e : Error) : Prop := ∃ message, e = .timeout credential message

/-- Why a call ends without asking anybody: it was cut short, or it has scanned without success. -/
def Excused (short : Prop) : Position ρ → Prop
  | .quitting _ e => short ∧ IsCut e
  | .closing _ none x => ∃ fs, x = .error (.aggregate fs)
  | .ended none (.error e) => (short ∧ IsCut e) ∨ ∃ fs, e = .aggregate fs
  | .ended none (.ok _) => False
  | _ => True

/-- What the calls of a chain have for an excuse. -/
def excusePact (c : Chain ρ) : Pact Request (Shared ρ) (Except Error Token) :=
  c.surveyPact.also fun _ x => Excused (CutShort c x.order x.history) (c.position x)

theorem excused_next {r : Request} {h : History (Shared ρ)} {w w' : World (Shared ρ)}
    {t : Task (Shared ρ) (Except Error Token)} {q : Position ρ}
    (excused : Excused (CutShort c r h) (Position.of c r h))
    (step : ((Position.of c r h).task c r).next? w = some (w', t))
    (next : (Position.of c r h).Next c r w q) : Excused (CutShort c r (h ++ [(w, w')])) q := by
  generalize hp : Position.of c r h = p at *
  have short : p.isWaiting = true →
      (w.cancelled r.cancel = true ∨ r.deadline.any (fun d => decide (d ≤ w.now)) = true) →
      CutShort c r (h ++ [(w, w')]) :=
    fun waiting why => cutShort_snoc w' (by rw [hp]; exact waiting) why
  cases next with
  | refuse cancelled => exact .inl ⟨short rfl (.inl cancelled), _, rfl⟩
  | cancel cancelled => exact ⟨short rfl (.inl cancelled), _, rfl⟩
  | @expire ticket late =>
    refine ⟨short rfl ?_, _, rfl⟩
    cases alive : w.cancelled r.cancel with
    | true => exact .inl rfl
    | false => exact .inr (late_of_next? step alive late)
  | quit => exact .inl ⟨excused.1.append _, excused.2⟩
  | exhaust => exact ⟨_, rfl⟩
  | @close t source? x =>
    cases source? with
    | some i => trivial
    | none =>
      obtain ⟨fs, rfl⟩ := excused
      exact .inr ⟨fs, rfl⟩
  | @stay source? x =>
    cases source? with
    | some i => trivial
    | none =>
      cases x with
      | ok token => exact excused
      | error e => exact excused.imp (fun h => ⟨h.1.append _, h.2⟩) id
  | ask | miss | knock | enter | queue | advance | yield | scan | askAfter | missAfter | skip
  | attempt | goOn | win | fail | breakDown | work | answer | gone => trivial

theorem excusePact_kept (c : Chain ρ) : c.excusePact.Kept c.getToken Beside := by
  refine c.surveyPact_kept.also (fun r _ => trivial) ?_ (fun _ _ _ _ _ h => h)
    (fun _ _ _ h => h) fun _ _ _ h => h
  intro w w' x t sound hx excused next
  have hrest : x.rest = (c.position x).task c x.order := hx.1.1.1
  rw [hrest] at next
  show Excused (CutShort c x.order (x.history ++ [(w, w')])) (c.position (x.after w w' t))
  rw [position_after]
  exact excused_next excused next (next_follow _)

/-! ### Waiting tickets are held -/

/-- Every waiting ticket is held by a call. -/
def Owned (c : Chain ρ) (s : Calls ρ) : Prop :=
  ∀ t ∈ s.world.state.chain.turns.waiting, ∃ id x, s.callers id = some x ∧
    (c.position x).ticket? = some t

/-- A ticket that waits after a step waited before it, or the call holds it. -/
theorem owner_next {r : Request} {w : World (Shared ρ)} {p q : Position ρ}
    (next : p.Next c r w q) {t : Nat} (ht : t ∈ (p.effect c w.state.chain).turns.waiting) :
    (t ∈ w.state.chain.turns.waiting ∧ p.ticket? ≠ some t) ∨ q.ticket? = some t := by
  -- A call that holds its ticket before and after the step.
  have holds :
      ∀ {ticket : Nat}, (p.effect c w.state.chain).turns = w.state.chain.turns →
      p.ticket? = some ticket → q.ticket? = some ticket →
      (t ∈ w.state.chain.turns.waiting ∧ p.ticket? ≠ some t) ∨ q.ticket? = some t := by
    intro ticket turns hp hq
    rw [turns] at ht
    by_cases h : ticket = t
    · exact .inr (by rw [hq, h])
    · exact .inl ⟨ht, by rw [hp]; exact fun he => h (Option.some.inj he)⟩
  cases next with
  | ask | miss | knock | refuse | enter | answer | stay | gone => exact .inl ⟨ht, nofun⟩
  | queue =>
    rcases mem_enter.mp ht with ht | rfl
    · exact .inl ⟨ht, nofun⟩
    · exact .inr rfl
  | quit | askAfter | missAfter | breakDown | close =>
    obtain ⟨ht, hne⟩ := mem_leave.mp ht
    exact .inl ⟨ht, fun he => hne (Option.some.inj he).symm⟩
  | cancel | advance | expire | yield | scan | goOn | win => exact holds rfl rfl rfl
  | exhaust beyond => exact holds (by rw [Position.effect, if_neg (by omega)]; rfl) rfl rfl
  | skip valid | attempt valid => exact holds (by rw [Position.effect, if_pos valid]; rfl) rfl rfl
  | @fail t i f e => exact holds (noteFailure_eq i e _).2.2.1 rfl rfl
  | work unfinished unbroken => exact holds (by rw [effect_work unfinished unbroken]) rfl rfl

/-- **One move** leaves every waiting ticket with its holder, whatever changes around the calls but
the tickets. -/
theorem Owned.move {m : Crowd.Move Request} {s s' : Calls ρ}
    {Around : World (Shared ρ) → World (Shared ρ) → Prop} (owned : c.Owned s)
    (led : ∀ {id : Nat} {x : Call ρ}, s.callers id = some x →
      x.rest = (c.position x).task c x.order)
    (turns : ∀ {w w' : World (Shared ρ)}, Around w w' → w'.state.chain.turns = w.state.chain.turns)
    (step : Crowd.Step c.getToken Around m s s') : c.Owned s' := by
  intro t ht
  -- What a call that stays holds, it holds on.
  have stays : ∀ {id : Nat} {w : World (Shared ρ)} {y : Option (Call ρ)},
      (∀ x, s.callers id = some x → (c.position x).ticket? ≠ some t) →
      t ∈ s.world.state.chain.turns.waiting → ∃ j x, (s.put w id y).callers j = some x ∧
      (c.position x).ticket? = some t := by
    intro id w y other ht
    obtain ⟨j, x, hx, hticket⟩ := owned t ht
    refine ⟨j, x, Crowd.callers_put.mpr (.inr ⟨?_, hx⟩), hticket⟩
    rintro rfl
    exact other x hx hticket
  cases step with
  | call free =>
    refine stays (fun x hx => ?_) ht
    rw [free] at hx
    cases hx
  | @go _ id x w u here next =>
    rw [led here] at next
    rw [Crowd.put_world, (next?_task next).2] at ht
    rcases owner_next (next_follow _) ht with ⟨ht, hne⟩ | hq
    · refine stays (fun y hy => ?_) ht
      rw [here] at hy
      cases hy
      exact hne
    · exact ⟨id, _, Crowd.callers_put_self .., by rw [position_after]; exact hq⟩
  | @drop _ id x w here dropped =>
    rw [led here] at dropped
    rw [Crowd.put_world, drop?_task dropped, Position.release] at ht
    rcases hp : (c.position x).ticket? with _ | ticket
    · rw [hp] at ht
      refine stays (fun y hy he => ?_) ht
      rw [here] at hy
      cases hy
      rw [hp] at he
      cases he
    · rw [hp] at ht
      obtain ⟨ht, hne⟩ := mem_leave.mp ht
      refine stays (fun y hy => ?_) ht
      rw [here] at hy
      cases hy
      rw [hp]
      exact fun he => hne (Option.some.inj he).symm
  | around hw =>
    rw [turns hw] at ht
    exact owned t ht

theorem Owned.step {m : Crowd.Move Request} {s s' : Calls ρ} (owned : c.Owned s)
    (h : c.loyalPact.Holds s) (step : Crowd.Step c.getToken Beside m s s') : c.Owned s' :=
  owned.move (fun hx => (h.caller hx).1.1) (fun beside => congrArg ChainState.turns beside) step

theorem owned_of_reaches {s s' : Calls ρ} (owned : c.Owned s) (h : c.loyalPact.Holds s)
    (reaches : Crowd.Reaches c.getToken Beside s s') : c.Owned s' := by
  induction reaches with
  | refl => exact owned
  | tail before step ih =>
    obtain ⟨m, step⟩ := step
    exact ih.step (Pact.holds_of_reaches c.loyalPact_kept h before) step

/-! ### A chain that has nobody left to ask -/

/-- Every source is ruled out, for the given reasons. -/
structure Exhausts (c : Chain ρ) (reason : Nat → String) (s : Calls ρ) : Prop where
  holds : c.excusePact.Holds s
  owned : c.Owned s
  ruledOut : ∀ i < c.sources.length, s.world.state.chain.reason? i = some (reason i)

namespace Exhausts

variable {reason : Nat → String} {s s' : Calls ρ}

theorem loyal (h : Exhausts c reason s) : c.loyalPact.Holds s := h.holds.of_also.of_also

theorem reaches (h : Exhausts c reason s) (reaches : Crowd.Reaches c.getToken Beside s s') :
    Exhausts c reason s' where
  holds := Pact.holds_of_reaches c.excusePact_kept h.holds reaches
  owned := owned_of_reaches h.owned h.loyal reaches
  ruledOut i hi := retains_of_reaches h.loyal reaches i _ (h.ruledOut i hi)

theorem unselected (h : Exhausts c reason s) : s.world.state.chain.selected = none := by
  cases hk : s.world.state.chain.selected with
  | none => rfl
  | some k =>
    have inPlay := h.loyal.world.inPlay k hk
    rw [h.ruledOut k (h.loyal.world.valid k hk)] at inPlay
    cases inPlay

theorem origin? (h : Exhausts c reason s) {id : Nat} {x : Call ρ} (hx : s.callers id = some x) :
    (c.position x).origin? = none := by
  rcases hi : (c.position x).origin? with _ | i
  · rfl
  · have := (h.loyal.caller hx).2 i hi
    rw [h.unselected] at this
    cases this

/-- **No source is at work** any more. -/
theorem silent (h : Exhausts c reason s) {id : Nat} {x : Call ρ} (hx : s.callers id = some x) :
    (c.position x).source? = none := by
  have fits := (h.loyal.caller hx).1.2
  have origin := h.origin? hx
  cases hp : c.position x with
  | trying t i f u =>
    rw [hp] at fits
    obtain ⟨-, -, inPlay, valid⟩ := fits.scan
    rw [h.ruledOut i valid] at inPlay
    cases inPlay
  | asking i u =>
    rw [hp] at origin
    cases origin
  | _ => rfl

theorem go (h : Exhausts c reason s) {id : Nat} {x : Call ρ} (hx : s.callers id = some x)
    {w : World (Shared ρ)} {t : Task (Shared ρ) (Except Error Token)}
    (next : ((c.position x).task c x.order).next? s.world = some (w, t)) :
    Crowd.Step c.getToken (fun _ _ => False) (.go id) s (s.put w id (some (x.after s.world w t))) ∧
      Exhausts c reason (s.put w id (some (x.after s.world w t))) ∧
      w.state.chain = (c.position x).effect c s.world.state.chain ∧
      Position.Next c x.order s.world (c.position x) (c.position (x.after s.world w t)) := by
  have next' : x.rest.next? s.world = some (w, t) := by
    rw [(h.loyal.caller hx).1.1]
    exact next
  refine ⟨.go hx next', h.reaches (.single ⟨_, .go hx next'⟩), (next?_task next).2, ?_⟩
  rw [position_after]
  exact next_follow _

end Exhausts

/-! ### What later calls end with -/

/-- Where a call can be that has its turn after all sources have been ruled out. -/
def Resigned (c : Chain ρ) (reason : Nat → String) (fs : List (String × Error)) : Position ρ → Prop
  | .scanning _ i f => i ≤ c.sources.length ∧ f.failures = (List.range i).map (c.skipped reason)
  | .skipping _ i f why =>
    i < c.sources.length ∧ f.failures = (List.range i).map (c.skipped reason) ∧ why = reason i
  | .closing _ _ x | .ended _ x => ∃ e, x = .error e ∧ ∀ fs', e = .aggregate fs' → Echoes fs fs'
  | .yielding .. | .trying .. | .asking .. | .lost => False
  | _ => True

/-- **A step** of a call that has nobody to ask. -/
theorem Resigned.next {reason : Nat → String} {fs : List (String × Error)}
    {short : Prop} {r : Request} {w : World (Shared ρ)} {p q : Position ρ}
    (h : Resigned c reason fs p) (excused : Excused short p)
    (unselected : w.state.chain.selected = none)
    (ruledOut : ∀ i < c.sources.length, w.state.chain.reason? i = some (reason i))
    (echoes : Echoes fs ((List.range c.sources.length).map (c.skipped reason)))
    (next : p.Next c r w q) : Resigned c reason fs q := by
  cases next with
  | ask selected | miss selected | yield selected =>
    rw [unselected] at selected
    cases selected
  | refuse => exact ⟨_, rfl, nofun⟩
  | quit =>
    obtain ⟨-, message, rfl⟩ := excused
    exact ⟨_, rfl, nofun⟩
  | scan => exact ⟨Nat.zero_le _, rfl⟩
  | @exhaust t i f beyond =>
    obtain ⟨bounded, failures⟩ := h
    have hi := Nat.le_antisymm bounded beyond
    subst hi
    refine ⟨_, rfl, fun fs' he => ?_⟩
    cases he
    rw [failures]
    exact echoes
  | skip valid closed =>
    rw [ruledOut _ valid] at closed
    exact ⟨valid, h.2, (Option.some.inj closed).symm⟩
  | attempt valid inPlay =>
    rw [ruledOut _ valid] at inPlay
    cases inPlay
  | @goOn t i f why =>
    obtain ⟨valid, failures, rfl⟩ := h
    refine ⟨valid, ?_⟩
    rw [List.range_succ, List.map_append, ← failures]
    rfl
  | close => exact h
  | stay => exact h
  | askAfter | missAfter | win | fail | breakDown | work | answer | gone => exact h.elim
  | knock | enter | queue | cancel | advance | expire => trivial

/-- A call that is not over in the given state, or that has not been made yet. -/
def Later (s : Calls ρ) (id : Nat) : Prop :=
  ∀ x, s.callers id = some x → (∀ v, x.rest ≠ .done v) ∧ x.rest ≠ .crash

section Outcome
variable {reason : Nat → String} {s s' : Calls ρ} {id₀ t₀ : Nat} {x₀ : Call ρ}
  {fs : List (String × Error)}

/-- The calls that are not over when a scan has heard from all sources that they do not apply. -/
theorem resigned_of_later (h : Exhausts c reason s) (hx : s.callers id₀ = some x₀)
    (at_ : c.position x₀ = .closing t₀ none (.error (.aggregate fs)))
    (all : Error.allUnavailable fs = true) {id : Nat} {y : Call ρ} (hy : s.callers id = some y)
    (later : Later s id) : Resigned c reason fs (c.position y) := by
  by_cases hne : id₀ = id
  · subst hne
    rw [hx] at hy
    cases hy
    rw [at_]
    refine ⟨_, rfl, fun fs' he => ?_⟩
    cases he
    exact .refl all
  · -- The call that has scanned has its turn.
    obtain ⟨hrest, fits⟩ := (h.loyal.caller hy).1
    have turn :=
      (h.loyal.caller hx).1.2.not_hasTurn fits (h.loyal.apart hx hy hne) (by rw [at_]; rfl)
    have silent := h.silent hy
    obtain ⟨unfinished, unbroken⟩ := later y hy
    cases hp : c.position y with
    | arriving | knocking | entering | queued | quitting => trivial
    | admitted | yielding | scanning | skipping | trying | closing =>
      rw [hp] at turn
      cases turn
    | asking =>
      rw [hp] at silent
      cases silent
    | ended source? v => exact absurd (by rw [hrest, hp]; rfl) (unfinished v)
    | lost => exact absurd (by rw [hrest, hp]; rfl) unbroken

/-- **Later calls have nobody to ask**, in every state that is reached without a reset. -/
theorem resigned_of_reaches (h : Exhausts c reason s) (hx : s.callers id₀ = some x₀)
    (at_ : c.position x₀ = .closing t₀ none (.error (.aggregate fs)))
    (all : Error.allUnavailable fs = true)
    (echoes : Echoes fs ((List.range c.sources.length).map (c.skipped reason)))
    (reaches : Crowd.Reaches c.getToken Beside s s') {id : Nat} {y : Call ρ}
    (hy : s'.callers id = some y) (later : Later s id) : Resigned c reason fs (c.position y) := by
  induction reaches generalizing id y with
  | refl => exact resigned_of_later h hx at_ all hy later
  | @tail s₁ s₂ before step ih =>
    obtain ⟨m, step⟩ := step
    cases step with
    | call free =>
      rcases Crowd.callers_put.mp hy with ⟨-, he⟩ | ⟨-, hy⟩
      · cases he
        trivial
      · exact ih hy later
    | drop hd dropped =>
      rcases Crowd.callers_put.mp hy with ⟨-, he⟩ | ⟨-, hy⟩
      · cases he
      · exact ih hy later
    | around hw => exact ih hy later
    | @go _ j z w u hz next =>
      rcases Crowd.callers_put.mp hy with ⟨rfl, he⟩ | ⟨-, hy⟩
      · cases he
        have h₁ := h.reaches before
        rw [position_after]
        exact (ih hz later).next (h₁.holds.caller hz).2 h₁.unselected h₁.ruledOut
          echoes (next_follow _)
      · exact ih hy later

/-- A call that has resigned ends cut short, or with a failure that echoes the first one. -/
theorem outcome_of_resigned (h : Exhausts c reason s) {id : Nat} {y : Call ρ}
    (hy : s.callers id = some y) (resigned : Resigned c reason fs (c.position y))
    {v : Except Error Token} (ended : y.rest = .done v) :
    (CutShort c y.order y.history ∧ ∃ message, v = .error (.timeout credential message)) ∨
      ∃ fs', v = .error (.aggregate fs') ∧ Echoes fs fs' := by
  have origin := h.origin? hy
  have excused : Excused (CutShort c y.order y.history) (c.position y) := (h.holds.caller hy).2
  rw [(h.loyal.caller hy).1.1] at ended
  rcases of_task_eq_done ended with ⟨i, hp⟩ | ⟨source?, hp⟩
  · rw [hp] at origin
    cases origin
  · rw [hp] at origin resigned excused
    obtain rfl : source? = none := origin
    obtain ⟨e, rfl, echoes⟩ := resigned
    rcases excused with ⟨short, message, rfl⟩ | ⟨fs', rfl⟩
    · exact .inl ⟨short, message, rfl⟩
    · exact .inr ⟨fs', rfl, echoes fs' rfl⟩

end Outcome

/-! ### Later calls come to their end -/

/-- Steps of the calls alone bring a call to its end. -/
def Finishes (c : Chain ρ) (s : Calls ρ) (id : Nat) : Prop :=
  ∃ s' y v, Crowd.Proceeds c.getToken s s' ∧ s'.callers id = some y ∧ y.rest = .done v

/-- Whether a call has its turn or gives its ticket back, with no source at work. -/
def Position.isActive : Position ρ → Bool
  | quitting .. | admitted _ | scanning .. | skipping .. | closing .. => true
  | _ => false

/-- The number of steps that are left to a call that has its turn, if it skips all of `n`
sources. -/
def Position.left (n : Nat) : Position ρ → Nat
  | admitted _ => 2 * n + 3
  | scanning _ i _ => 2 * (n - i) + 2
  | skipping _ i _ _ => 2 * (n - i) + 1
  | quitting .. | closing .. => 1
  | _ => 0

/-- Nothing keeps an active call from its next step. -/
theorem exists_next?_of_isActive {p : Position ρ} (r : Request) (w : World (Shared ρ))
    (active : p.isActive = true) : ∃ w' t, (p.task c r).next? w = some (w', t) := by
  cases p with
  | quitting | admitted | skipping | closing => exact ⟨_, _, rfl⟩
  | scanning t i f =>
    rw [Position.task]
    cases c.sources.drop i with
    | nil => exact ⟨_, _, rfl⟩
    | cons source rest => exact ⟨_, _, rfl⟩
  | _ => cases active

theorem exists_next?_of_isFirst {t : Nat} (r : Request) {w : World (Shared ρ)}
    (first : w.state.chain.turns.isFirst t = true) :
    ∃ w' u, ((Position.queued t : Position ρ).task c r).next? w = some (w', u) := by
  let wait : Wait (Shared ρ) :=
    { ready := fun s => s.chain.turns.isFirst t
      abandon := Shared.onChain (ChainState.leave t)
      cancel := some r.cancel
      deadline := Instant.earliest r.deadline none }
  obtain ⟨x, hx⟩ : ∃ x, wait.wake? w = some x := by
    cases cancelled : w.cancelled r.cancel <;> simp [wait, Wait.wake?, cancelled, first]
  exact ⟨_, _, Option.map_eq_some_iff.mpr ⟨x, hx, rfl⟩⟩

/-- **A step of an active call** brings it nearer to its end, where it gives its ticket back. -/
theorem active_next {r : Request} {w : World (Shared ρ)} {p q : Position ρ} (next : p.Next c r w q)
    (active : p.isActive = true)
    (valid : ∀ t i f why, p = .skipping t i f why → i < c.sources.length)
    (unselected : w.state.chain.selected = none)
    (ruledOut : ∀ i < c.sources.length, w.state.chain.reason? i ≠ none) :
    (q.isActive = true ∧ q.ticket? = p.ticket? ∧
      (p.effect c w.state.chain).turns = w.state.chain.turns ∧
        q.left c.sources.length < p.left c.sources.length) ∨
      (∃ source? x, q = .ended source? x) ∧
        ∀ t, p.ticket? = some t → p.effect c w.state.chain = w.state.chain.leave t := by
  cases next with
  | quit | close =>
    refine .inr ⟨⟨_, _, rfl⟩, fun t ht => ?_⟩
    cases ht
    rfl
  | yield selected =>
    rw [unselected] at selected
    cases selected
  | scan => exact .inl ⟨rfl, rfl, rfl, by simp [Position.left]⟩
  | exhaust beyond =>
    refine .inl ⟨rfl, rfl, ?_, by simp [Position.left]⟩
    rw [Position.effect, if_neg (by omega)]
    rfl
  | skip here closed =>
    refine .inl ⟨rfl, rfl, ?_, by simp [Position.left]⟩
    rw [Position.effect, if_pos here]
    rfl
  | attempt here inPlay => exact absurd inPlay (ruledOut _ here)
  | goOn =>
    have := valid _ _ _ _ rfl
    refine .inl ⟨rfl, rfl, rfl, ?_⟩
    simp only [Position.left]
    omega
  | ask | miss | knock | refuse | enter | queue | cancel | advance | expire | askAfter | missAfter
  | win | fail | breakDown | work | answer | stay | gone => cases active

/-- A call gets to its end by its own steps, and gives its ticket back on the way. -/
def GetsThrough (c : Chain ρ) (s : Calls ρ) (id t : Nat) : Prop :=
  ∃ s', Crowd.Proceeds c.getToken s s' ∧ (∃ y v, s'.callers id = some y ∧ y.rest = .done v) ∧
    (∀ j, j ≠ id → s'.callers j = s.callers j) ∧
    s'.world.state.chain.turns.waiting = s.world.state.chain.turns.waiting.filter (· != t)

theorem GetsThrough.after_go {s s₁ : Calls ρ} {id t : Nat}
    (step : Crowd.Step c.getToken (fun _ _ => False) (.go id) s s₁)
    (waiting : s₁.world.state.chain.turns.waiting = s.world.state.chain.turns.waiting)
    (h : GetsThrough c s₁ id t) : GetsThrough c s id t := by
  obtain ⟨s', proceeds, ended, others, left⟩ := h
  refine ⟨s', .head ⟨id, step⟩ proceeds, ended, fun j hne => ?_, by rw [left, waiting]⟩
  rw [others j hne]
  cases step with
  | go here next => exact Crowd.callers_put_of_ne hne ..

theorem Finishes.after_go {s s₁ : Calls ρ} {id j : Nat}
    (step : Crowd.Step c.getToken (fun _ _ => False) (.go j) s s₁) (h : Finishes c s₁ id) :
    Finishes c s id := by
  obtain ⟨s', y, v, proceeds, hy, ended⟩ := h
  exact ⟨s', y, v, .head ⟨j, step⟩ proceeds, hy, ended⟩

namespace Exhausts

variable {reason : Nat → String}

/-- **A call that has its turn** gets through its scan; the induction is on the steps that are
left. -/
theorem getsThrough : ∀ (k : Nat) {s : Calls ρ}, Exhausts c reason s → ∀ {id t : Nat} {x : Call ρ},
    s.callers id = some x → (c.position x).isActive = true → (c.position x).ticket? = some t →
    (c.position x).left c.sources.length ≤ k → GetsThrough c s id t
  | k, s, h, id, t, x, hx, active, ticket, bound => by
    obtain ⟨w, u, next⟩ := exists_next?_of_isActive x.order s.world active
    obtain ⟨step, h₁, effect, leads⟩ := h.go hx next
    have surveys : Surveys c s.world.state.chain _ (c.position x) := (h.holds.of_also.caller hx).2
    have valid : ∀ t i f why, c.position x = .skipping t i f why → i < c.sources.length := by
      intro t i f why hp
      rw [hp] at surveys
      exact surveys.2.2
    have hx₁ := Crowd.callers_put_self s w id (some (x.after s.world w u))
    rcases active_next leads active valid h.unselected fun i hi => by simp [h.ruledOut i hi] with
      ⟨active₁, ticket₁, turns, less⟩ | ⟨⟨source?, v, hp⟩, leaves⟩
    · cases k with
      | zero => omega
      | succ k =>
        refine .after_go step ?_ (getsThrough k h₁ hx₁ active₁ (ticket₁.trans ticket) (by omega))
        rw [Crowd.put_world, effect, turns]
    · refine ⟨_, .single ⟨id, step⟩, ⟨_, v, hx₁, ?_⟩,
        fun j hne => Crowd.callers_put_of_ne hne .., ?_⟩
      · rw [(h₁.loyal.caller hx₁).1.1, hp]
        rfl
      · rw [Crowd.put_world, effect, leaves t ticket]
        rfl

/-- The call that holds the first ticket gets through. -/
theorem getsThrough_of_first {s : Calls ρ} (h : Exhausts c reason s) {id t : Nat} {x : Call ρ}
    (hx : s.callers id = some x) (ticket : (c.position x).ticket? = some t)
    (first : s.world.state.chain.turns.isFirst t = true) : GetsThrough c s id t := by
  have silent := h.silent hx
  have origin := h.origin? hx
  cases hp : c.position x with
  | queued t' =>
    rw [hp] at ticket
    cases ticket
    obtain ⟨w, u, next⟩ := exists_next?_of_isFirst x.order first
    rw [← hp] at next
    obtain ⟨step, h₁, effect, leads⟩ := h.go hx next
    have hx₁ := Crowd.callers_put_self s w id (some (x.after s.world w u))
    refine .after_go step (by rw [Crowd.put_world, effect, hp]; rfl) ?_
    rw [hp] at leads
    generalize hq : c.position (x.after s.world w u) = q at leads
    cases leads with
    | cancel | advance | expire =>
      exact h₁.getsThrough _ hx₁ (by rw [hq]; rfl) (by rw [hq]; rfl) (Nat.le_refl _)
  | quitting | admitted | scanning | skipping | closing =>
    exact h.getsThrough _ hx (by rw [hp]; rfl) ticket (Nat.le_refl _)
  | yielding | asking =>
    rw [hp] at origin
    cases origin
  | trying =>
    rw [hp] at silent
    cases silent
  | arriving | knocking | entering | ended | lost =>
    rw [hp] at ticket
    cases ticket

/-- **A call that waits** comes to its end, once all those before it have; the induction is on the
length of the queue. -/
theorem finishes_queued :
    ∀ (k : Nat) {s : Calls ρ}, Exhausts c reason s → ∀ {id t : Nat} {x : Call ρ},
    s.callers id = some x → (c.position x).ticket? = some t →
    s.world.state.chain.turns.waiting.length ≤ k → Finishes c s id
  | k, s, h, id, t, x, hx, ticket, bound => by
    have waits := (h.loyal.caller hx).1.2.waits t ticket
    obtain ⟨t₀, ht₀⟩ : ∃ t₀, s.world.state.chain.turns.waiting.head? = some t₀ := by
      rw [← Option.isSome_iff_exists, List.isSome_head?]
      simpa using List.ne_nil_of_mem waits
    have first : s.world.state.chain.turns.isFirst t₀ = true := by simp [Turns.isFirst, ht₀]
    obtain ⟨id₀, y, hy, ticket₀⟩ := h.owned t₀ (List.mem_of_head? ht₀)
    obtain ⟨s', proceeds, ⟨z, v, hz, ended⟩, others, waiting⟩ :=
      h.getsThrough_of_first hy ticket₀ first
    by_cases hne : id = id₀
    · subst hne
      exact ⟨s', z, v, proceeds, hz, ended⟩
    · have hx' : s'.callers id = some x := by rw [others id hne, hx]
      have shorter :
          s'.world.state.chain.turns.waiting.length < s.world.state.chain.turns.waiting.length := by
        rw [waiting]
        exact List.length_filter_lt_length_iff_exists.mpr ⟨t₀, List.mem_of_head? ht₀, by simp⟩
      cases k with
      | zero => omega
      | succ k =>
        obtain ⟨s'', y', v', proceeds', hy', ended'⟩ :=
          finishes_queued k (h.reaches (Crowd.reaches_of_proceeds proceeds)) hx' ticket (by omega)
        exact ⟨s'', y', v', proceeds.trans proceeds', hy', ended'⟩

theorem finishes_entering {s : Calls ρ} (h : Exhausts c reason s) {id : Nat} {x : Call ρ}
    (hx : s.callers id = some x) (hp : c.position x = .entering) : Finishes c s id := by
  obtain ⟨w, u, next⟩ : ∃ w u, ((Position.entering : Position ρ).task c x.order).next? s.world =
      some (w, u) :=
    ⟨_, _, rfl⟩
  rw [← hp] at next
  obtain ⟨step, h₁, -, leads⟩ := h.go hx next
  refine .after_go step (h₁.finishes_queued _ (Crowd.callers_put_self ..)
    (t := s.world.state.chain.turns.next) ?_ (Nat.le_refl _))
  rw [hp] at leads
  generalize c.position (x.after s.world w u) = q at leads
  cases leads with
  | queue => rfl

theorem finishes_knocking {s : Calls ρ} (h : Exhausts c reason s) {id : Nat} {x : Call ρ}
    (hx : s.callers id = some x) (hp : c.position x = .knocking) : Finishes c s id := by
  obtain ⟨w, u, next⟩ : ∃ w u, ((Position.knocking : Position ρ).task c x.order).next? s.world =
      some (w, u) :=
    ⟨_, _, rfl⟩
  rw [← hp] at next
  obtain ⟨step, h₁, -, leads⟩ := h.go hx next
  have hx₁ := Crowd.callers_put_self s w id (some (x.after s.world w u))
  refine .after_go step ?_
  rw [hp] at leads
  generalize hq : c.position (x.after s.world w u) = q at leads
  cases leads with
  | refuse => exact ⟨_, _, _, .refl, hx₁, by rw [(h₁.loyal.caller hx₁).1.1, hq]; rfl⟩
  | enter => exact h₁.finishes_entering hx₁ hq

theorem finishes_arriving {s : Calls ρ} (h : Exhausts c reason s) {id : Nat} {x : Call ρ}
    (hx : s.callers id = some x) (hp : c.position x = .arriving) : Finishes c s id := by
  obtain ⟨w, u, next⟩ : ∃ w u, ((Position.arriving : Position ρ).task c x.order).next? s.world =
      some (w, u) :=
    ⟨_, _, rfl⟩
  rw [← hp] at next
  obtain ⟨step, h₁, -, leads⟩ := h.go hx next
  refine .after_go step ?_
  rw [hp] at leads
  generalize hq : c.position (x.after s.world w u) = q at leads
  cases leads with
  | ask selected | miss selected =>
    rw [h.unselected] at selected
    cases selected
  | knock => exact h₁.finishes_knocking (Crowd.callers_put_self ..) hq

/-- **Every call comes to its end** that has not broken down before. -/
theorem finishes {s : Calls ρ} (h : Exhausts c reason s) {id : Nat} {x : Call ρ}
    (hx : s.callers id = some x) (hp : c.position x ≠ .lost) : Finishes c s id := by
  have silent := h.silent hx
  rcases ht : (c.position x).ticket? with _ | t
  · cases hq : c.position x with
    | arriving => exact h.finishes_arriving hx hq
    | knocking => exact h.finishes_knocking hx hq
    | entering => exact h.finishes_entering hx hq
    | ended source? v => exact ⟨s, x, v, .refl, hx, by rw [(h.loyal.caller hx).1.1, hq]; rfl⟩
    | lost => exact absurd hq hp
    | asking =>
      rw [hq] at silent
      cases silent
    | queued | quitting | admitted | yielding | scanning | skipping | trying | closing =>
      rw [hq] at ht
      cases ht
  · exact h.finishes_queued _ hx ht (Nat.le_refl _)

end Exhausts

/-! ### The result -/

/-- **After a scan that has heard from all sources** that they do not apply, and that has failed
with `fs`. -/
structure Absorbs (c : Chain ρ) (fs : List (String × Error)) (s : Calls ρ) : Prop where
  /-- No source is at work for anybody, so none is called. -/
  silent : ∀ {s'}, Crowd.Reaches c.getToken Beside s s' → ∀ {id : Nat} {x : Call ρ},
    s'.callers id = some x → (c.position x).source? = none
  /-- Every later call comes to its end; it needs only the steps of the calls for it. -/
  ends : ∀ {s'}, Crowd.Reaches c.getToken Beside s s' → ∀ {id : Nat} {x : Call ρ},
    s'.callers id = some x → Later s id → c.Finishes s' id
  /-- It ends with a failure that echoes the first one, unless it was cut short while it waited for
  its turn. -/
  echoes : ∀ {s'}, Crowd.Reaches c.getToken Beside s s' →
    ∀ {id : Nat} {x : Call ρ} {v : Except Error Token}, s'.callers id = some x →
    Later s id → x.rest = .done v →
    (CutShort c x.order x.history ∧ ∃ message, v = .error (.timeout credential message)) ∨
      ∃ fs', v = .error (.aggregate fs') ∧ Echoes fs fs'

theorem absorbs_of_closing {s : Calls ρ} (h : c.excusePact.Holds s) (owned : c.Owned s)
    {id t : Nat} {x : Call ρ} {fs : List (String × Error)} (hx : s.callers id = some x)
    (at_ : c.position x = .closing t none (.error (.aggregate fs)))
    (all : Error.allUnavailable fs = true) : Absorbs c fs s := by
  have surveys : Surveys c s.world.state.chain _ (c.position x) := (h.of_also.caller hx).2
  rw [at_] at surveys
  obtain ⟨f, rfl, surveyed⟩ := surveys
  obtain ⟨cause, failures, noted⟩ := surveyed.failures
  rw [failures] at all at_ ⊢
  have causes :
      ∀ i < c.sources.length, ∃ reason credential, cause i = .unavailable credential reason :=
      fun i hi =>
    have ⟨credential, reason, he⟩ := unavailable_of_all all hi
    ⟨reason, credential, he⟩
  choose! reason same using causes
  have exhausts : Exhausts c reason s := ⟨h, owned, fun i hi =>
    have ⟨credential, he⟩ := same i hi
    noted i hi credential _ he⟩
  have echoes := echoes_skipped all same
  refine ⟨fun reaches _ _ hy => (exhausts.reaches reaches).silent hy,
    fun reaches _ _ hy later => ?_, fun reaches _ _ _ hy later ended => ?_⟩
  · have resigned := resigned_of_reaches exhausts hx at_ all echoes reaches hy later
    refine (exhausts.reaches reaches).finishes hy fun hp => ?_
    rw [hp] at resigned
    exact resigned
  · have resigned := resigned_of_reaches exhausts hx at_ all echoes reaches hy later
    exact outcome_of_resigned (exhausts.reaches reaches) hy resigned ended

/-- **What scans settle for good**, as long as nobody resets the chain. -/
structure Excludes (c : Chain ρ) (s : Calls ρ) : Prop where
  /-- A source that has just said in a scan that it does not apply is not called again. -/
  once : ∀ {id ticket i : Nat} {x : Call ρ} {f : Findings} {credential reason : String},
    s.callers id = some x → c.position x =
      .trying ticket i f (.done (.error (.unavailable credential reason))) →
    ∀ {m s' s''}, Crowd.Reaches c.getToken Beside s s' → Crowd.Step c.getToken Beside m s' s'' →
    ¬ c.Starts m s' s'' i
  /-- A scan that has just gone through all sources without success called all that are called from
  now on. -/
  narrows : ∀ {id ticket : Nat} {x : Call ρ} {fs : List (String × Error)}, s.callers id = some x →
    c.position x = .closing ticket none (.error (.aggregate fs)) →
    ∀ {m s' s'' i}, Crowd.Reaches c.getToken Beside s s' → Crowd.Step c.getToken Beside m s' s'' →
      c.Starts m s' s'' i → Called c x.order x.history i
  /-- A later scan that goes through all sources without success has called no other ones. -/
  shrinks : ∀ {id ticket : Nat} {x : Call ρ} {fs : List (String × Error)}, s.callers id = some x →
    c.position x = .closing ticket none (.error (.aggregate fs)) →
    ∀ {s'} {id' ticket' : Nat} {y : Call ρ} {fs' : List (String × Error)},
    Crowd.Reaches c.getToken Beside s s' →
      s'.callers id' = some y → c.position y = .closing ticket' none (.error (.aggregate fs')) →
      ∀ i, Called c y.order y.history i → Called c x.order x.history i
  /-- If all sources have said that they do not apply, there is nobody left to ask. -/
  absorbs : ∀ {id ticket : Nat} {x : Call ρ} {fs : List (String × Error)}, s.callers id = some x →
    c.position x = .closing ticket none (.error (.aggregate fs)) →
    Error.allUnavailable fs = true → Absorbs c fs s

/-- **Sources that do not apply are left alone**: in every state that calls get to without a reset,
whatever the order of their steps and whoever is dropped. -/
theorem exclusion_of_reaches (c : Chain ρ) {w : World (Shared ρ)}
    (start : w.state.chain = .initial) {s : Calls ρ}
    (reaches : Crowd.Reaches c.getToken Beside (.empty w) s) : c.Excludes s := by
  have begins : c.excusePact.Holds (.empty w) := Pact.holds_empty (sound_of_initial start)
  have holds : c.excusePact.Holds s := Pact.holds_of_reaches c.excusePact_kept begins reaches
  have loyal : c.loyalPact.Holds s := holds.of_also.of_also
  have owned : c.Owned s := by
    refine owned_of_reaches (fun t ht => ?_) begins.of_also.of_also reaches
    rw [show (Crowd.empty w : Calls ρ).world.state.chain = .initial from start] at ht
    cases ht
  refine ⟨?_, fun hx at_ _ _ _ _ => called_of_starts holds.of_also hx at_, ?_, fun hx at_ => ?_⟩
  · intro id ticket i x f credential reason hx hp m s' s'' reaches' step
    have out : c.OutOfPlay s i := .inr ⟨id, x, ticket, f, credential, reason, hx, hp⟩
    exact not_starts_of_outOfPlay (Pact.holds_of_reaches c.loyalPact_kept loyal reaches')
      (out.reaches loyal reaches') step
  · intro id ticket x fs hx at_ s' id' ticket' y fs' reaches' hy at_' i called
    rcases called_of_reaches holds.of_also hx at_ reaches' hy with late | only
    · rw [at_'] at late
      cases late
    · exact only i called
  · exact absorbs_of_closing holds owned hx at_

/-- Two sources that do not apply. -/
def absentTwice : Chain Unit :=
  ⟨[⟨"absent", .explicit, fun _ => .done (.error (.unavailable "absent" "not here"))⟩,
    ⟨"missing", .explicit, fun _ => .done (.error (.unavailable "missing" "nor there"))⟩]⟩

/-- The chain right after the first scan of a call. -/
def absentScanned : Calls Unit :=
  Crowd.play absentTwice.getToken (.call 0 ⟨[], none, 0⟩ :: List.replicate 10 (.go 0))
    (.empty (.initial ⟨0⟩ (.ofCapacity 8) ⟨.initial, ()⟩))

/-- Both sources were called; the next call asks nobody and fails in the same way. -/
theorem exclusion_of_reaches_absentTwice :
    ∃ x y : Call Unit, ∃ fs : List (String × Error), ∃ s : Calls Unit,
      absentScanned.callers 0 = some x ∧
      absentTwice.position x = .closing 0 none (.error (.aggregate fs)) ∧
      Called absentTwice x.order x.history 1 ∧ Error.allUnavailable fs = true ∧
      absentTwice.Excludes absentScanned ∧
      Crowd.Reaches absentTwice.getToken Beside absentScanned s ∧ s.callers 1 = some y ∧
      y.rest = .done (.error (.aggregate fs)) := by
  have played :
      Crowd.play? absentTwice.getToken (.call 0 ⟨[], none, 0⟩ :: List.replicate 10 (.go 0))
      (.empty (.initial ⟨0⟩ (.ofCapacity 8) ⟨.initial, ()⟩)) = some absentScanned := rfl
  have later :
      Crowd.play? absentTwice.getToken (.go 0 :: .call 1 ⟨[], none, 1⟩ :: List.replicate 11 (.go 1))
      absentScanned = some _ := rfl
  have excludes := exclusion_of_reaches absentTwice rfl (Crowd.reaches_of_play? played)
  have called :
      ∀ {h : History (Shared Unit)},
      ((Position.of absentTwice ⟨[], none, 0⟩ (h.take 8)).source?.map Prod.fst) = some 1 →
      Called absentTwice ⟨[], none, 0⟩ h 1 := fun {h} hs =>
    have ⟨⟨i, u⟩, hu, he⟩ := Option.map_eq_some_iff.mp hs
    ⟨h.take 8, h.drop 8, u, (List.take_append_drop 8 h).symm, he ▸ hu⟩
  exact ⟨_, _, _, _, rfl, rfl, called rfl, rfl, excludes, Crowd.reaches_of_play? later, rfl, rfl⟩

end TokenChain.Chain
