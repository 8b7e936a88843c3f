import TokenChain.Proofs.Chain.Selection

/-! # Which sources are called again

Calls work with a chain that nobody resets. A reason for ruling a source out is kept for good
(`Retains`), and a source is called only while there is none (`open_of_starts`), so a source that
has said in a scan that it does not apply is not called again (`not_starts_of_outOfPlay`). What a
scan has found is tied to what the chain remembers by `Surveyed`: each place that it has passed was
called or is ruled out. From this follows that a scan that went through all sources without success
called every source that is called later (`called_of_starts`), by another such scan in particular
(`called_of_reaches`). -/

namespace TokenChain.Chain

open TokenChain.Task TokenChain.Shared

variable {ρ : Type}

/-! ### Sources that are called -/

/-- A move calls the source at place `i`: a call had no source at work before it, and has this one
at work after it. -/
def Starts (c : Chain ρ) (m : Crowd.Move Request) (s s' : Calls ρ) (i : Nat) : Prop :=
  ∃ id x x' u, m = .go id ∧ s.callers id = some x ∧ (c.position x).source? = none ∧
    s'.callers id = some x' ∧ (c.position x').source? = some (i, u)

/-- In the course of some steps of a call, the source at place `i` was called. -/
def Called (c : Chain ρ) (r : Request) (h : History (Shared ρ)) (i : Nat) : Prop :=
  ∃ h₁ h₂ u, h = h₁ ++ h₂ ∧ (Position.of c r h₁).source? = some (i, u)

theorem Called.append {c : Chain ρ} {r : Request} {h : History (Shared ρ)} {i : Nat}
    (hc : Called c r h i) (h' : History (Shared ρ)) : Called c r (h ++ h') i := by
  obtain ⟨h₁, h₂, u, rfl, hu⟩ := hc
  exact ⟨h₁, h₂ ++ h', u, List.append_assoc .., hu⟩

theorem called_self {c : Chain ρ} {r : Request} {h : History (Shared ρ)} {i : Nat}
    {u : Task ρ (Except Error Token)} (hu : (Position.of c r h).source? = some (i, u)) :
    Called c r h i :=
  ⟨h, [], u, (List.append_nil h).symm, hu⟩

theorem Called.of_snoc {c : Chain ρ} {r : Request} {h : History (Shared ρ)}
    {w w' : World (Shared ρ)} {i : Nat} (hc : Called c r (h ++ [(w, w')]) i) :
    Called c r h i ∨ ∃ u, ((Position.of c r h).follow c r w).source? = some (i, u) := by
  obtain ⟨h₁, h₂, u, he, hu⟩ := hc
  rcases List.eq_nil_or_concat h₂ with rfl | ⟨h₃, step, rfl⟩
  · rw [List.append_nil] at he
    subst he
    rw [Position.of_snoc] at hu
    exact .inr ⟨u, hu⟩
  · rw [List.concat_eq_append, ← List.append_assoc] at he
    obtain ⟨rfl, -⟩ := List.append_inj' he rfl
    exact .inl ⟨h₁, h₃, u, rfl, hu⟩

/-! ### Reasons are kept -/

/-- What is ruled out stays ruled out, for the same reason. -/
def Retains (s s' : ChainState) : Prop :=
  ∀ i reason, s.reason? i = some reason → s'.reason? i = some reason

theorem Retains.refl (s : ChainState) : Retains s s := fun _ _ h => h

theorem Retains.trans {s s₁ s' : ChainState} (h : Retains s s₁) (h' : Retains s₁ s') :
    Retains s s' :=
  fun i reason hi => h' i reason (h i reason hi)

theorem Retains.none {s s' : ChainState} (h : Retains s s') {i : Nat}
    (hi : s'.reason? i = Option.none) : s.reason? i = Option.none := by
  rcases hs : s.reason? i with _ | reason
  · rfl
  · rw [h i reason hs] at hi
    cases hi

section Steps
variable {c : Chain ρ}

/-- A source is ruled out only by a scan that has asked it, and it is asked only if it is not ruled
out. -/
theorem retains_effect {s : ChainState} {p : Position ρ} (fits : Fits c s p) :
    Retains s (p.effect c s) := by
  cases p with
  | scanning ticket j f =>
    rw [Position.effect]
    split_ifs
    · exact .refl s
    · exact .refl s
  | trying ticket j f u =>
    cases u with
    | done x =>
      cases x with
      | ok token => exact .refl s
      | error e =>
        have inPlay : s.reason? j = none := fits.scan.2.2.1
        intro i reason hi
        have hne : i ≠ j := by
          rintro rfl
          rw [inPlay] at hi
          cases hi
        rw [Position.effect, (noteFailure_eq j e s).2.2.2 i, if_neg hne, hi]
    | crash | look | note | step | wait => exact .refl s
  | arriving | knocking | entering | queued | quitting | admitted | yielding | skipping | closing
  | asking | ended | lost => exact .refl s

theorem retains_release (s : ChainState) (p : Position ρ) : Retains s (p.release s) :=
  fun k _ hk => (reason?_release s p k).trans hk

/-- **One move** keeps all reasons. -/
theorem retains_of_step {m : Crowd.Move Request} {s s' : Calls ρ} (h : c.loyalPact.Holds s)
    (step : Crowd.Step c.getToken Beside m s s') :
    Retains s.world.state.chain s'.world.state.chain := by
  cases step with
  | call free => exact .refl _
  | go here next =>
    obtain ⟨hrest, fits⟩ := (h.caller here).1
    rw [hrest] at next
    rw [Crowd.put_world, (next?_task next).2]
    exact retains_effect fits
  | drop here dropped =>
    rw [(h.caller here).1.1] at dropped
    rw [Crowd.put_world, drop?_task dropped]
    exact retains_release _ _
  | around hw =>
    rw [show _ = s.world.state.chain from hw]
    exact .refl _

theorem retains_of_reaches {s s' : Calls ρ} (h : c.loyalPact.Holds s)
    (reaches : Crowd.Reaches c.getToken Beside s s') :
    Retains s.world.state.chain s'.world.state.chain := by
  induction reaches with
  | refl => exact .refl _
  | tail before step ih =>
    obtain ⟨m, step⟩ := step
    exact ih.trans (retains_of_step (Pact.holds_of_reaches c.loyalPact_kept h before) step)

/-! ### Sources that are out of play -/

/-- What lets a call turn to a source: it is the selected one, or a scan has come to its place and
it is not ruled out. -/
theorem of_next_source? {r : Request} {w : World (Shared ρ)} {p q : Position ρ} {i : Nat}
    {u : Task ρ (Except Error Token)}
    (loyal : ∀ k, p.origin? = some k → w.state.chain.selected = some k) (before : p.source? = none)
    (next : p.Next c r w q) (hq : q.source? = some (i, u)) : w.state.chain.selected = some i ∨
      p.inLoop = true ∧ i < c.sources.length ∧ w.state.chain.reason? i = none := by
  cases next with
  | ask selected =>
    cases hq
    exact .inl selected
  | askAfter =>
    cases hq
    exact .inl (loyal i rfl)
  | attempt valid inPlay =>
    cases hq
    exact .inr ⟨rfl, valid, inPlay⟩
  | work | answer => cases before
  | miss | knock | refuse | enter | queue | cancel | advance | expire | quit | yield | scan
  | missAfter | exhaust | skip | goOn | win | fail | breakDown | close | stay | gone => cases hq

/-- **A source that a move calls** is a source of the chain that is not ruled out. It is the
selected one, or the call that moves goes through the sources. -/
theorem open_of_starts {m : Crowd.Move Request} {s s' : Calls ρ} {i : Nat} (h : c.loyalPact.Holds s)
    (step : Crowd.Step c.getToken Beside m s s') (starts : c.Starts m s s' i) :
    i < c.sources.length ∧ s.world.state.chain.reason? i = none ∧
      (s.world.state.chain.selected = some i ∨
        ∃ id x, s.callers id = some x ∧ (c.position x).source? = none ∧
        (c.position x).inLoop = true) := by
  obtain ⟨id, x, x', u, rfl, here, before, here', after⟩ := starts
  cases step with
  | @go _ _ y w t hy next =>
    rw [here] at hy
    cases hy
    rw [Crowd.callers_put_self] at here'
    cases here'
    rw [position_after] at after
    obtain ⟨⟨-, fits⟩, loyal⟩ := h.caller here
    rcases of_next_source? loyal before (next_follow _) after with selected | ⟨loop, valid, inPlay⟩
    · exact ⟨h.world.valid i selected, h.world.inPlay i selected, .inl selected⟩
    · exact ⟨valid, inPlay, .inr ⟨id, x, here, before, loop⟩⟩

/-- A source is out of play: it is ruled out, or a scan has just heard from it that it does not
apply. -/
def OutOfPlay (c : Chain ρ) (s : Calls ρ) (i : Nat) : Prop :=
  (∃ reason, s.world.state.chain.reason? i = some reason) ∨
    ∃ id x ticket f credential reason, s.callers id = some x ∧
      c.position x = .trying ticket i f (.done (.error (.unavailable credential reason)))

/-- A call that has heard from a source is not dropped before it has noted the answer. -/
theorem drop?_trying_done {r : Request} {w : World (Shared ρ)} {ticket i : Nat} {f : Findings}
    (x : Except Error Token) :
    ((Position.trying ticket i f (.done x)).task c r).drop? w = none := by
  cases x <;> rfl

/-- **One move** brings no source back into play. -/
theorem OutOfPlay.step {m : Crowd.Move Request} {s s' : Calls ρ} {i : Nat} (out : c.OutOfPlay s i)
    (h : c.loyalPact.Holds s) (step : Crowd.Step c.getToken Beside m s s') : c.OutOfPlay s' i := by
  rcases out with ⟨reason, hi⟩ | ⟨id, x, ticket, f, credential, reason, here, hp⟩
  · exact .inl ⟨reason, retains_of_step h step i reason hi⟩
  · -- The call that has heard from the source notes the answer with its next step; until then it
    -- stays where it is.
    have stays :
        ∀ {w : World (Shared ρ)} {j : Nat} {y : Option (Call ρ)}, id ≠ j →
        c.OutOfPlay (s.put w j y) i :=
      fun {w j y} hne => .inr ⟨id, x, ticket, f, credential, reason,
        Crowd.callers_put.mpr (.inr ⟨hne, here⟩), hp⟩
    cases step with
    | @call _ j order free =>
      refine stays ?_
      rintro rfl
      rw [free] at here
      cases here
    | @go _ j y w t hy next =>
      by_cases hne : id = j
      · subst hne
        rw [here] at hy
        cases hy
        rw [(h.caller here).1.1, hp] at next
        left
        refine ⟨reason, ?_⟩
        rw [Crowd.put_world, (next?_task next).2]
        show (s.world.state.chain.ruleOut i reason).reason? i = some reason
        rw [ChainState.reason?_ruleOut, if_pos rfl]
      · exact stays hne
    | @drop _ j y w hy dropped =>
      refine stays ?_
      rintro rfl
      rw [here] at hy
      cases hy
      rw [(h.caller here).1.1, hp, drop?_trying_done] at dropped
      cases dropped
    | around hw => exact .inr ⟨id, x, ticket, f, credential, reason, here, hp⟩

theorem OutOfPlay.reaches {s s' : Calls ρ} {i : Nat} (out : c.OutOfPlay s i)
    (h : c.loyalPact.Holds s) (reaches : Crowd.Reaches c.getToken Beside s s') :
    c.OutOfPlay s' i := by
  induction reaches with
  | refl => exact out
  | tail before step ih =>
    obtain ⟨m, step⟩ := step
    exact ih.step (Pact.holds_of_reaches c.loyalPact_kept h before) step

/-- **A source that is out of play** is not called. -/
theorem not_starts_of_outOfPlay {m : Crowd.Move Request} {s s' : Calls ρ} {i : Nat}
    (h : c.loyalPact.Holds s) (out : c.OutOfPlay s i) (step : Crowd.Step c.getToken Beside m s s') :
    ¬ c.Starts m s s' i := by
  intro starts
  obtain ⟨-, inPlay, why⟩ := open_of_starts h step starts
  rcases out with ⟨reason, hi⟩ | ⟨id, x, ticket, f, credential, reason, here, hp⟩
  · rw [inPlay] at hi
    cases hi
  · have fits := (h.caller here).1.2
    have loop : (c.position x).inLoop = true := by rw [hp]; rfl
    rcases why with selected | ⟨id', y, hy, idle, loop'⟩
    · rw [fits.selected loop] at selected
      cases selected
    · by_cases hne : id = id'
      · subst hne
        rw [here] at hy
        cases hy
        rw [hp] at idle
        cases idle
      · -- Two calls would go through the sources.
        have := fits.not_hasTurn (h.caller hy).1.2 (h.apart here hy hne)
            (Position.hasTurn_of_inLoop loop)
        rw [Position.hasTurn_of_inLoop loop'] at this
        cases this

/-! ### What a scan has found -/

/-- What a scan knows of the places that it has passed: each was called or is ruled out, and failed
for the reason for which it is ruled out, if it is said not to apply. -/
structure Surveyed (c : Chain ρ) (s : ChainState) (called : Nat → Prop) (f : Findings) (i : Nat) :
    Prop where
  bounded : i ≤ c.sources.length
  visited : ∀ j < i, called j ∨ ∃ reason, s.reason? j = some reason
  failures : ∃ cause : Nat → Error,
    (f.failures = (List.range i).map fun j => (c.nameAt j, cause j)) ∧
      ∀ j < i, ∀ credential reason, cause j = .unavailable credential reason →
        s.reason? j = some reason

theorem surveyed_empty (c : Chain ρ) (s : ChainState) (called : Nat → Prop) :
    Surveyed c s called .empty 0 where
  bounded := Nat.zero_le _
  visited := nofun
  failures := ⟨fun _ => .json, rfl, nofun⟩

theorem Surveyed.mono {s s' : ChainState} {called called' : Nat → Prop} {f : Findings} {i : Nat}
    (h : Surveyed c s called f i) (retains : Retains s s') (more : ∀ j, called j → called' j) :
    Surveyed c s' called' f i where
  bounded := h.bounded
  visited j hj := (h.visited j hj).imp (more j) fun ⟨reason, hr⟩ => ⟨reason, retains j reason hr⟩
  failures := by
    obtain ⟨cause, hf, hcause⟩ := h.failures
    exact ⟨cause, hf, fun j hj credential reason he =>
      retains j reason (hcause j hj credential reason he)⟩

theorem Surveyed.push {s : ChainState} {called : Nat → Prop} {f f' : Findings} {i : Nat} {e : Error}
    (h : Surveyed c s called f i) (valid : i < c.sources.length)
    (visited : called i ∨ ∃ reason, s.reason? i = some reason)
    (adds : f'.failures = f.failures ++ [(c.nameAt i, e)])
    (noted : ∀ credential reason, e = .unavailable credential reason → s.reason? i = some reason) :
    Surveyed c s called f' (i + 1) where
  bounded := valid
  visited j hj := by
    rcases Nat.lt_succ_iff_lt_or_eq.mp hj with lt | rfl
    · exact h.visited j lt
    · exact visited
  failures := by
    obtain ⟨cause, hf, hcause⟩ := h.failures
    refine ⟨Function.update cause i e, ?_, fun j hj credential reason he => ?_⟩
    · rw [adds, hf, List.range_succ, List.map_append]
      congr 1
      · refine List.map_congr_left fun j hj => ?_
        rw [Function.update_of_ne (by have := List.mem_range.mp hj; omega)]
      · simp
    · rcases Nat.lt_succ_iff_lt_or_eq.mp hj with lt | rfl
      · rw [Function.update_of_ne (by omega)] at he
        exact hcause j lt credential reason he
      · rw [Function.update_self] at he
        exact noted credential reason he

/-- What is known at a position. -/
def Surveys (c : Chain ρ) (s : ChainState) (called : Nat → Prop) : Position ρ → Prop
  | .scanning _ i f => Surveyed c s called f i
  | .skipping _ i f reason =>
    Surveyed c s called f i ∧ s.reason? i = some reason ∧ i < c.sources.length
  | .trying _ i f _ => Surveyed c s called f i ∧ called i
  | .closing _ none (.error (.aggregate fs)) =>
    ∃ f, f.failures = fs ∧ Surveyed c s called f c.sources.length
  | _ => True

theorem Surveys.mono {s s' : ChainState} {called called' : Nat → Prop} {p : Position ρ}
    (h : Surveys c s called p) (retains : Retains s s') (more : ∀ j, called j → called' j) :
    Surveys c s' called' p := by
  unfold Surveys at h ⊢
  split
  · exact h.mono retains more
  · exact ⟨h.1.mono retains more, retains _ _ h.2.1, h.2.2⟩
  · exact ⟨h.1.mono retains more, more _ h.2⟩
  · obtain ⟨f, hf, surveyed⟩ := h
    exact ⟨f, hf, surveyed.mono retains more⟩
  · trivial

/-- **A step of a call** leads on with what has been found. -/
theorem Surveys.next {r : Request} {w : World (Shared ρ)} {p q : Position ρ}
    {called called' : Nat → Prop} (h : Surveys c w.state.chain called p)
    (fits : Fits c w.state.chain p) (next : p.Next c r w q) (more : ∀ j, called j → called' j)
    (here : ∀ i u, q.source? = some (i, u) → called' i) :
    Surveys c (p.effect c w.state.chain) called' q := by
  have retains := retains_effect fits
  cases next with
  | scan => exact surveyed_empty ..
  | exhaust beyond =>
    have surveyed : Surveyed c w.state.chain called _ _ := h
    have hi := Nat.le_antisymm surveyed.bounded beyond
    subst hi
    exact ⟨_, rfl, surveyed.mono retains more⟩
  | skip valid closed => exact ⟨h.mono retains more, retains _ _ closed, valid⟩
  | attempt => exact ⟨h.mono retains more, here _ _ rfl⟩
  | goOn =>
    obtain ⟨surveyed, closed, valid⟩ := h
    refine (surveyed.mono retains more).push valid (.inr ⟨_, closed⟩) rfl
      fun credential reason he => ?_
    cases he
    exact closed
  | @fail t i f e =>
    obtain ⟨surveyed, called⟩ := h
    refine (surveyed.mono retains more).push fits.scan.2.2.2 (.inl (more _ called)) rfl
      fun credential reason he => ?_
    subst he
    show (w.state.chain.ruleOut i reason).reason? i = some reason
    rw [ChainState.reason?_ruleOut, if_pos rfl]
  | work unfinished unbroken => exact ⟨h.1.mono retains more, more _ h.2⟩
  | ask | miss | knock | refuse | enter | queue | cancel | advance | expire | quit | yield
  | askAfter | missAfter | win | breakDown | close | answer | stay | gone => trivial

/-- What the calls of a chain have found. -/
def surveyPact (c : Chain ρ) : Pact Request (Shared ρ) (Except Error Token) :=
  c.loyalPact.also fun w x => Surveys c w.state.chain (Called c x.order x.history) (c.position x)

theorem surveyPact_kept (c : Chain ρ) : c.surveyPact.Kept c.getToken Beside := by
  refine c.loyalPact_kept.also (fun r _ => trivial) ?_ ?_ ?_ ?_
  · intro w w' x t sound hx surveys next
    obtain ⟨hrest, fits⟩ := hx.1
    rw [hrest] at next
    show Surveys c w'.state.chain (Called c x.order (x.history ++ [(w, w')]))
      (c.position (x.after w w' t))
    rw [(next?_task next).2, position_after]
    refine surveys.next fits (next_follow _) (fun j hj => hj.append _) fun i u hu =>
      called_self (u := u) ?_
    rw [Position.of_snoc]
    exact hu
  · intro w w' x y t sound hx hy apart next surveys
    obtain ⟨hrest, fits⟩ := hx.1
    rw [hrest] at next
    refine surveys.mono ?_ fun j hj => hj
    rw [(next?_task next).2]
    exact retains_effect fits
  · intro w w' x y sound hx dropped surveys
    rw [hx.1.1] at dropped
    refine surveys.mono ?_ fun j hj => hj
    rw [drop?_task dropped]
    exact retains_release _ _
  · intro w w' y sound hy beside surveys
    rw [show w'.state.chain = w.state.chain from beside]
    exact surveys

/-! ### After a scan without success -/

/-- **A source that is called later** was called by a scan that went through all sources without
success. -/
theorem called_of_starts {s s' s'' : Calls ρ} {m : Crowd.Move Request} {id t i : Nat} {x : Call ρ}
    {fs : List (String × Error)} (h : c.surveyPact.Holds s) (hx : s.callers id = some x)
    (at_ : c.position x = .closing t none (.error (.aggregate fs)))
    (reaches : Crowd.Reaches c.getToken Beside s s') (step : Crowd.Step c.getToken Beside m s' s'')
    (starts : c.Starts m s' s'' i) : Called c x.order x.history i := by
  have loyal : c.loyalPact.Holds s := h.of_also
  obtain ⟨valid, inPlay, -⟩ :=
    open_of_starts (Pact.holds_of_reaches c.loyalPact_kept loyal reaches) step starts
  have surveys : Surveys c s.world.state.chain (Called c x.order x.history) (c.position x) :=
    (h.caller hx).2
  rw [at_] at surveys
  obtain ⟨f, -, surveyed⟩ := surveys
  rcases surveyed.visited i valid with called | ⟨reason, hr⟩
  · exact called
  · rw [(retains_of_reaches loyal reaches).none inPlay] at hr
    cases hr

/-- Whether a call has not come to its turn yet. -/
def Position.isEarly : Position ρ → Bool
  | arriving | knocking | entering | queued _ | quitting .. | admitted _ | yielding .. => true
  | _ => false

/-- Whether a call goes no further through the sources. -/
def Position.isLate : Position ρ → Bool
  | asking .. | ended .. | lost => true
  | _ => false

/-- A step does not lead from one source at work to another one. -/
theorem place_of_next {r : Request} {w : World (Shared ρ)} {p q : Position ρ} {i j : Nat}
    {u v : Task ρ (Except Error Token)} (next : p.Next c r w q) (hp : p.source? = some (i, u))
    (hq : q.source? = some (j, v)) : i = j := by
  cases next with
  | work | answer =>
    cases hp
    cases hq
    rfl
  | win | fail | breakDown => cases hq
  | ask | miss | knock | refuse | enter | queue | cancel | advance | expire | quit | yield | scan
  | askAfter | missAfter | exhaust | skip | attempt | goOn | close | stay | gone => cases hp

theorem isLate_next {r : Request} {w : World (Shared ρ)} {p q : Position ρ} (next : p.Next c r w q)
    (late : p.isLate = true) : q.isLate = true := by
  cases next <;> first | rfl | cases late

theorem isEarly_of_next {r : Request} {w : World (Shared ρ)} {p q : Position ρ}
    (next : p.Next c r w q) (early : q.isEarly = true) : p.isEarly = true ∧ q.source? = none := by
  cases next <;> first | exact ⟨rfl, rfl⟩ | cases early

theorem not_called_of_isEarly {r : Request} (h : History (Shared ρ))
    (early : (Position.of c r h).isEarly = true) (i : Nat) : ¬ Called c r h i := by
  induction h using List.reverseRecOn with
  | nil =>
    rintro ⟨h₁, h₂, u, he, hu⟩
    obtain ⟨rfl, rfl⟩ := List.append_eq_nil_iff.mp he.symm
    cases hu
  | append_singleton h step ih =>
    obtain ⟨w, w'⟩ := step
    rw [Position.of_snoc] at early
    obtain ⟨before, idle⟩ := isEarly_of_next (next_follow _) early
    intro called
    rcases called.of_snoc with called | ⟨u, hu⟩
    · exact ih before called
    · rw [idle] at hu
      cases hu

/-- After a scan without success, a call that is not late has called only what that scan called. -/
theorem called_of_reaches {s s' : Calls ρ} {id t : Nat} {x : Call ρ} {fs : List (String × Error)}
    (h : c.surveyPact.Holds s) (hx : s.callers id = some x)
    (at_ : c.position x = .closing t none (.error (.aggregate fs)))
    (reaches : Crowd.Reaches c.getToken Beside s s') {id' : Nat} {y : Call ρ}
    (hy : s'.callers id' = some y) :
    (c.position y).isLate = true ∨ ∀ i, Called c y.order y.history i →
      Called c x.order x.history i := by
  induction reaches generalizing id' y with
  | refl =>
    by_cases hne : id = id'
    · subst hne
      rw [hx] at hy
      cases hy
      exact .inr fun i hi => hi
    · -- The scan has its turn, so the other call waits for its own or is through.
      have turn :=
        (h.caller hx).1.1.2.not_hasTurn (h.caller hy).1.1.2 (h.apart hx hy hne) (by rw [at_]; rfl)
      have hp : (c.position y).isEarly = true ∨ (c.position y).isLate = true := by
        cases hq : c.position y <;> rw [hq] at turn <;>
          first | exact .inl rfl | exact .inr rfl | cases turn
      rcases hp with early | late
      · exact .inr fun i hi => absurd hi (not_called_of_isEarly _ early i)
      · exact .inl late
  | @tail s₁ s₂ before step ih =>
    obtain ⟨m, step⟩ := step
    cases step with
    | call free =>
      rcases Crowd.callers_put.mp hy with ⟨-, he⟩ | ⟨-, hy⟩
      · cases he
        exact .inr fun i hi => absurd hi (not_called_of_isEarly [] rfl i)
      · exact ih hy
    | drop hd dropped =>
      rcases Crowd.callers_put.mp hy with ⟨-, he⟩ | ⟨-, hy⟩
      · cases he
      · exact ih hy
    | around hw => exact ih hy
    | @go _ j z w u hz next =>
      rcases Crowd.callers_put.mp hy with ⟨rfl, he⟩ | ⟨-, hy⟩
      · cases he
        rw [position_after]
        rcases ih hz with late | only
        · exact .inl (isLate_next (next_follow _) late)
        · refine .inr fun i hi => ?_
          rcases Called.of_snoc hi with called | ⟨v, hv⟩
          · exact only i called
          · rcases hq : (c.position z).source? with _ | ⟨k, v'⟩
            · exact called_of_starts h hx at_ before (.go hz next)
                ⟨id', z, _, v, rfl, hz, hq,
                  Crowd.callers_put_self .., by rw [position_after]; exact hv⟩
            · obtain rfl := place_of_next (next_follow _) hq hv
              exact only k (called_self hq)
      · exact ih hy

end Steps

end TokenChain.Chain
