import TokenChain.Proofs.Chain.Memory
import TokenChain.Proofs.Task.Alone

/-! # Calls one after another

What a chain does if nobody else works with it: each call ends before the next one begins.
`Chain.Serial` are the runs of the chain itself, `Chain.Conducts` the runs of the reference of
`Memory`, in which the sources are really asked. `serial_conducts` says that a chain does in such a
run exactly what the reference says. -/

namespace TokenChain

namespace ChainState

theorem lookup_cons_eq (i j : Nat) (a : String) (l : List (Nat × String)) :
    ((i, a) :: l).lookup j = if j = i then some a else l.lookup j := by
  rw [List.lookup_cons]
  by_cases h : j = i
  · simp [h]
  · rw [beq_false_of_ne h, if_neg h]

theorem lookup_filter_ne (i j : Nat) (l : List (Nat × String)) :
    (l.filter fun r => r.1 != i).lookup j = if j = i then none else l.lookup j := by
  induction l with
  | nil => simp
  | cons p l ih =>
    obtain ⟨a, s⟩ := p
    by_cases ha : a = i
    · rw [List.filter_cons_of_neg (by simp [ha]), ih, lookup_cons_eq, ha]
      split_ifs <;> rfl
    · rw [List.filter_cons_of_pos (by simp [ha]), lookup_cons_eq, lookup_cons_eq, ih]
      split_ifs with hj hi
      · exact absurd (hj.symm.trans hi) ha
      · rfl
      · rfl
      · rfl

theorem reason?_ruleOut (i j : Nat) (reason : String) (s : ChainState) :
    (s.ruleOut i reason).reason? j = if j = i then some reason else s.reason? j := by
  rw [reason?, ruleOut, lookup_cons_eq, lookup_filter_ne]
  split_ifs with h
  · rfl
  · rfl

end ChainState

/-- A source that always comes to an end, with a token or an error. -/
def Source.Answers {ρ : Type} (s : Source ρ) : Prop :=
  ∀ (r : Request) (w : World ρ), ∃ w' x, (s.getToken r).Ends w w' x

namespace Chain

open TokenChain.Task TokenChain.Shared TokenChain.Memory

variable {ρ : Type}

theorem noteFailure_eq (i : Nat) (e : Error) (s : ChainState) :
    (noteFailure i e s).selected = s.selected ∧ (noteFailure i e s).lastScan = s.lastScan ∧
      (noteFailure i e s).turns = s.turns ∧
      ∀ j, (noteFailure i e s).reason? j =
        if j = i then (reasonIn (.error e)).or (s.reason? i) else s.reason? j := by
  cases e <;> refine ⟨rfl, rfl, rfl, fun j => ?_⟩
  case unavailable => exact s.reason?_ruleOut i j _
  all_goals by_cases h : j = i <;> simp [noteFailure, reasonIn, h]

/-! ### Sources at work -/

/-- The sources at the given places are asked one after another, each once, and reply as `reply`
says. -/
inductive Asked (c : Chain ρ) (r : Request) (reply : Nat → Except Error Token) :
    List Nat → World ρ → World ρ → Prop
  | nil {w w' : World ρ} (passes : w.Passes w') : Asked c r reply [] w w'
  | cons {i : Nat} {places : List Nat} {source : Source ρ} {w w₁ w₂ w' : World ρ}
      (passes : w.Passes w₁) (here : c.sources[i]? = some source)
      (ends : (source.getToken r).Ends w₁ w₂ (reply i)) (rest : Asked c r reply places w₂ w') :
      Asked c r reply (i :: places) w w'

theorem Asked.of_passes {c : Chain ρ} {r : Request}
    {reply : Nat → Except Error Token} {places : List Nat} {w w₁ w' : World ρ}
    (h : Asked c r reply places w₁ w') (passes : w.Passes w₁) : Asked c r reply places w w' := by
  cases h with
  | nil passes' => exact .nil (passes.trans passes')
  | cons passes' here ends rest => exact .cons (passes.trans passes') here ends rest

theorem Asked.congr {c : Chain ρ} {r : Request}
    {reply reply' : Nat → Except Error Token} {places : List Nat} {w w' : World ρ}
    (h : Asked c r reply places w w') (hr : ∀ i ∈ places, reply' i = reply i) :
    Asked c r reply' places w w' := by
  induction h with
  | nil passes => exact .nil passes
  | cons passes here ends _ ih =>
    rw [← hr _ List.mem_cons_self] at ends
    exact .cons passes here ends (ih fun j hj => hr j (List.mem_cons_of_mem _ hj))

/-! ### A scan -/

/-- What the chain remembers in a world. -/
abbrev memory (w : World (Shared ρ)) : Memory := ofState w.state.chain

/-- The name of the source at a place. -/
def nameAt (c : Chain ρ) (i : Nat) : String := ((c.sources[i]?).map Source.name).getD ""

/-- What a scan of the given places does that has found `f` before: whom it asks, what it leaves
behind and what the caller gets. -/
structure Scanned (c : Chain ρ) (r : Request) (reply : Nat → Except Error Token) (places : List Nat)
    (f : Findings) (w w' : World (Shared ρ)) (x : Except Error Token) : Prop where
  asked : c.Asked r reply (((memory w).path reply places).filter (memory w).isOpen)
    (outside w) (outside w')
  turns : w'.state.chain.turns = w.state.chain.turns
  selected : (memory w').selected = places.find? ((memory w).wins reply)
  ruledOut : ∀ j, (memory w').ruledOut j =
    if j ∈ ((memory w).path reply places).filter (memory w).isOpen then reasonIn (reply j)
    else (memory w).ruledOut j
  lastScan : (memory w').lastScan =
    f.fares ++ ((memory w).path reply places).map fun j => (j, (memory w).fare reply j)
  result : x = match places.find? ((memory w).wins reply) with
    | some k => reply k
    | none => .error (.aggregate (f.failures ++
        places.map fun j => (c.nameAt j, (memory w).cause reply c.nameAt j)))

namespace Scanned

variable {c : Chain ρ} {r : Request} {places : List Nat} {f : Findings} {w w₁ w' : World (Shared ρ)}
  {x : Except Error Token} {i : Nat}

theorem nil (h : w.state.chain.selected = none) :
    Scanned c r (fun _ => .error .json) [] f w
      { w with state := Shared.onChain (ChainState.conclude f.fares) w.state }
      (.error (.aggregate f.failures)) where
  asked := .nil (.refl _)
  turns := rfl
  selected := h
  ruledOut _ := by
    simp [path, memory, ofState, Shared.onChain, ChainState.conclude, ChainState.reason?]
  lastScan := by simp [path, memory, ofState, Shared.onChain, ChainState.conclude]
  result := by simp

theorem skip {reply : Nat → Except Error Token} {n : Note} {reason : String}
    (hi : w.state.chain.reason? i = some reason)
    (h : Scanned c r reply places (f.skip i (c.nameAt i) reason) (w.append n) w' x) :
    Scanned c r reply (i :: places) f w w' x := by
  have hm : (memory w).ruledOut i = some reason := hi
  have closed : (memory w).isOpen i = false := by simp [isOpen, hm]
  have loses : (memory w).wins reply i = false := by simp [wins, closed]
  have hpath : (memory w).path reply (i :: places) = i :: (memory w).path reply places := by
    simp [path, loses]
  have hfilter : (i :: (memory w).path reply places).filter (memory w).isOpen =
      ((memory w).path reply places).filter (memory w).isOpen :=
    List.filter_cons_of_neg (by simp [closed])
  have hfind : (i :: places).find? ((memory w).wins reply) = places.find? ((memory w).wins reply) :=
    List.find?_cons_of_neg (by simp [loses])
  refine ⟨?_, h.turns, ?_, ?_, ?_, ?_⟩
  · rw [hpath, hfilter]
    exact h.asked.of_passes ⟨rfl, Int.le_refl _, fun _ hk => hk⟩
  · rw [hfind]
    exact h.selected
  · rw [hpath, hfilter]
    exact h.ruledOut
  · have hfare : (memory w).fare reply i = .skipped reason := by simp [fare, hm]
    rw [hpath, List.map_cons, hfare, h.lastScan]
    simp [Findings.skip, World.append]
  · have hcause : (memory w).cause reply c.nameAt i = .unavailable (c.nameAt i) reason := by
      simp [cause, hm]
    rw [hfind, List.map_cons, hcause, h.result]
    simp [Findings.skip, World.append]

theorem win {source : Source ρ} {token : Token} (here : c.sources[i]? = some source)
    (hi : w.state.chain.reason? i = none)
    (h : (Shared.lift (source.getToken r)).Ends w w₁ (.ok token)) :
    Scanned c r (fun _ => .ok token) (i :: places) f w
      { w₁ with state := Shared.onChain (ChainState.select i (f.succeed i token)) w₁.state }
        (.ok token) := by
  obtain ⟨ends, same⟩ := ends_lift.mp h
  have hm : (memory w).ruledOut i = none := hi
  have wins : (memory w).wins (fun _ => .ok token) i = true := by
    simp [Memory.wins, isOpen, hm, Except.isOk, Except.toBool]
  have hpath : (memory w).path (fun _ => .ok token) (i :: places) = [i] := by simp [path, wins]
  have hfilter : [i].filter (memory w).isOpen = [i] := by simp [isOpen, hm]
  have hfind : (i :: places).find? ((memory w).wins fun _ => .ok token) = some i :=
    List.find?_cons_of_pos wins
  refine ⟨?_, ?_, hfind.symm ▸ rfl, fun j => ?_, ?_, by rw [hfind]⟩
  · rw [hpath, hfilter]
    exact .cons (.refl _) here ends (.nil (.refl _))
  · show w₁.state.chain.turns = w.state.chain.turns
    rw [same]
  · rw [hpath, hfilter]
    show w₁.state.chain.reason? j = if j ∈ [i] then none else w.state.chain.reason? j
    rw [same]
    split_ifs with hj
    · rw [List.mem_singleton.mp hj]
      exact hi
    · rfl
  · have hfare : (memory w).fare (fun _ => .ok token) i = .succeeded token.expiresAt := by
      simp [fare, hm]
    rw [hpath, List.map_singleton, hfare]
    rfl

theorem fail {source : Source ρ} {e : Error} {reply : Nat → Except Error Token}
    (here : c.sources[i]? = some source) (hi : w.state.chain.reason? i = none) (fresh : i ∉ places)
    (h : (Shared.lift (source.getToken r)).Ends w w₁ (.error e))
    (rest : Scanned c r reply places (f.fail i (c.nameAt i) e)
      { w₁ with state := Shared.onChain (noteFailure i e) w₁.state } w' x) :
    Scanned c r (fun j => if j = i then .error e else reply j) (i :: places) f w w' x := by
  obtain ⟨ends, same⟩ := ends_lift.mp h
  obtain ⟨-, -, hturns, hreason⟩ := noteFailure_eq i e w₁.state.chain
  set reply' : Nat → Except Error Token := fun j => if j = i then .error e else reply j
  set u : World (Shared ρ) := { w₁ with state := Shared.onChain (noteFailure i e) w₁.state }
  have hm : (memory w).ruledOut i = none := hi
  have here' : reply' i = .error e := if_pos rfl
  have hruled : ∀ j, (memory u).ruledOut j =
      if j = i then reasonIn (.error e) else (memory w).ruledOut j := fun j => by
    rw [show (memory u).ruledOut j = _ from hreason j, same, hi, Option.or_none]
    rfl
  have agree : Agree (memory u) (memory w) reply reply' places := by
    refine ⟨fun j hj => ?_, fun j hj => if_neg ?_⟩
    · rw [hruled j, if_neg]
      rintro rfl
      exact fresh hj
    · rintro rfl
      exact fresh hj
  have loses : (memory w).wins reply' i = false := by
    simp [wins, here', Except.isOk, Except.toBool]
  have hpath : (memory w).path reply' (i :: places) = i :: (memory u).path reply places := by
    simp [path, loses, agree.path]
  have hfilter : (i :: (memory u).path reply places).filter (memory w).isOpen =
      i :: ((memory u).path reply places).filter (memory u).isOpen := by
    rw [List.filter_cons_of_pos (by simp [isOpen, hm]), agree.opens]
  have hfind :
      (i :: places).find? ((memory w).wins reply') = places.find? ((memory u).wins reply) := by
    rw [List.find?_cons_of_neg (by simp [loses]), agree.find?]
  refine ⟨?_, ?_, ?_, fun j => ?_, ?_, ?_⟩
  · rw [hpath, hfilter]
    refine .cons (.refl _) here (here'.symm ▸ ends) (rest.asked.congr fun j hj => agree.reply j ?_)
    exact mem_of_mem_path (List.mem_filter.mp hj).1
  · rw [rest.turns, ← same]
    exact hturns
  · rw [hfind]
    exact rest.selected
  · rw [hpath, hfilter, rest.ruledOut j, hruled j]
    by_cases hj : j = i
    · subst hj
      have out : j ∉ ((memory u).path reply places).filter (memory u).isOpen := fun h =>
        fresh (mem_of_mem_path (List.mem_filter.mp h).1)
      rw [if_neg out, if_pos rfl, if_pos List.mem_cons_self, here']
    · have hr : reply' j = reply j := if_neg hj
      rw [if_neg hj, hr]
      simp [hj]
  · have hfare : (memory w).fare reply' i = .failed e.category e.message := by
      simp [fare, hm, here']
    rw [hpath, List.map_cons, hfare, rest.lastScan, ← agree.fares]
    simp [Findings.fail]
  · have hcause : (memory w).cause reply' c.nameAt i = e := by simp [cause, hm, here']
    have hwin : ∀ k, places.find? ((memory u).wins reply) = some k → reply' k = reply k :=
        fun k hk =>
      agree.reply k (List.mem_of_find?_eq_some hk)
    rw [hfind, List.map_cons, hcause, rest.result, ← agree.causes]
    cases hk : places.find? ((memory u).wins reply) with
    | none => simp [Findings.fail]
    | some k => exact (hwin k hk).symm

end Scanned

theorem getElem?_of_drop {l rest : List (Source ρ)} {source : Source ρ} {i : Nat}
    (h : l.drop i = source :: rest) : l[i]? = some source ∧ l.drop (i + 1) = rest := by
  refine ⟨?_, ?_⟩
  · have := congrArg (·[0]?) h
    simpa [List.getElem?_drop] using this
  · rw [← List.tail_drop, h, List.tail_cons]

/-- **A scan** from place `i` on does what the reference says, for some replies of the sources. -/
theorem scanned_of_ends (c : Chain ρ) (r : Request) :
    ∀ (rest : List (Source ρ)) (i : Nat) (f : Findings)
    {w w' : World (Shared ρ)} {x : Except Error Token}, c.sources.drop i = rest →
      w.state.chain.selected = none → (scanFrom r rest i f).Ends w w' x →
        ∃ reply, Scanned c r reply (List.range' i rest.length) f w w' x
  | [], i, f, w, w', x, _, hsel, h => by
    simp only [scanFrom, ends_step, ends_done] at h
    obtain ⟨rfl, rfl⟩ := h
    exact ⟨_, .nil hsel⟩
  | source :: rest, i, f, w, w', x, hdrop, hsel, h => by
    obtain ⟨here, hdrop'⟩ := getElem?_of_drop hdrop
    have hname : c.nameAt i = source.name := by simp [nameAt, here]
    have fresh : i ∉ List.range' (i + 1) rest.length := fun hi => by
      have := List.mem_range'_1.mp hi
      omega
    rw [List.length_cons, List.range'_succ]
    rw [scanFrom, ends_step_id] at h
    cases hreason : w.state.chain.reason? i with
    | some reason =>
      simp only [hreason, ends_note, ← hname] at h
      have hsel' : (w.append ⟨.debug, c.nameAt i, skipNotice reason⟩).state.chain.selected = none :=
        hsel
      obtain ⟨reply, hs⟩ := scanned_of_ends c r rest (i + 1) _ hdrop' hsel' h
      exact ⟨reply, hs.skip hreason⟩
    | none =>
      simp only [hreason, ends_bind] at h
      obtain ⟨answer, w₁, hask, hgo⟩ := h
      cases answer with
      | ok token =>
        simp only [ends_step, ends_done] at hgo
        obtain ⟨rfl, rfl⟩ := hgo
        exact ⟨_, .win here hreason hask⟩
      | error e =>
        simp only [ends_step, ← hname] at hgo
        have same := (ends_lift.mp hask).2
        have hsel' : (noteFailure i e w₁.state.chain).selected = none := by
          rw [(noteFailure_eq i e _).1, same]
          exact hsel
        obtain ⟨reply, hs⟩ := scanned_of_ends c r rest (i + 1) _ hdrop' hsel' hgo
        exact ⟨_, .fail here hreason fresh hask hs⟩

/-! ### A call -/

theorem run_waitTurn {r : Request} {w : World (Shared ρ)} (alive : w.cancelled r.cancel = false)
    (idle : w.state.chain.turns.waiting = []) :
    (waitTurn r).run w =
      ({ w with state := Shared.onChain ChainState.enter w.state },
        .done (.ok w.state.chain.turns.next)) := by
  simp [waitTurn, Request.within, alive, Request.limitEnd?, giveUp, run, Wait.wake?, Shared.onChain,
    ChainState.enter, Turns.enter, Turns.isFirst, idle]

/-- A call that finds nothing selected and nobody at work scans between taking a ticket and giving
it back. -/
theorem ends_getToken_of_none {c : Chain ρ} {r : Request} {w w' : World (Shared ρ)}
    {x : Except Error Token} (alive : w.cancelled r.cancel = false)
    (idle : w.state.chain.turns.waiting = []) (hsel : w.state.chain.selected = none) :
    (c.getToken r).Ends w w' x ↔ ∃ w₁, (scanFrom r c.sources 0 .empty).Ends
        { w with state := Shared.onChain ChainState.enter w.state } w₁ x ∧
      w' = { w₁ with
        state := Shared.onChain (ChainState.leave w.state.chain.turns.next) w₁.state } := by
  set u : World (Shared ρ) := { w with state := Shared.onChain ChainState.enter w.state }
  have hturn : ∀ {w₂ y}, (waitTurn r).Ends w w₂ y ↔ w₂ = u ∧ y = .ok w.state.chain.turns.next :=
    ends_of_run (run_waitTurn alive idle)
  have hsel' : u.state.chain.selected = none := hsel
  have htake : (c.takeTurn r w.state.chain.turns.next).Ends u w' x ↔
      ∃ w₁, (scanFrom r c.sources 0 .empty).Ends u w₁ x ∧
        w' = { w₁ with
          state := Shared.onChain (ChainState.leave w.state.chain.turns.next) w₁.state } := by
    simp only [takeTurn, hsel', ends_bind, ends_onLoss, leaveWith, ends_step, ends_done]
    constructor
    · rintro ⟨y, w₁, hscan, hw, rfl⟩
      exact ⟨w₁, hscan, hw⟩
    · rintro ⟨w₁, hscan, hw⟩
      exact ⟨x, w₁, hscan, hw, rfl⟩
  rw [← htake, getToken, ends_step_id]
  simp only [hsel, ends_bind]
  constructor
  · rintro ⟨y, w₂, hwait, hgo⟩
    obtain ⟨rfl, rfl⟩ := hturn.mp hwait
    exact hgo
  · exact fun h => ⟨_, u, hturn.mpr ⟨rfl, rfl⟩, h⟩

/-- Nobody waits for a turn, and what is selected is a source of the chain. -/
structure Resting (c : Chain ρ) (w : World (Shared ρ)) : Prop where
  idle : w.state.chain.turns.waiting = []
  valid : ∀ k, w.state.chain.selected = some k → k < c.sources.length

/-- A call has done what `Memory.call` says, for some replies of the sources, and nobody is at work
after it. -/
def Obeys (c : Chain ρ) (r : Request) (w w' : World (Shared ρ)) (x : Except Error Token) : Prop :=
  ∃ reply, c.Asked r reply ((memory w).call reply c.nameAt c.sources.length).asked
    (outside w) (outside w') ∧ x = ((memory w).call reply c.nameAt c.sources.length).result ∧
    memory w' = ((memory w).call reply c.nameAt c.sources.length).after ∧ c.Resting w'

section Calls
variable {c : Chain ρ} {r : Request} {w w' : World (Shared ρ)} {x : Except Error Token}

theorem obeys_of_selected {k : Nat} (rests : c.Resting w) (hsel : w.state.chain.selected = some k)
    (h : (c.getToken r).Ends w w' x) : c.Obeys r w w' x := by
  rw [getToken, ends_step_id] at h
  simp only [hsel, ask] at h
  cases here : c.sources[k]? with
  | none =>
    simp only [here, not_ends_crash] at h
  | some source =>
    simp only [here] at h
    obtain ⟨ends, same⟩ := ends_lift.mp h
    have hcall : (memory w).call (fun _ => x) c.nameAt c.sources.length = ⟨[k], x, memory w⟩ := by
      simp [call, ofState, hsel]
    refine ⟨fun _ => x, ?_, ?_, ?_, ?_⟩
    · rw [hcall]
      exact .cons (.refl _) here ends (.nil (.refl _))
    · rw [hcall]
    · rw [hcall, memory, same]
    · exact ⟨by rw [same, rests.idle], by rw [same]; exact rests.valid⟩

theorem obeys_of_scan (rests : c.Resting w) (alive : w.cancelled r.cancel = false)
    (hsel : w.state.chain.selected = none) (h : (c.getToken r).Ends w w' x) : c.Obeys r w w' x := by
  obtain ⟨w₁, hscan, rfl⟩ := (ends_getToken_of_none alive rests.idle hsel).mp h
  set u : World (Shared ρ) := { w with state := Shared.onChain ChainState.enter w.state }
  have hsel' : u.state.chain.selected = none := hsel
  obtain ⟨reply, hs⟩ := scanned_of_ends c r c.sources 0 .empty rfl hsel' hscan
  rw [← List.range_eq_range'] at hs
  obtain ⟨hasked, hturns, hselected, hruled, hlast, hresult⟩ := hs
  have same : memory u = memory w := rfl
  rw [same] at hasked hselected hruled hlast hresult
  rw [path_range] at hasked hruled hlast
  have hcall : (memory w).call reply c.nameAt c.sources.length =
      ⟨(memory w).asked reply c.sources.length,
        (memory w).scanResult reply c.nameAt c.sources.length,
        (memory w).afterScan reply c.sources.length⟩ := by
    simp [call, ofState, hsel]
  refine ⟨reply, ?_, ?_, ?_, ?_, ?_⟩
  · rw [hcall]
    exact hasked
  · rw [hcall, hresult]
    rfl
  · rw [hcall]
    show (⟨(memory w₁).selected, (memory w₁).ruledOut, (memory w₁).lastScan⟩ : Memory) = _
    rw [hselected, funext hruled, hlast]
    rfl
  · show (w₁.state.chain.turns.leave w.state.chain.turns.next).waiting = []
    rw [hturns]
    simp [u, Shared.onChain, ChainState.enter, Turns.enter, Turns.leave, rests.idle]
  · intro k hk
    have found : (List.range c.sources.length).find? ((memory w).wins reply) = some k :=
      hselected.symm.trans hk
    exact List.mem_range.mp (List.mem_of_find?_eq_some found)

/-- **A call** does what the reference says. -/
theorem obeys_of_ends (rests : c.Resting w) (alive : w.cancelled r.cancel = false)
    (h : (c.getToken r).Ends w w' x) : c.Obeys r w w' x := by
  cases hsel : w.state.chain.selected with
  | some k => exact obeys_of_selected rests hsel h
  | none => exact obeys_of_scan rests alive hsel h

end Calls

/-! ### Calls that end -/

theorem scanFrom_ends (r : Request) : ∀ (rest : List (Source ρ)) (i : Nat) (f : Findings)
    (w : World (Shared ρ)), (∀ s ∈ rest, s.Answers) → ∃ w' x, (scanFrom r rest i f).Ends w w' x
  | [], i, f, w, _ => ⟨_, _, .now rfl⟩
  | source :: rest, i, f, w, h => by
    have later :=
      fun f w => scanFrom_ends r rest (i + 1) f w fun s hs => h s (List.mem_cons_of_mem source hs)
    rw [scanFrom]
    simp only [ends_step_id]
    cases w.state.chain.reason? i with
    | some reason =>
      obtain ⟨w', x, hend⟩ := later (f.skip i source.name reason) (w.append _)
      exact ⟨w', x, ends_note.mpr hend⟩
    | none =>
      obtain ⟨v, answer, hask⟩ := h source List.mem_cons_self r (outside w)
      have hlift := ends_lift_of hask (u := w) rfl
      cases answer with
      | ok token => exact ⟨_, _, hlift.bind (ends_step.mpr (ends_done.mpr ⟨rfl, rfl⟩))⟩
      | error e =>
        obtain ⟨w', x, hend⟩ := later (f.fail i source.name e) _
        exact ⟨w', x, hlift.bind (ends_step.mpr hend)⟩

theorem getToken_ends {c : Chain ρ} {r : Request} {w : World (Shared ρ)} (rests : c.Resting w)
    (alive : w.cancelled r.cancel = false) (h : ∀ s ∈ c.sources, s.Answers) :
    ∃ w' x, (c.getToken r).Ends w w' x := by
  cases hsel : w.state.chain.selected with
  | some k =>
    have here := List.getElem?_eq_getElem (rests.valid k hsel)
    obtain ⟨v, x, hask⟩ := h _ (List.getElem_mem (rests.valid k hsel)) r (outside w)
    refine ⟨v.widen ⟨w.state.chain, v.state⟩, x, ?_⟩
    rw [getToken, ends_step_id]
    simp only [hsel, ask, here]
    exact ends_lift_of hask rfl
  | none =>
    obtain ⟨w₁, x, hscan⟩ := scanFrom_ends r c.sources 0 .empty _ h
    exact ⟨_, x, (ends_getToken_of_none alive rests.idle hsel).mpr ⟨w₁, hscan, rfl⟩⟩

/-! ### Runs -/

/-- What a chain is asked to do. -/
inductive Command where
  | get (r : Request)
  | reset

/-- A run of a chain: commands are carried out one after another, and time may pass in between. No
request has been cancelled when its call is made. -/
inductive Serial (c : Chain ρ) : List Command → World (Shared ρ) → List (Except Error Token) →
    World (Shared ρ) → Prop
  | nil {w w' : World (Shared ρ)} (passes : w.Passes w') : Serial c [] w [] w'
  | get {r : Request} {cs : List Command} {xs : List (Except Error Token)} {x : Except Error Token}
      {w w₁ w₂ w' : World (Shared ρ)} (passes : w.Passes w₁) (alive : w₁.cancelled r.cancel = false)
      (ends : (c.getToken r).Ends w₁ w₂ x) (rest : Serial c cs w₂ xs w') :
      Serial c (.get r :: cs) w (x :: xs) w'
  | reset {cs : List Command} {xs : List (Except Error Token)} {w w₁ w₂ w' : World (Shared ρ)}
      (passes : w.Passes w₁) (ends : c.reset.Ends w₁ w₂ ()) (rest : Serial c cs w₂ xs w') :
      Serial c (.reset :: cs) w xs w'

/-- A run of the reference: each call asks the sources that `Memory.call` says, in its order, and
ends as it says. -/
inductive Conducts (c : Chain ρ) : List Command → Memory → World ρ → List (Except Error Token) →
    Memory → World ρ → Prop
  | nil {m : Memory} {w w' : World ρ} (passes : w.Passes w') : Conducts c [] m w [] m w'
  | get {r : Request} {cs : List Command} {xs : List (Except Error Token)}
      {reply : Nat → Except Error Token} {m m' : Memory} {w w₁ w' : World ρ}
      (asked : c.Asked r reply (m.call reply c.nameAt c.sources.length).asked w w₁)
      (rest : Conducts c cs (m.call reply c.nameAt c.sources.length).after w₁ xs m' w') :
      Conducts c (.get r :: cs) m w ((m.call reply c.nameAt c.sources.length).result :: xs) m' w'
  | reset {cs : List Command} {xs : List (Except Error Token)} {m m' : Memory} {w w₁ w' : World ρ}
      (passes : w.Passes w₁) (rest : Conducts c cs m.forget w₁ xs m' w') :
      Conducts c (.reset :: cs) m w xs m' w'

theorem of_ends_reset {c : Chain ρ} {w w' : World (Shared ρ)} (h : c.reset.Ends w w' ()) :
    w'.state = Shared.onChain ChainState.forget w.state ∧
      w.Passes { w' with state := w.state } := by
  rw [reset, ends_step] at h
  split at h
  · rw [ends_note, ends_done] at h
    rw [h.1]
    exact ⟨rfl, rfl, Int.le_refl _, fun _ hk => hk⟩
  · rw [ends_done] at h
    rw [h.1]
    exact ⟨rfl, rfl, Int.le_refl _, fun _ hk => hk⟩

theorem Resting.of_passes {c : Chain ρ} {w w' : World (Shared ρ)} (h : c.Resting w)
    (passes : w.Passes w') : c.Resting w' :=
  ⟨by rw [passes.state, h.idle], by rw [passes.state]; exact h.valid⟩

/-- The induction over a run, from any state in which nobody is at work. -/
theorem conducts_of_serial {c : Chain ρ} {cs : List Command} {xs : List (Except Error Token)}
    {w w' : World (Shared ρ)} (h : c.Serial cs w xs w') (rests : c.Resting w) :
    c.Conducts cs (memory w) (outside w) xs (memory w') (outside w') ∧ c.Resting w' := by
  induction h with
  | @nil w w' passes =>
    have same : memory w' = memory w := by rw [memory, passes.state]
    rw [same]
    exact ⟨.nil (passes.focus _), rests.of_passes passes⟩
  | @get r cs xs x w w₁ w₂ w' passes alive ends _ ih =>
    obtain ⟨reply, hasked, hresult, hafter, rests₂⟩ :=
      obeys_of_ends (rests.of_passes passes) alive ends
    obtain ⟨hrest, rests'⟩ := ih rests₂
    have same : memory w₁ = memory w := by rw [memory, passes.state]
    rw [same] at hasked hresult hafter
    rw [hafter] at hrest
    rw [hresult]
    exact ⟨.get (hasked.of_passes (passes.focus _)) hrest, rests'⟩
  | @reset cs xs w w₁ w₂ w' passes ends _ ih =>
    obtain ⟨hstate, hpass⟩ := of_ends_reset ends
    have rests₂ : c.Resting w₂ := by
      refine ⟨?_, ?_⟩
      · rw [hstate]
        exact (rests.of_passes passes).idle
      · rw [hstate]
        rintro k ⟨⟩
    obtain ⟨hrest, rests'⟩ := ih rests₂
    have forgotten : memory w₂ = (memory w).forget := by
      rw [memory, hstate, passes.state]
      rfl
    have hout : (outside w).Passes (outside w₂) := by
      have := (passes.trans hpass).focus Shared.sources
      refine ⟨?_, this.now, this.cancelled⟩
      show w₂.state.sources = w.state.sources
      rw [hstate, passes.state]
      rfl
    rw [forgotten] at hrest
    exact ⟨.reset hout hrest, rests'⟩

/-- **Calls one after another**: a chain that has not been called before does in every run what the
reference does; and as long as its sources come to an end, so does the next call. -/
theorem serial_conducts (c : Chain ρ) {cs : List Command} {xs : List (Except Error Token)}
    {w w' : World (Shared ρ)} (start : w.state.chain = .initial) (h : c.Serial cs w xs w') :
    c.Conducts cs .blank (outside w) xs (memory w') (outside w') ∧
      ∀ r : Request, (∀ s ∈ c.sources, s.Answers) → w'.cancelled r.cancel = false →
        ∃ w'' x, (c.getToken r).Ends w' w'' x := by
  have rests : c.Resting w := by
    refine ⟨by rw [start]; rfl, ?_⟩
    rw [start]
    rintro k ⟨⟩
  obtain ⟨hconducts, rests'⟩ := conducts_of_serial h rests
  have blank : memory w = .blank := by
    rw [memory, start]
    rfl
  rw [blank] at hconducts
  exact ⟨hconducts, fun r answers alive => getToken_ends rests' alive answers⟩

/-- Two sources, the first of which does not apply. -/
def absentThenReady : Chain Unit :=
  ⟨[⟨"absent", .explicit, fun _ => .done (.error (.unavailable "absent" "not here"))⟩,
    ⟨"ready", .explicit, fun _ => .done (.ok ⟨"secret", ⟨0, 0⟩, []⟩)⟩]⟩

theorem serial_conducts_absentThenReady :
    ∃ w' : World (Shared Unit),
      absentThenReady.Serial [.get ⟨[], none, 0⟩, .reset, .get ⟨[], none, 0⟩]
          (.initial ⟨0⟩ (.ofCapacity 8) ⟨.initial, ()⟩)
          [.ok ⟨"secret", ⟨0, 0⟩, []⟩, .ok ⟨"secret", ⟨0, 0⟩, []⟩] w' ∧
        (memory w').selected = some 1 ∧ (memory w').ruledOut 0 = some "not here" ∧
        absentThenReady.Conducts [.get ⟨[], none, 0⟩, .reset, .get ⟨[], none, 0⟩] .blank
          (outside (.initial ⟨0⟩ (.ofCapacity 8) ⟨.initial, ()⟩))
          [.ok ⟨"secret", ⟨0, 0⟩, []⟩, .ok ⟨"secret", ⟨0, 0⟩, []⟩] (memory w') (outside w') := by
  have run : absentThenReady.Serial [.get ⟨[], none, 0⟩, .reset, .get ⟨[], none, 0⟩]
      (.initial ⟨0⟩ (.ofCapacity 8) ⟨.initial, ()⟩)
      [.ok ⟨"secret", ⟨0, 0⟩, []⟩, .ok ⟨"secret", ⟨0, 0⟩, []⟩] _ :=
    .get (.refl _) rfl (.now rfl)
      (.reset (.refl _) (.now rfl) (.get (.refl _) rfl (.now rfl) (.nil (.refl _))))
  exact ⟨_, run, rfl, rfl, (serial_conducts absentThenReady rfl run).1⟩

end Chain

end TokenChain
