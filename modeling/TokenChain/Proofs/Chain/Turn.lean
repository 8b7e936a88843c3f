import TokenChain.Proofs.Chain.Position

/-! # What a position stands for

`Sound` is what always holds of a chain, whoever works with it: tickets are counted up, and a
selected source is a source of the chain that is not ruled out, with the record of the scan that
selected it. `Fits` is what holds of the chain as long as a call is at a position: its ticket waits,
the ticket of a call that has its turn is the first one, and a call that goes through the sources
does so while nothing is selected.

Each step of a call keeps both (`Sound.effect`, `Fits.next`), and what fits one call still fits it
after a step of another one, as no two calls hold the same ticket (`Fits.beside`, `Apart.next`). -/

namespace TokenChain

/-- Whether a source gave a token. -/
def Fare.isSuccess : Fare → Bool
  | .succeeded _ => true
  | _ => false

namespace Chain

open TokenChain.Task TokenChain.Shared

variable {ρ : Type}

/-! ### Records of scans -/

/-- One entry for each of the first `i` places, in order, and none of them a success. -/
def Covers (fares : List (Nat × Fare)) (i : Nat) : Prop :=
  fares.map Prod.fst = List.range i ∧ ∀ p ∈ fares, p.2.isSuccess = false

/-- One entry for each place up to `i`, in order, and only the last one a success. -/
def Selects (scan : List (Nat × Fare)) (i : Nat) : Prop :=
  ∃ fares expiresAt, scan = fares ++ [(i, .succeeded expiresAt)] ∧ Covers fares i

theorem covers_empty : Covers Findings.empty.fares 0 := ⟨rfl, fun _ h => nomatch h⟩

theorem Covers.push {fares : List (Nat × Fare)} {i : Nat} {x : Fare} (h : Covers fares i)
    (hx : x.isSuccess = false) : Covers (fares ++ [(i, x)]) (i + 1) := by
  refine ⟨?_, fun p hp => ?_⟩
  · rw [List.map_append, h.1, List.range_succ]
    rfl
  · rcases List.mem_append.mp hp with hp | hp
    · exact h.2 p hp
    · rw [List.mem_singleton.mp hp]
      exact hx

/-! ### Turns -/

theorem mem_leave {t ticket : Nat} {s : ChainState} :
    t ∈ (s.leave ticket).turns.waiting ↔ t ∈ s.turns.waiting ∧ t ≠ ticket := by
  simp [ChainState.leave, Turns.leave]

theorem mem_enter {t : Nat} {s : ChainState} :
    t ∈ s.enter.turns.waiting ↔ t ∈ s.turns.waiting ∨ t = s.turns.next := by
  simp [ChainState.enter, Turns.enter]

theorem head?_leave {t ticket : Nat} {s : ChainState} (h : s.turns.waiting.head? = some t)
    (hne : t ≠ ticket) : (s.leave ticket).turns.waiting.head? = some t := by
  obtain ⟨rest, hw⟩ := List.head?_eq_some_iff.mp h
  simp [ChainState.leave, Turns.leave, hw, hne]

theorem head?_enter {t : Nat} {s : ChainState} (h : s.turns.waiting.head? = some t) :
    s.enter.turns.waiting.head? = some t := by
  obtain ⟨rest, hw⟩ := List.head?_eq_some_iff.mp h
  simp [ChainState.enter, Turns.enter, hw]

/-! ### Positions -/

/-- **What always holds** of a chain. -/
structure Sound (c : Chain ρ) (s : ChainState) : Prop where
  older : ∀ t ∈ s.turns.waiting, t < s.turns.next
  valid : ∀ i, s.selected = some i → i < c.sources.length
  inPlay : ∀ i, s.selected = some i → s.reason? i = none
  record : ∀ i, s.selected = some i → Selects s.lastScan i

/-- What a call knows that goes through the sources. -/
def Scans (c : Chain ρ) (s : ChainState) : Position ρ → Prop
  | .scanning _ i f | .skipping _ i f _ => s.selected = none ∧ Covers f.fares i
  | .trying _ i f _ =>
    s.selected = none ∧ Covers f.fares i ∧ s.reason? i = none ∧ i < c.sources.length
  | _ => True

/-- **What holds as long as a call is at a position.** -/
structure Fits (c : Chain ρ) (s : ChainState) (p : Position ρ) : Prop where
  waits : ∀ t, p.ticket? = some t → t ∈ s.turns.waiting
  turn : p.hasTurn = true → s.turns.waiting.head? = p.ticket?
  scan : Scans c s p

/-- Two calls do not hold the same ticket. -/
def Apart (p q : Position ρ) : Prop := ∀ t, p.ticket? = some t → q.ticket? ≠ some t

theorem Apart.symm {p q : Position ρ} (h : Apart p q) : Apart q p := fun t hq hp => h t hp hq

theorem Position.hasTurn_of_inLoop {p : Position ρ} (h : p.inLoop = true) : p.hasTurn = true := by
  cases p <;> first | rfl | cases h

theorem Position.ticket?_of_hasTurn {p : Position ρ} (h : p.hasTurn = true) :
    ∃ t, p.ticket? = some t := by
  cases p <;> first | exact ⟨_, rfl⟩ | cases h

/-- **Only one call at a time** has its turn. -/
theorem Fits.not_hasTurn {c : Chain ρ} {s : ChainState} {p q : Position ρ}
    (hp : Fits c s p) (hq : Fits c s q) (apart : Apart p q) (turn : p.hasTurn = true) :
    q.hasTurn = false := by
  rw [Bool.eq_false_iff]
  intro turn'
  obtain ⟨t, ht⟩ := Position.ticket?_of_hasTurn turn
  exact apart t ht (by rw [← hq.turn turn', hp.turn turn, ht])

theorem Fits.selected {c : Chain ρ} {s : ChainState} {p : Position ρ} (h : Fits c s p)
    (loop : p.inLoop = true) : s.selected = none := by
  have hs := h.scan
  cases p with
  | scanning | skipping | trying => exact hs.1
  | _ => cases loop

/-- A position without a turn fits as long as its ticket waits. -/
theorem fits_of_waits {c : Chain ρ} {s : ChainState} {p : Position ρ} (turn : p.hasTurn = false)
    (waits : ∀ t, p.ticket? = some t → t ∈ s.turns.waiting) : Fits c s p := by
  refine ⟨waits, fun h => absurd h (by simp [turn]), ?_⟩
  cases p with
  | scanning | skipping | trying => cases turn
  | _ => trivial

theorem fits_of_turn {c : Chain ρ} {s : ChainState} {p : Position ρ} {t : Nat}
    (ticket : p.ticket? = some t) (turn : s.turns.waiting.head? = some t) (scan : Scans c s p) :
    Fits c s p := by
  refine ⟨fun t' ht' => ?_, fun _ => by rw [turn, ticket], scan⟩
  rw [ticket] at ht'
  cases ht'
  exact List.mem_of_head? turn

/-! ### What steps keep -/

section Steps
variable {c : Chain ρ} {r : Request} {s : ChainState} {p q : Position ρ}

theorem Sound.enter (h : Sound c s) : Sound c s.enter where
  older t ht := by
    have hnext : s.enter.turns.next = s.turns.next + 1 := rfl
    rcases mem_enter.mp ht with ht | rfl
    · have := h.older t ht
      omega
    · omega
  valid := h.valid
  inPlay := h.inPlay
  record := h.record

theorem Sound.leave (h : Sound c s) (ticket : Nat) : Sound c (s.leave ticket) where
  older t ht := h.older t (mem_leave.mp ht).1
  valid := h.valid
  inPlay := h.inPlay
  record := h.record

/-- Without a selection only the tickets matter. -/
theorem Sound.of_turns_eq {s' : ChainState} (h : Sound c s) (turns : s'.turns = s.turns)
    (selected : s'.selected = none) : Sound c s' where
  older := by
    rw [turns]
    exact h.older
  valid i hi := by
    rw [selected] at hi
    cases hi
  inPlay i hi := by
    rw [selected] at hi
    cases hi
  record i hi := by
    rw [selected] at hi
    cases hi

theorem Sound.forget (h : Sound c s) : Sound c s.forget := h.of_turns_eq rfl rfl

theorem Sound.select {i : Nat} {f : Findings} {token : Token} (h : Sound c s)
    (valid : i < c.sources.length) (inPlay : s.reason? i = none) (covers : Covers f.fares i) :
    Sound c (s.select i (f.succeed i token)) where
  older := h.older
  valid j hj := by
    cases hj
    exact valid
  inPlay j hj := by
    cases hj
    exact inPlay
  record j hj := by
    cases hj
    exact ⟨f.fares, token.expiresAt, rfl, covers⟩

/-- **A step of a call** keeps the chain sound. -/
theorem Sound.effect (h : Sound c s) (fits : Fits c s p) : Sound c (p.effect c s) := by
  cases p with
  | entering => exact h.enter
  | quitting ticket e => exact h.leave ticket
  | yielding ticket i => exact h.leave ticket
  | closing ticket source? x => exact h.leave ticket
  | scanning ticket i f =>
    rw [Position.effect]
    split_ifs with hi
    · exact h
    · exact h.of_turns_eq rfl fits.scan.1
  | trying ticket i f u =>
    obtain ⟨selected, covers, inPlay, valid⟩ := fits.scan
    cases u with
    | done x =>
      cases x with
      | ok token => exact h.select valid inPlay covers
      | error e =>
        exact h.of_turns_eq (noteFailure_eq i e s).2.2.1 ((noteFailure_eq i e s).1.trans selected)
    | crash => exact h.leave ticket
    | look | note | step | wait => exact h
  | arriving | knocking | queued | admitted | skipping | asking | ended | lost => exact h

/-- **A call that is dropped** leaves the chain sound. -/
theorem Sound.release (h : Sound c s) (p : Position ρ) : Sound c (p.release s) := by
  rw [Position.release]
  cases p.ticket? with
  | some t => exact h.leave t
  | none => exact h

theorem fits_of_idle (turn : p.hasTurn = false) (ticket : p.ticket? = none) : Fits c s p :=
  fits_of_waits turn fun t ht => by
    rw [ticket] at ht
    cases ht

/-- **A step of a call** leads to a position that fits. -/
theorem Fits.next {w : World (Shared ρ)} (h : Fits c w.state.chain p) (next : p.Next c r w q) :
    Fits c (p.effect c w.state.chain) q := by
  cases next with
  | ask | miss | knock | refuse | enter | quit | askAfter | missAfter | breakDown | close | answer
  | stay | gone =>
    exact fits_of_idle rfl rfl
  | queue =>
    refine fits_of_waits rfl fun t ht => ?_
    cases ht
    exact mem_enter.mpr (.inr rfl)
  | cancel | expire => exact fits_of_waits rfl h.waits
  | @advance ticket first =>
    have turn : w.state.chain.turns.waiting.head? = some ticket := by
      simpa [Turns.isFirst] using first
    exact fits_of_turn rfl turn trivial
  | yield => exact fits_of_turn rfl (h.turn rfl) trivial
  | scan selected => exact fits_of_turn rfl (h.turn rfl) ⟨selected, covers_empty⟩
  | exhaust beyond =>
    rw [Position.effect, if_neg (by omega)]
    exact fits_of_turn rfl (h.turn rfl) trivial
  | skip valid =>
    rw [Position.effect, if_pos valid]
    exact fits_of_turn rfl (h.turn rfl) h.scan
  | attempt valid inPlay =>
    obtain ⟨selected, covers⟩ := h.scan
    rw [Position.effect, if_pos valid]
    exact fits_of_turn rfl (h.turn rfl) ⟨selected, covers, inPlay, valid⟩
  | goOn =>
    obtain ⟨selected, covers⟩ := h.scan
    exact fits_of_turn rfl (h.turn rfl) ⟨selected, covers.push rfl⟩
  | win => exact fits_of_turn rfl (h.turn rfl) trivial
  | @fail ticket i f e =>
    obtain ⟨selected, covers, -⟩ := h.scan
    obtain ⟨kept, -, turns, -⟩ := noteFailure_eq i e w.state.chain
    have turn : (noteFailure i e w.state.chain).turns.waiting.head? = some ticket := by
      rw [turns]
      exact h.turn rfl
    exact fits_of_turn rfl turn ⟨kept.trans selected, covers.push rfl⟩
  | work unfinished unbroken =>
    rw [effect_work unfinished unbroken]
    exact fits_of_turn rfl (h.turn rfl) h.scan

theorem Fits.leave (h : Fits c s q) {ticket : Nat} (hne : q.ticket? ≠ some ticket) :
    Fits c (s.leave ticket) q where
  waits t ht := mem_leave.mpr ⟨h.waits t ht, fun he => hne (by rw [ht, he])⟩
  turn ht := by
    obtain ⟨t, hq⟩ := Position.ticket?_of_hasTurn ht
    rw [hq]
    exact head?_leave (by rw [h.turn ht, hq]) fun he => hne (by rw [hq, he])
  scan := h.scan

theorem Fits.enter (h : Fits c s q) : Fits c s.enter q where
  waits t ht := mem_enter.mpr (.inl (h.waits t ht))
  turn ht := by
    obtain ⟨t, hq⟩ := Position.ticket?_of_hasTurn ht
    rw [hq]
    exact head?_enter (by rw [h.turn ht, hq])
  scan := h.scan

/-- What the call that has its turn changes besides the tickets is of no account for the others. -/
theorem Fits.of_turn {s' : ChainState} (hp : Fits c s p) (hq : Fits c s q) (apart : Apart p q)
    (turn : p.hasTurn = true) (turns : s'.turns = s.turns) : Fits c s' q :=
  fits_of_waits (hp.not_hasTurn hq apart turn) fun t ht => by
    rw [turns]
    exact hq.waits t ht

theorem Fits.forget (h : Fits c s q) : Fits c s.forget q where
  waits := h.waits
  turn := h.turn
  scan := by
    have scan := h.scan
    cases q with
    | scanning | skipping => exact ⟨rfl, scan.2⟩
    | trying => exact ⟨rfl, scan.2.1, rfl, scan.2.2.2⟩
    | _ => trivial

/-- **A step of another call** leaves a position fitting. -/
theorem Fits.beside (hp : Fits c s p) (hq : Fits c s q) (apart : Apart p q) :
    Fits c (p.effect c s) q := by
  cases p with
  | entering => exact hq.enter
  | quitting ticket e => exact hq.leave (apart ticket rfl)
  | yielding ticket i => exact hq.leave (apart ticket rfl)
  | closing ticket source? x => exact hq.leave (apart ticket rfl)
  | scanning ticket i f =>
    rw [Position.effect]
    split_ifs with hi
    · exact hq
    · exact hp.of_turn hq apart rfl rfl
  | trying ticket i f u =>
    cases u with
    | done x =>
      cases x with
      | ok token => exact hp.of_turn hq apart rfl rfl
      | error e => exact hp.of_turn hq apart rfl (noteFailure_eq i e s).2.2.1
    | crash => exact hq.leave (apart ticket rfl)
    | look | note | step | wait => exact hq
  | arriving | knocking | queued | admitted | skipping | asking | ended | lost => exact hq

/-- **Another call that is dropped** leaves a position fitting. -/
theorem Fits.besideRelease (hq : Fits c s q) (apart : Apart p q) : Fits c (p.release s) q := by
  rw [Position.release]
  cases hp : p.ticket? with
  | some t => exact hq.leave (apart t hp)
  | none => exact hq

/-- A call holds the ticket that it held before, or none, or one that nobody has held yet. -/
theorem ticket?_next {w : World (Shared ρ)} {t : Nat} (next : p.Next c r w q)
    (h : q.ticket? = some t) : p.ticket? = some t ∨ t = w.state.chain.turns.next := by
  cases next with
  | queue => exact .inr (Option.some.inj h).symm
  | cancel | advance | expire | yield | scan | exhaust | skip | attempt | goOn | win | fail | work =>
    exact .inl h
  | ask | miss | knock | refuse | enter | quit | askAfter | missAfter | breakDown | close | answer
  | stay | gone =>
    cases h

/-- **A step** gives no call the ticket of another one. -/
theorem Apart.next {w : World (Shared ρ)} {p' : Position ρ} (sound : Sound c w.state.chain)
    (hq : Fits c w.state.chain q) (apart : Apart p q) (next : p.Next c r w p') : Apart p' q := by
  intro t ht hqt
  rcases ticket?_next next ht with hp | rfl
  · exact apart t hp hqt
  · exact absurd (sound.older _ (hq.waits _ hqt)) (Nat.lt_irrefl _)

end Steps

end Chain

end TokenChain
