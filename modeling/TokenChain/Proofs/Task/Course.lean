import TokenChain.Proofs.Schedule

/-! # Crowds without one of their callers, and without an end

Callers know of each other only by the world. So two crowds in the same world that differ in one
caller at most (`Crowd.Twins`) go on in the same way as long as this caller does nothing
(`Crowd.Twins.reaches`).

A `Crowd.Course` is a run without an end. A caller stays as it is until it goes on or is dropped
(`Crowd.Course.moves_or_stays`). -/

namespace TokenChain

/-- A caller has nothing left to do: it has ended or has broken down. -/
def Caller.IsOver {ι σ α : Type} (c : Caller ι σ α) : Prop :=
  c.rest = .crash ∨ ∃ a, c.rest = .done a

namespace Crowd

variable {ι σ α : Type} {begins : ι → Task σ α} {Around : World σ → World σ → Prop}

/-! ### Everybody else -/

/-- The number of the caller that a move is about. -/
def Move.id? : Move ι → Option Nat
  | .call id _ | .go id | .drop id => some id
  | .around => none

theorem callers_of_other {m : Move ι} {s s' : Crowd ι σ α}
    (step : Step begins Around m s s') {id : Nat} (other : m.id? ≠ some id) :
    s'.callers id = s.callers id := by
  have ne : ∀ {i : Nat}, some i ≠ some id → id ≠ i := fun h he => h (by rw [he])
  cases step with
  | call | go | drop => exact callers_put_of_ne (ne other) ..
  | around => rfl

theorem callers_of_still {m : Move ι} {s s' : Crowd ι σ α}
    (step : Step begins Around m s s') {id : Nat} {c : Caller ι σ α} (here : s.callers id = some c)
    (still : m ≠ .go id) (undropped : m ≠ .drop id) : s'.callers id = some c := by
  refine (callers_of_other step fun hid => ?_).trans here
  cases step with
  | call free =>
    cases hid
    rw [here] at free
    cases free
  | go =>
    cases hid
    exact still rfl
  | drop =>
    cases hid
    exact undropped rfl
  | around => cases hid

/-- Two crowds in the same world that differ in one caller at most. -/
structure Twins (id : Nat) (a b : Crowd ι σ α) : Prop where
  world : a.world = b.world
  others : ∀ j, j ≠ id → a.callers j = b.callers j

theorem Twins.symm {id : Nat} {a b : Crowd ι σ α} (h : Twins id a b) : Twins id b a :=
  ⟨h.world.symm, fun j hne => (h.others j hne).symm⟩

theorem Twins.put {id i : Nat} {a b : Crowd ι σ α} (h : Twins id a b) (w : World σ)
    (c : Option (Caller ι σ α)) : Twins id (a.put w i c) (b.put w i c) := by
  refine ⟨rfl, fun j hne => ?_⟩
  rcases eq_or_ne j i with rfl | hi
  · rw [callers_put_self, callers_put_self]
  · rw [callers_put_of_ne hi, callers_put_of_ne hi, h.others j hne]

/-- **A move of somebody else** is the same move in both crowds. -/
theorem Twins.step {id : Nat} {a a' b : Crowd ι σ α} {m : Move ι} (h : Twins id a b)
    (other : m.id? ≠ some id) (step : Step begins Around m a a') :
    ∃ b', Step begins Around m b b' ∧ Twins id a' b' := by
  have ne : ∀ {i : Nat}, some i ≠ some id → i ≠ id := fun h he => h (by rw [he])
  cases step with
  | @call _ i order free =>
    rw [h.others i (ne other)] at free
    refine ⟨_, .call free, ?_⟩
    rw [h.world]
    exact h.put ..
  | @go _ i c w t here next =>
    rw [h.others i (ne other)] at here
    rw [h.world] at next ⊢
    exact ⟨_, .go here next, h.put ..⟩
  | @drop _ i c w here dropped =>
    rw [h.others i (ne other)] at here
    rw [h.world] at dropped
    exact ⟨_, .drop here dropped, h.put ..⟩
  | around hw =>
    rw [h.world] at hw
    exact ⟨_, .around hw, rfl, h.others⟩

variable (begins Around) in
/-- A crowd gets from one state to another without a move of the given caller. -/
abbrev ReachesWithout (id : Nat) : Crowd ι σ α → Crowd ι σ α → Prop :=
  Relation.ReflTransGen fun s s' => ∃ m, m.id? ≠ some id ∧ Step begins Around m s s'

/-- **What the others do** does not depend on the caller that does nothing. -/
theorem Twins.reaches {id : Nat} {a a' b : Crowd ι σ α} (h : Twins id a b)
    (reaches : ReachesWithout begins Around id a a') :
    ∃ b', ReachesWithout begins Around id b b' ∧ Twins id a' b' := by
  induction reaches with
  | refl => exact ⟨b, .refl, h⟩
  | tail _ step ih =>
    obtain ⟨m, other, step⟩ := step
    obtain ⟨b₁, reaches, twins⟩ := ih
    obtain ⟨b', step', twins'⟩ := twins.step other step
    exact ⟨b', reaches.tail ⟨m, other, step'⟩, twins'⟩

/-- **A caller that is over** makes no moves. -/
theorem reachesWithout_of_isOver {s s' : Crowd ι σ α} {id : Nat} {c : Caller ι σ α}
    (here : s.callers id = some c) (isOver : c.IsOver) (reaches : Reaches begins Around s s') :
    ReachesWithout begins Around id s s' := by
  have stays : ReachesWithout begins Around id s s' ∧ s'.callers id = some c := by
    induction reaches with
    | refl => exact ⟨.refl, here⟩
    | @tail s₁ s₂ _ step ih =>
      obtain ⟨m, step⟩ := step
      obtain ⟨reaches, here⟩ := ih
      have other : m.id? ≠ some id := by
        intro hid
        cases step with
        | call free =>
          cases hid
          rw [here] at free
          cases free
        | go hd next =>
          cases hid
          rw [here] at hd
          cases hd
          rcases isOver with rest | ⟨a, rest⟩ <;> rw [rest] at next <;> cases next
        | drop hd dropped =>
          cases hid
          rw [here] at hd
          cases hd
          rcases isOver with rest | ⟨a, rest⟩ <;> rw [rest] at dropped <;> cases dropped
        | around => cases hid
      exact ⟨reaches.tail ⟨m, other, step⟩, (callers_of_other step other).trans here⟩
  exact stays.1

theorem ReachesWithout.reaches {s s' : Crowd ι σ α} {id : Nat}
    (h : ReachesWithout begins Around id s s') : Reaches begins Around s s' := by
  induction h with
  | refl => exact .refl
  | tail _ step ih =>
    obtain ⟨m, -, step⟩ := step
    exact ih.tail ⟨m, step⟩

/-! ### Runs without an end -/

variable (begins Around) in
/-- A run without an end: the states and the moves between them. -/
structure Course where
  state : Nat → Crowd ι σ α
  move : Nat → Move ι
  step : ∀ n, Step begins Around (move n) (state n) (state (n + 1))

namespace Course

variable (run : Course begins Around)

/-- At some time a caller goes on or is dropped. -/
def Moves (n id : Nat) : Prop := run.move n = .go id ∨ run.move n = .drop id

theorem reaches {n m : Nat} (h : n ≤ m) : Reaches begins Around (run.state n) (run.state m) := by
  induction h with
  | refl => exact .refl
  | @step m _ ih => exact ih.tail ⟨_, run.step m⟩

/-- **A caller stays as it is** until it moves. -/
theorem moves_or_stays {n m id : Nat} {c : Caller ι σ α} (h : n ≤ m)
    (here : (run.state n).callers id = some c) :
    (∃ k, n ≤ k ∧ k < m ∧ (run.state k).callers id = some c ∧ run.Moves k id) ∨
      (run.state m).callers id = some c := by
  induction h with
  | refl => exact .inr here
  | @step m hm ih =>
    rcases ih with ⟨k, hn, hk, hc, moves⟩ | stays
    · exact .inl ⟨k, hn, Nat.lt_succ_of_lt hk, hc, moves⟩
    · by_cases moves : run.Moves m id
      · exact .inl ⟨m, hm, Nat.lt_succ_self m, stays, moves⟩
      · exact .inr (callers_of_still (run.step m) stays (fun he => moves (.inl he))
          fun he => moves (.inr he))

/-- A caller that moves at some time does so first as it is now. -/
theorem first_move {n m id : Nat} {c : Caller ι σ α} (h : n ≤ m)
    (here : (run.state n).callers id = some c) (moves : run.Moves m id) :
    ∃ k, n ≤ k ∧ (run.state k).callers id = some c ∧ run.Moves k id := by
  rcases run.moves_or_stays h here with ⟨k, hk, -, hc, moves⟩ | stays
  · exact ⟨k, hk, hc, moves⟩
  · exact ⟨m, h, stays, moves⟩

end Course

end Crowd

end TokenChain
