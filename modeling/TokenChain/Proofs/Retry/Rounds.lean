import TokenChain.Proofs.Retry.Conduct

/-! # Rounds of any operation

What an execution comes to if it is known how its attempts come out, one after another.
`RetryPolicy.Rounds` asks for two things: that an attempt comes out as it should where it is ready
to begin, and that the pause behind it leads to where the next one is ready. Then the execution goes
on up to the first attempt that has not failed with an error that may pass, or to the end of the
budget (`RetryPolicy.Rounds.exists_last`, by induction on the retries that are left). -/

namespace TokenChain

namespace RetryPolicy

variable {σ α : Type}

/-- **How the attempts of an execution come out**, given the worlds in which each of them is ready
to begin and those in which it is over. -/
structure Rounds (p : RetryPolicy) (r : Request) (credential : String) (begins : Nat → Task σ Unit)
    (operation : Nat → Task σ (Except Error α)) (out : Nat → Attempt.Outcome α)
    (Ready Over : Nat → World σ → Prop) : Prop where
  attempt : ∀ {n w}, Ready n w → ∃ m w',
    (p.attempt r credential begins operation n).Comes m w (out n).task w' ∧ m ≤ 4 ∧
    w'.now = (out n).stop ∧ Over n w'
  pause : ∀ {n w}, Over n w → w.now = (out n).stop → (out n).isTransient = true → ∀ e : Note,
    ∃ m w', (r.pause (p.delayFor n)).Comes m (w.append e) (.done none) w' ∧ m ≤ 2 ∧ Ready (n + 1) w'

/-- The last of the attempts from one on: the others have failed with errors that may pass, and it
has not, or no retry is left. -/
structure Last (out : Nat → Attempt.Outcome α) (n left k : Nat) : Prop where
  first : n ≤ k
  budget : k ≤ n + left
  transient : ∀ i, n ≤ i → i < k → (out i).isTransient = true
  final : k = n + left ∨ (out k).isTransient = false

variable {out : Nat → Attempt.Outcome α}

theorem Last.self {n left : Nat} (final : left = 0 ∨ (out n).isTransient = false) :
    Last out n left n where
  first := Nat.le_refl n
  budget := Nat.le_add_right n left
  transient i hn hk := absurd hk (Nat.not_lt.mpr hn)
  final := final.imp_left fun none => by omega

theorem Last.next {n left k : Nat} (transient : (out n).isTransient = true)
    (rest : Last out (n + 1) left k) : Last out n (left + 1) k where
  first := Nat.le_of_succ_le rest.first
  budget := by
    have := rest.budget
    omega
  transient := forall_of_next transient rest.transient
  final := rest.final.imp_left fun spent => by omega

variable {p : RetryPolicy} {r : Request} {credential : String} {begins : Nat → Task σ Unit}
  {operation : Nat → Task σ (Except Error α)} {Ready Over : Nat → World σ → Prop}

/-- **An execution comes to its last attempt**, and ends as that has come out. -/
theorem Rounds.exists_last (rounds : p.Rounds r credential begins operation out Ready Over)
    (left : Nat) : ∀ {n : Nat} {w : World σ}, Ready n w → ∃ m k w₁ w',
      (p.executeFrom r credential begins operation left n).Comes m w (out k).task w' ∧
      m ≤ 6 * left + 4 ∧
        Last out n left k ∧ Over k w₁ ∧ w₁.now = (out k).stop ∧
        w'.now = (out k).stop ∧ w'.state = w₁.state := by
  induction left with
  | zero =>
    intro n w ready
    obtain ⟨m, w₁, comes, turns, stop, behind⟩ := rounds.attempt ready
    obtain ⟨w', ends, now, state, -⟩ :=
      comes_last p r credential (n := n) begins operation (.inl rfl) stop
    refine ⟨m + 0, n, w₁, w', ?_, by omega, .self (.inl rfl), behind, stop, now, state⟩
    rw [executeFrom_eq]
    exact (comes.bind _).trans ends
  | succ left ih =>
    intro n w ready
    rw [executeFrom_eq]
    obtain ⟨m, w₁, comes, turns, stop, behind⟩ := rounds.attempt ready
    cases transient : (out n).isTransient with
    | false =>
      obtain ⟨w', ends, now, state, -⟩ :=
        comes_last p r credential (n := n) begins operation (.inr transient) stop
      exact ⟨m + 0, n, w₁, w',
        (comes.bind _).trans ends, by omega, .self (.inr transient), behind, stop, now, state⟩
    | true =>
      obtain ⟨failed, retryable⟩ := Attempt.Outcome.result_of_isTransient transient
      obtain ⟨m', w₂, pauses, turns', ready₂⟩ :=
        rounds.pause behind stop transient ⟨.warning, credential,
          retryNotice n (out n).error (p.delayFor n)⟩
      obtain ⟨m'', k, w₃, w', rest, turns'', last, ends⟩ := ih ready₂
      refine ⟨m + (m' + m''), k, w₃, w',
        (comes.bind _).trans ?_, by omega, last.next transient, ends⟩
      rw [Attempt.Outcome.task, failed, Option.elim_some, Task.bind, sequel, if_pos retryable]
      exact .note (pauses.then rest)

end RetryPolicy

end TokenChain
