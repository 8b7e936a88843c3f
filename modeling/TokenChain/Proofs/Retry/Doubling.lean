import Mathlib.Algebra.GroupWithZero.Nat
import Mathlib.Tactic.SplitIfs
import TokenChain.Retry.Policy

/-! # Doubling delays

The delay before a retry is the base delay doubled once for every retry before it, and never longer
than the longest delay. The factor has 32 bits, so it is a power of two up to the 31st doubling and
stays one below the next power from then on (`factor_eq_min`). What a policy waits is told by this
factor alone (`nanos_delayFor`): a product that is too long for a duration is longer than the
longest delay, too.

Whether the delay is the one that counts all doublings is therefore a matter of the 32nd of them and
those behind it: it is, unless the longest delay is out of reach of the greatest factor
(`doubling_of_make`). -/

namespace TokenChain.RetryPolicy

theorem factor_eq_min (n : Nat) : factor n = min (2 ^ n) 4294967295 := by
  unfold factor
  split_ifs with few
  · have bounded : 2 ^ n ≤ 2 ^ 31 := Nat.pow_le_pow_right (by omega) (by omega)
    have same : Nat.pow 2 n = 2 ^ n := rfl
    omega
  · have many : 2 ^ 32 ≤ 2 ^ n := Nat.pow_le_pow_right (by omega) (by omega)
    omega

theorem nanos_delayFor {p : RetryPolicy} (held : p.maxDelay ≤ .longest) (n : Nat) :
    (p.delayFor n).nanos = min p.maxDelay.nanos (p.baseDelay.nanos * factor n) := by
  have least : (p.delayFor n).nanos =
      min ((p.baseDelay.times? (factor n)).getD p.maxDelay).nanos p.maxDelay.nanos := rfl
  unfold Duration.times? at least
  simp only [Duration.le_iff] at held
  by_cases fits : p.baseDelay.nanos * factor n ≤ Duration.longest.nanos
  · rw [if_pos fits, Option.getD_some] at least
    exact least.trans (Nat.min_comm ..)
  · rw [if_neg fits, Option.getD_none] at least
    omega

/-- Two factors lead to the same capped product if there is nothing to multiply or the smaller
product has reached the cap. -/
theorem min_mul_eq_min_mul_iff {base cap small great : Nat} (less : small < great) :
    min cap (base * small) = min cap (base * great) ↔ base = 0 ∨ cap ≤ base * small := by
  constructor
  · intro same
    by_cases none : base = 0
    · exact .inl none
    · have more : base * small < base * great :=
        Nat.mul_lt_mul_of_pos_left less (Nat.pos_of_ne_zero none)
      omega
  · rintro (rfl | capped)
    · simp
    · have more : base * small ≤ base * great := Nat.mul_le_mul_left base (Nat.le_of_lt less)
      omega

/-- **The delays of a policy that is made of two durations** have a factor that doubles up to the
greatest one of 32 bits. They are those that double without end if no more than 31 doublings are
asked for, or there is nothing to double, or the greatest factor leads to the longest delay. -/
theorem doubling_of_make (maxRetries : UInt32) {base longest : Duration}
    (baseHeld : base ≤ .longest) (longestHeld : longest ≤ .longest) (n : Nat) :
    ((make maxRetries base longest).delayFor n).nanos =
        min (max longest base).nanos (base.nanos * min (2 ^ n) 4294967295) ∧
      (((make maxRetries base longest).delayFor n).nanos =
        min (max longest base).nanos (base.nanos * 2 ^ n) ↔ n < 32 ∨ base.nanos = 0 ∨
        (max longest base).nanos ≤ base.nanos * 4294967295) := by
  have held : (make maxRetries base longest).maxDelay ≤ .longest :=
    Nat.max_le.mpr ⟨longestHeld, baseHeld⟩
  have delay : ((make maxRetries base longest).delayFor n).nanos =
      min (max longest base).nanos (base.nanos * factor n) := nanos_delayFor held n
  rw [delay, factor_eq_min]
  refine ⟨rfl, ?_⟩
  by_cases few : n < 32
  · have bounded : 2 ^ n ≤ 2 ^ 31 := Nat.pow_le_pow_right (by omega) (by omega)
    have doubled : min (2 ^ n) 4294967295 = 2 ^ n := Nat.min_eq_left (by omega)
    rw [doubled]
    simp [few]
  · have many : 2 ^ 32 ≤ 2 ^ n := Nat.pow_le_pow_right (by omega) (by omega)
    have full : min (2 ^ n) 4294967295 = 4294967295 := Nat.min_eq_right (by omega)
    rw [full, min_mul_eq_min_mul_iff (by omega : 4294967295 < 2 ^ n)]
    simp [few]

theorem doubling_of_make_nanosecond :
    Duration.mk 1 ≤ .longest ∧ Duration.ofSeconds 10 ≤ .longest ∧
      ((make 40 ⟨1⟩ (.ofSeconds 10)).delayFor 32).nanos = 4294967295 ∧
      ((make 40 ⟨1⟩ (.ofSeconds 10)).delayFor 32).nanos ≠
        min (max (.ofSeconds 10) (Duration.mk 1)).nanos (1 * 2 ^ 32) := by
  have law := doubling_of_make 40 (by decide : Duration.mk 1 ≤ .longest)
      (by decide : Duration.ofSeconds 10 ≤ .longest) 32
  refine ⟨by decide, by decide, law.1.trans (by decide), fun same => ?_⟩
  exact absurd (law.2.mp same) (by decide)

end TokenChain.RetryPolicy
