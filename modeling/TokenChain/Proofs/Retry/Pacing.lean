import TokenChain.Proofs.Task.Spending

/-! # The pace of retries

An execution spends again only after an attempt has ended with an error that may pass. `Paced` says
so of the steps of a task: whatever is spent after something has been spent comes after such an
attempt, and nothing was spent in between. `paced_executeFrom` is the induction over the attempts of
an execution whose operation spends at most once. -/

namespace TokenChain

/-- The errors that may pass. -/
inductive Error.Passing : Error → Prop
  | timeout (credential message : String) : Passing (.timeout credential message)
  | service (credential : String) (status : Nat) (message : String) :
      Passing (.service credential status message)
  | network (credential message : String) : Passing (.network credential message)

theorem Error.passing_of_isRetryable {e : Error} (h : e.isRetryable = true) : e.Passing := by
  cases e with
  | timeout c m => exact .timeout c m
  | service c status m => exact .service c status m
  | network c m => exact .network c m
  | unavailable | unauthorized | aggregate | config | json | io => cases h

theorem History.spent_split {σ : Type} (bill : σ → Nat) (h h' : History σ) (w w' : World σ) :
    History.spent bill (h ++ (w, w') :: h') =
      History.spent bill h + (bill w'.state - bill w.state) + History.spent bill h' := by
  rw [History.spent_append, History.spent]
  omega

theorem History.of_append {σ : Type} {a b h h' : History σ} {p : World σ × World σ}
    (e : a ++ b = h ++ p :: h') :
    (∃ a', a = h ++ p :: a') ∨ ∃ b', h = a ++ b' ∧ b = b' ++ p :: h' := by
  rcases List.append_eq_append_iff.mp e with ⟨b', hh, hb⟩ | ⟨c, ha, hc⟩
  · exact .inr ⟨b', hh, hb⟩
  · cases c with
    | nil => exact .inr ⟨[], by simpa using ha.symm, by simpa using hc.symm⟩
    | cons q c =>
      obtain ⟨rfl, -⟩ := List.cons.inj hc
      exact .inl ⟨c, ha⟩

/-- Whatever is spent after something has been spent comes after steps that have failed, and nothing
was spent in between. -/
def Paced {σ : Type} (bill : σ → Nat) (Failed : History σ → Prop) (h : History σ) : Prop :=
  ∀ (h₁ : History σ) (w w' : World σ) (h₂ : History σ),
    h = h₁ ++ (w, w') :: h₂ → 0 < h₁.spent bill → bill w.state < bill w'.state →
    ∃ a b c : History σ, h₁ = a ++ b ++ c ∧ Failed b ∧ c.spent bill = 0

section
variable {σ : Type} {bill : σ → Nat} {Failed : History σ → Prop} {a b c h : History σ}

theorem paced_of_spent_le (hs : h.spent bill ≤ 1) : Paced bill Failed h := by
  intro h₁ w w' h₂ e before after
  rw [e, History.spent_split] at hs
  omega

/-- Steps that spend nothing do not count. -/
theorem Paced.of_free (h : Paced bill Failed b) (ha : a.spent bill = 0) (hc : c.spent bill = 0) :
    Paced bill Failed (a ++ (b ++ c)) := by
  intro h₁ w w' h₂ e before after
  rcases History.of_append e with ⟨a', rfl⟩ | ⟨h₁', rfl, e'⟩
  · rw [History.spent_split] at ha
    omega
  · rw [History.spent_append, ha, Nat.zero_add] at before
    rcases History.of_append e' with ⟨b', rfl⟩ | ⟨c', rfl, rfl⟩
    · obtain ⟨x, y, z, rfl, failed, hz⟩ := h h₁' w w' b' rfl before after
      exact ⟨a ++ x, y, z, by simp only [List.append_assoc], failed, hz⟩
    · rw [History.spent_split] at hc
      omega

theorem Paced.retry (failed : Failed a) (ha : a.spent bill ≤ 1) (hb : b.spent bill = 0)
    (h : Paced bill Failed c) : Paced bill Failed (a ++ (b ++ c)) := by
  intro h₁ w w' h₂ e before after
  rcases History.of_append e with ⟨a', rfl⟩ | ⟨h₁', rfl, e'⟩
  · rw [History.spent_split] at ha
    omega
  · rcases History.of_append e' with ⟨b', rfl⟩ | ⟨c', rfl, rfl⟩
    · rw [History.spent_split] at hb
      omega
    · rcases Nat.eq_zero_or_pos (c'.spent bill) with hc | hc
      · refine ⟨[], a, b ++ c', rfl, failed, ?_⟩
        rw [History.spent_append, hb, hc]
      · obtain ⟨x, y, z, rfl, failed', hz⟩ := h c' w w' h₂ rfl hc after
        exact ⟨a ++ (b ++ x), y, z, by simp only [List.append_assoc], failed', hz⟩

end

namespace RetryPolicy

open TokenChain.Task

variable {σ α : Type} {p : RetryPolicy} {r : Request} {credential : String}
  {begins : Nat → Task σ Unit}
  {operation : Nat → Task σ (Except Error α)} {R : Nat → σ → σ → Prop} {bill : σ → Nat}

/-- The steps of an attempt that ended with an error that may pass. -/
def FailedAttempt (p : RetryPolicy) (r : Request) (credential : String) (begins : Nat → Task σ Unit)
    (operation : Nat → Task σ (Except Error α)) (h : History σ) : Prop :=
  ∃ k e, e.Passing ∧ (p.attempt r credential begins operation k).Leads h (.done (.error e))

/-- The steps of a wait between attempts, and of what follows it if the wait was long enough. -/
theorem leads_backOff (free : ∀ s, R 0 s s)
    (charge : ∀ {m s s'}, R m s s' → bill s' = bill s + m) {k : Nat} {e : Error}
    {next u : Task σ (Except Error α)} {h : History σ}
    (hl : (p.backOff r credential k e next).Leads h u) :
    ∃ b c, h = b ++ c ∧ b.spent bill = 0 ∧ (c = [] ∨ next.Leads c u) := by
  have quiet :
      ∀ {b v}, (r.pause (p.delayFor k) : Task σ (Option String)).Leads b v → b.spent bill = 0 :=
    fun hb => Nat.le_zero.mp ((spends_pause free r (p.delayFor k)).spent_le free charge hb)
  cases hl with
  | refl => exact ⟨[], [], rfl, rfl, .inl rfl⟩
  | @step _ _ _ w w' h next' rest =>
    cases next'
    have logged :
        History.spent bill
          [(w, w.append ⟨.warning, credential, retryNotice k e (p.delayFor k)⟩)] = 0 := by
      simp [History.spent, World.append]
    rcases rest.of_bind with ⟨v, hv, -⟩ | ⟨x, b, c, rfl, hb, hc⟩
    · refine ⟨_ :: h, [], (List.append_nil _).symm, ?_, .inl rfl⟩
      rw [← List.singleton_append, History.spent_append, logged, quiet hv]
    · refine ⟨_ :: b, c, rfl, ?_, ?_⟩
      · rw [← List.singleton_append, History.spent_append, logged, quiet hb]
      · cases x with
        | some reason => exact .inl (leads_done hc).1
        | none => exact .inr hc

/-- **An execution** goes on only after an attempt that ended with an error that may pass. -/
theorem paced_executeFrom (free : ∀ s, R 0 s s)
    (charge : ∀ {m s s'}, R m s s' → bill s' = bill s + m) (hb : ∀ k, (begins k).Spends R 0)
    (ho : ∀ k, (operation k).Spends R 1) :
    ∀ {left k : Nat} {h : History σ} {u : Task σ (Except Error α)},
      (p.executeFrom r credential begins operation left k).Leads h u →
      Paced bill (FailedAttempt p r credential begins operation) h := by
  have once : ∀ {k h v}, (p.attempt r credential begins operation k).Leads h v → h.spent bill ≤ 1 :=
    fun {k} _ _ hl => (Spends.attempt (hb k) (ho k)).spent_le free charge hl
  have quiet :
      ∀ {k e h u}, (surrender credential k e : Task σ (Except Error α)).Leads h u →
      h.spent bill = 0 :=
    fun {k e} _ _ hl => Nat.le_zero.mp ((spends_surrender credential k e).spent_le free charge hl)
  intro left
  induction left with
  | zero =>
    intro k h u hl
    rw [executeFrom] at hl
    rcases hl.of_bind with ⟨v, hv, -⟩ | ⟨x, h₁, h₂, rfl, h₁', h₂'⟩
    · exact paced_of_spent_le (once hv)
    · refine paced_of_spent_le ?_
      rw [History.spent_append]
      have := once h₁'
      cases x with
      | ok a => simpa [(leads_done h₂').1, History.spent] using this
      | error e => simpa [quiet h₂'] using this
  | succ left ih =>
    intro k h u hl
    rw [executeFrom] at hl
    rcases hl.of_bind with ⟨v, hv, -⟩ | ⟨x, h₁, h₂, rfl, h₁', h₂'⟩
    · exact paced_of_spent_le (once hv)
    · have hs := once h₁'
      cases x with
      | ok a =>
        rw [(leads_done h₂').1, List.append_nil]
        exact paced_of_spent_le hs
      | error e =>
        dsimp only at h₂'
        split at h₂'
        next retryable =>
          obtain ⟨b, c, rfl, hb', hc⟩ := leads_backOff free charge h₂'
          have hpaced : Paced bill (FailedAttempt p r credential begins operation) c := by
            rcases hc with rfl | hc
            · exact paced_of_spent_le (Nat.zero_le 1)
            · exact ih hc
          exact Paced.retry ⟨k, e, Error.passing_of_isRetryable retryable, h₁'⟩ hs hb' hpaced
        next =>
          refine paced_of_spent_le ?_
          rw [History.spent_append, quiet h₂']
          exact hs

end RetryPolicy

end TokenChain
