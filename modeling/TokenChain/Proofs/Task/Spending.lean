import TokenChain.Proofs.Task.Stepwise
import TokenChain.Retry.Execution

/-! # What tasks spend

`R m s s'` says what a step may do to the state that spends `m`. `Task.Spends R t n` says that on
every way through `t`, whatever the world does in between, each step is one of these, they spend no
more than `n` together, and what is undone when the task is dropped spends nothing. What a task
built from others spends is bounded by what they spend: `Spends.bind`, `Spends.giveUp`,
`spends_zoom`, `Spends.execute` for an operation that is attempted again and again.

`History.spent` counts what some steps have spent (`Spends.spent_le`). -/

namespace TokenChain

/-- What the steps of a history have spent, by what the bill says in each state. -/
def History.spent {σ : Type} (bill : σ → Nat) : History σ → Nat
  | [] => 0
  | (w, w') :: h => (bill w'.state - bill w.state) + History.spent bill h

theorem History.spent_append {σ : Type} (bill : σ → Nat) (h h' : History σ) :
    History.spent bill (h ++ h') = History.spent bill h + History.spent bill h' := by
  induction h with
  | nil => simp [History.spent]
  | cons p h ih =>
    obtain ⟨w, w'⟩ := p
    simp only [List.cons_append, History.spent, ih]
    omega

namespace Task

variable {σ τ α β : Type} {R : Nat → σ → σ → Prop}

/-- A task spends no more than so much, whatever happens. -/
def Spends (R : Nat → σ → σ → Prop) : Task σ α → Nat → Prop
  | done _, _ => True
  | crash, _ => True
  | look k, n => ∀ m, Spends R (k m) n
  | note _ k, n => Spends R k n
  | step f k, n => ∃ m ≤ n, (∀ s, R m s (f s)) ∧ ∀ s, Spends R (k s) (n - m)
  | wait v k, n => (∀ s, R 0 s (v.abandon s)) ∧ ∀ x, Spends R (k x) n

theorem Spends.mono {t : Task σ α} {n n' : Nat} (h : t.Spends R n) (hn : n ≤ n') :
    t.Spends R n' := by
  induction t generalizing n n' with
  | done a => trivial
  | crash => trivial
  | look k ih => exact fun m => ih m (h m) hn
  | note e k ih => exact ih h hn
  | step f k ih =>
    obtain ⟨m, hm, hf, hk⟩ := h
    exact ⟨m, Nat.le_trans hm hn, hf, fun s => ih s (hk s) (Nat.sub_le_sub_right hn m)⟩
  | wait v k ih => exact ⟨h.1, fun x => ih x (h.2 x) hn⟩

theorem Spends.weaken {S : Nat → σ → σ → Prop} (le : ∀ {m a b}, R m a b → S m a b)
    {t : Task σ α} {n : Nat} (h : t.Spends R n) : t.Spends S n := by
  induction t generalizing n with
  | done a => trivial
  | crash => trivial
  | look k ih => exact fun m => ih m (h m)
  | note e k ih => exact ih h
  | step f k ih =>
    obtain ⟨m, hm, hf, hk⟩ := h
    exact ⟨m, hm, fun s => le (hf s), fun s => ih s (hk s)⟩
  | wait v k ih => exact ⟨fun s => le (h.1 s), fun x => ih x (h.2 x)⟩

theorem Spends.of_uncounted {t : Task σ α} {n : Nat} (h : t.Spends R n)
    (any : ∀ {m a b}, R m a b → R 0 a b) : t.Spends R 0 := by
  induction t generalizing n with
  | done a => trivial
  | crash => trivial
  | look k ih => exact fun m => ih m (h m)
  | note e k ih => exact ih h
  | step f k ih =>
    obtain ⟨m, -, hf, hk⟩ := h
    exact ⟨0, Nat.le_refl 0, fun s => any (hf s), fun s => ih s (hk s)⟩
  | wait v k ih => exact ⟨h.1, fun x => ih x (h.2 x)⟩

theorem Spends.bind {t : Task σ α} {g : α → Task σ β} {n k : Nat} (h : t.Spends R n)
    (hg : ∀ a, (g a).Spends R k) : (t.bind g).Spends R (n + k) := by
  induction t generalizing n with
  | done a => exact (hg a).mono (Nat.le_add_left k n)
  | crash => trivial
  | look q ih => exact fun m => ih m (h m)
  | note e q ih => exact ih h
  | step f q ih =>
    obtain ⟨m, hm, hf, hq⟩ := h
    refine ⟨m, Nat.le_trans hm (Nat.le_add_right n k), hf, fun s => ?_⟩
    rw [Nat.sub_add_comm hm]
    exact ih s (hq s)
  | wait v q ih => exact ⟨h.1, fun x => ih x (h.2 x)⟩

theorem Spends.bind_free {t : Task σ α} {g : α → Task σ β} {n : Nat} (h : t.Spends R n)
    (hg : ∀ a, (g a).Spends R 0) : (t.bind g).Spends R n := h.bind hg

theorem spends_await (free : ∀ s, R 0 s s) (d : Delayed α) (start : Instant) (n : Nat) :
    (d.await start : Task σ α).Spends R n := by
  rcases d.await_cases (σ := σ) start with ⟨a, -, there⟩ | waits
  · rw [there]
    trivial
  · rw [waits]
    refine ⟨free, fun _ => ?_⟩
    cases d.value <;> trivial

/-- Only what follows a task spends anything. -/
theorem Spends.free_bind {t : Task σ α} {g : α → Task σ β} {n : Nat} (h : t.Spends R 0)
    (hg : ∀ a, (g a).Spends R n) : (t.bind g).Spends R n := by
  rw [← Nat.zero_add n]
  exact h.bind hg

theorem Spends.giveUp {t : Task σ α} {n : Nat} (h : t.Spends R n) (key : CancelKey)
    (deadline : Option Instant) (cancelled expired : α) :
    (t.giveUp key deadline cancelled expired).Spends R n := by
  induction t generalizing n with
  | done a => trivial
  | crash => trivial
  | look k ih => exact fun m => ih m (h m)
  | note e k ih => exact ih h
  | step f k ih =>
    obtain ⟨m, hm, hf, hk⟩ := h
    exact ⟨m, hm, hf, fun s => ih s (hk s)⟩
  | wait v k ih =>
    refine ⟨h.1, fun x => ?_⟩
    cases x with
    | ready => exact ih .ready (h.2 .ready)
    | cancelled => exact ⟨0, Nat.zero_le _, h.1, fun _ => trivial⟩
    | expired => exact ⟨0, Nat.zero_le _, h.1, fun _ => trivial⟩

theorem Spends.within {t : Task σ (Except Error α)} {n : Nat} (h : t.Spends R n) (r : Request)
    (credential : String) (limit : Option Duration) : (r.within credential limit t).Spends R n := by
  intro m
  dsimp only
  split
  · trivial
  · split
    · trivial
    · exact h.giveUp _ _ _ _

theorem Spends.onLoss {t : Task σ α} {n : Nat} {release : σ → σ}
    (chain : ∀ {a b c}, R 0 a b → R 0 b c → R 0 a c) (hr : ∀ s, R 0 s (release s))
    (h : t.Spends R n) : (t.onLoss release).Spends R n := by
  induction t generalizing n with
  | done a => trivial
  | crash => exact ⟨0, Nat.zero_le n, hr, fun _ => trivial⟩
  | look k ih => exact fun m => ih m (h m)
  | note e k ih => exact ih h
  | step f k ih =>
    obtain ⟨m, hm, hf, hk⟩ := h
    exact ⟨m, hm, hf, fun s => ih s (hk s)⟩
  | wait v k ih => exact ⟨fun s => chain (h.1 s) (hr _), fun x => ih x (h.2 x)⟩

theorem spends_zoom {S : Nat → τ → τ → Prop} {part : τ → σ} {put : σ → τ → τ}
    (lift : ∀ {m s t}, R m (part t) s → S m t (put s t)) {t : Task σ α} {n : Nat}
    (h : t.Spends R n) : (t.zoom part put).Spends S n := by
  induction t generalizing n with
  | done a => trivial
  | crash => trivial
  | look k ih => exact fun m => ih m (h m)
  | note e k ih => exact ih h
  | step f k ih =>
    obtain ⟨m, hm, hf, hk⟩ := h
    exact ⟨m, hm, fun s => lift (hf (part s)), fun s => ih (part s) (hk (part s))⟩
  | wait v k ih => exact ⟨fun s => lift (h.1 (part s)), fun x => ih x (h.2 x)⟩

theorem spends_any (t : Task σ α) : t.Spends (fun m _ _ => m = 0) 0 := by
  induction t with
  | done a => trivial
  | crash => trivial
  | look k ih => exact ih
  | note e k ih => exact ih
  | step f k ih => exact ⟨0, Nat.le_refl 0, fun _ => rfl, ih⟩
  | wait v k ih => exact ⟨fun _ => rfl, ih⟩

/-! ### Attempts -/

theorem spends_surrender (credential : String) (k : Nat) (e : Error) :
    (RetryPolicy.surrender credential k e : Task σ (Except Error α)).Spends R 0 := by
  rw [RetryPolicy.surrender]
  split
  · trivial
  · trivial

theorem spends_pause (free : ∀ s, R 0 s s) (r : Request) (delay : Duration) :
    (r.pause delay : Task σ (Option String)).Spends R 0 := by
  intro m
  dsimp only
  split
  · trivial
  · refine ⟨free, fun x => ?_⟩
    cases x <;> trivial

theorem Spends.attempt {p : RetryPolicy} {r : Request} {credential : String}
    {begins : Nat → Task σ Unit} {operation : Nat → Task σ (Except Error α)} {k n : Nat}
    (hb : (begins k).Spends R 0) (h : (operation k).Spends R n) :
    (p.attempt r credential begins operation k).Spends R n :=
  hb.free_bind fun _ => h.within r credential _

/-- **An operation that is attempted again and again** spends what it spends at once for each
attempt. -/
theorem Spends.executeFrom {p : RetryPolicy} {r : Request} {credential : String}
    {begins : Nat → Task σ Unit} {operation : Nat → Task σ (Except Error α)} {n : Nat}
    (free : ∀ s, R 0 s s) (hb : ∀ k, (begins k).Spends R 0) (h : ∀ k, (operation k).Spends R n) :
    ∀ left k, (p.executeFrom r credential begins operation left k).Spends R (n * (left + 1))
  | 0, k => by
    rw [RetryPolicy.executeFrom, Nat.zero_add, Nat.mul_one]
    refine (Spends.attempt (hb k) (h k)).bind_free fun x => ?_
    cases x with
    | ok a => trivial
    | error e => exact spends_surrender credential k e
  | left + 1, k => by
    have budget : n * (left + 1 + 1) = n + n * (left + 1) := by
      rw [Nat.mul_add n (left + 1) 1, Nat.mul_one, Nat.add_comm]
    rw [RetryPolicy.executeFrom, budget]
    refine (Spends.attempt (hb k) (h k)).bind fun x => ?_
    cases x with
    | ok a => trivial
    | error e =>
      dsimp only
      split
      · refine (spends_pause free r (p.delayFor k)).free_bind fun x => ?_
        cases x with
        | some reason => trivial
        | none => exact Spends.executeFrom free hb h left (k + 1)
      · exact (spends_surrender credential k e).mono (Nat.zero_le _)

/-! ### What is spent on the way -/

/-- **The next step** spends some of it. -/
theorem Spends.next {t u : Task σ α} {n : Nat} {w w' : World σ}
    (free : ∀ s, R 0 s s) (h : t.Spends R n) (next : t.next? w = some (w', u)) :
    ∃ m ≤ n, R m w.state w'.state ∧ u.Spends R (n - m) := by
  cases t with
  | done a => cases next
  | crash => cases next
  | look k =>
    cases next
    exact ⟨0, Nat.zero_le n, free _, h _⟩
  | note e k =>
    cases next
    exact ⟨0, Nat.zero_le n, free _, h⟩
  | step f k =>
    cases next
    obtain ⟨m, hm, hf, hk⟩ := h
    exact ⟨m, hm, hf _, hk _⟩
  | wait v k =>
    obtain ⟨x, -, he⟩ := Option.map_eq_some_iff.mp next
    cases he
    exact ⟨0, Nat.zero_le n, free _, h.2 x⟩

theorem Spends.drop {t : Task σ α} {n : Nat} {w w' : World σ} (h : t.Spends R n)
    (dropped : t.drop? w = some w') : R 0 w.state w'.state := by
  cases t with
  | wait v k =>
    cases dropped
    exact h.1 _
  | done | crash | look | note | step => cases dropped

theorem Spends.leads {t u : Task σ α} {n : Nat} {h : History σ}
    (free : ∀ s, R 0 s s) (ht : t.Spends R n) (hl : t.Leads h u) : u.Spends R n := by
  induction hl with
  | refl => exact ht
  | step next _ ih =>
    obtain ⟨m, -, -, hu⟩ := ht.next free next
    exact ih (hu.mono (Nat.sub_le n m))

/-- **The steps of a task** have not spent more than the task may. -/
theorem Spends.spent_le {t u : Task σ α} {n : Nat} {h : History σ} {bill : σ → Nat}
    (free : ∀ s, R 0 s s) (charge : ∀ {m s s'}, R m s s' → bill s' = bill s + m) (ht : t.Spends R n)
    (hl : t.Leads h u) : h.spent bill ≤ n := by
  induction hl generalizing n with
  | refl => exact Nat.zero_le n
  | step next _ ih =>
    obtain ⟨m, hm, hR, hu⟩ := ht.next free next
    have := ih hu
    have := charge hR
    simp only [History.spent]
    omega

end Task

end TokenChain
