import TokenChain.Proofs.Task.Spending

/-! # Tasks whose end is settled

`Task.Concludes Quiet x t n` says that `t` ends with `x` after no more than `n` steps, whatever the
world does in between: it neither waits nor breaks down, and all that it does to the state is quiet.
Such a task cannot be held up (`Concludes.goesOn`), and its steps are few and quiet
(`Concludes.of_leads`). -/

namespace TokenChain.Task

variable {σ τ α β : Type} {Quiet : σ → σ → Prop} {x : α} {n : Nat} {t u : Task σ α} {h : History σ}

/-- **The end of a task is settled**, and it comes after no more than so many steps. -/
inductive Concludes (Quiet : σ → σ → Prop) (x : α) : Task σ α → Nat → Prop
  | done (n : Nat) : Concludes Quiet x (done x) n
  | look {k : Moment → Task σ α} {n : Nat} (rest : ∀ m, Concludes Quiet x (k m) n) :
      Concludes Quiet x (look k) (n + 1)
  | note {e : Note} {k : Task σ α} {n : Nat} (rest : Concludes Quiet x k n) :
      Concludes Quiet x (note e k) (n + 1)
  | step {f : σ → σ} {k : σ → Task σ α} {n : Nat} (quiet : ∀ s, Quiet s (f s))
      (rest : ∀ s, Concludes Quiet x (k s) n) :
    Concludes Quiet x (step f k) (n + 1)

/-! ### Tasks built from others -/

theorem Concludes.mono (settled : t.Concludes Quiet x n) {m : Nat} (le : n ≤ m) :
    t.Concludes Quiet x m := by
  induction settled generalizing m with
  | done n => exact .done m
  | look rest ih =>
    obtain ⟨m, rfl⟩ := Nat.exists_eq_add_of_le' le
    exact .look fun w => ih w (Nat.le_add_left ..)
  | note rest ih =>
    obtain ⟨m, rfl⟩ := Nat.exists_eq_add_of_le' le
    exact .note (ih (Nat.le_add_left ..))
  | step quiet rest ih =>
    obtain ⟨m, rfl⟩ := Nat.exists_eq_add_of_le' le
    exact .step quiet fun s => ih s (Nat.le_add_left ..)

theorem Concludes.bind {g : α → Task σ β} {y : β} {k : Nat} (settled : t.Concludes Quiet x n)
    (follows : (g x).Concludes Quiet y k) : (t.bind g).Concludes Quiet y (n + k) := by
  induction settled with
  | done n => exact follows.mono (Nat.le_add_left k n)
  | look rest ih =>
    rw [Nat.add_right_comm]
    exact .look ih
  | note rest ih =>
    rw [Nat.add_right_comm]
    exact .note ih
  | step quiet rest ih =>
    rw [Nat.add_right_comm]
    exact .step quiet ih

theorem Concludes.zoom {Calm : τ → τ → Prop} {part : τ → σ} {put : σ → τ → τ}
    (lift : ∀ {s t}, Quiet (part t) s → Calm t (put s t)) (settled : t.Concludes Quiet x n) :
    (t.zoom part put).Concludes Calm x n := by
  induction settled with
  | done n => exact .done n
  | look rest ih => exact .look ih
  | note rest ih => exact .note ih
  | step quiet rest ih => exact .step (fun s => lift (quiet (part s))) fun s => ih (part s)

/-- What follows a task whose end is settled is all that spends anything, if to be quiet is to spend
nothing. -/
theorem Concludes.spends_bind {R : Nat → σ → σ → Prop} (calm : ∀ {a b}, Quiet a b → R 0 a b)
    {g : α → Task σ β} {k : Nat} (settled : t.Concludes Quiet x n) (follows : (g x).Spends R k) :
    (t.bind g).Spends R k := by
  induction settled with
  | done n => exact follows
  | look rest ih => exact ih
  | note rest ih => exact ih
  | step quiet rest ih => exact ⟨0, Nat.zero_le k, fun s => calm (quiet s), ih⟩

/-! ### Steps -/

/-- As long as its end has not come, a task whose end is settled can take a step in any world. -/
theorem Concludes.goesOn (settled : t.Concludes Quiet x n) :
    t = .done x ∨ ∀ w, (t.next? w).isSome := by
  cases settled with
  | done => exact .inl rfl
  | look | note | step => exact .inr fun _ => rfl

theorem Concludes.next (still : ∀ s, Quiet s s) {w w' : World σ} (settled : t.Concludes Quiet x n)
    (next : t.next? w = some (w', u)) :
    ∃ m, n = m + 1 ∧ Quiet w.state w'.state ∧ u.Concludes Quiet x m := by
  cases settled with
  | done => cases next
  | look rest =>
    cases next
    exact ⟨_, rfl, still _, rest _⟩
  | note rest =>
    cases next
    exact ⟨_, rfl, still _, rest⟩
  | step quiet rest =>
    cases next
    exact ⟨_, rfl, quiet _, rest _⟩

/-- **The steps of a task whose end is settled** are few and quiet. -/
theorem Concludes.of_leads (still : ∀ s, Quiet s s) (settled : t.Concludes Quiet x n)
    (leads : t.Leads h u) :
    (∀ p ∈ h, Quiet p.1.state p.2.state) ∧ ∃ m, n = h.length + m ∧ u.Concludes Quiet x m := by
  induction leads generalizing n with
  | refl => exact ⟨nofun, n, (Nat.zero_add n).symm, settled⟩
  | step next _ ih =>
    obtain ⟨m, rfl, quiet, rest⟩ := settled.next still next
    obtain ⟨steps, k, rfl, ends⟩ := ih rest
    exact ⟨List.forall_mem_cons.mpr ⟨quiet, steps⟩,
      k, by rw [List.length_cons, Nat.add_right_comm], ends⟩

end TokenChain.Task
