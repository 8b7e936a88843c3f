import TokenChain.Proofs.Task.Alone

/-! # Tasks step by step

`Task.next?` is the single step of a task: the world after it and what is left of the task. Between
any two steps the world may change in any way, so these are the finest steps that tasks in one world
can take in turn. `Task.drop?` is the world after a task was dropped at a wait. What a task built
from others does next is what one of them does next (`next?_bind`, `next?_onLoss`, `next?_zoom`),
and the same holds of a drop.

`Task.Leads t h u` says that `t` leads through the steps `h` to `u`. The steps of a sequence are
steps of the first task, or all of its steps and then steps of the second one (`Leads.of_bind`). -/

namespace TokenChain

/-- The steps that a task has taken: the worlds before and after each of them. -/
abbrev History (σ : Type) := List (World σ × World σ)

namespace Task

variable {σ τ α β : Type}

/-- What a task does next, unless it is over or has to wait. -/
def next? : Task σ α → World σ → Option (World σ × Task σ α)
  | done _, _ => none
  | crash, _ => none
  | look k, w => some (w, k w.toMoment)
  | note n k, w => some (w.append n, k)
  | step f k, w => some ({ w with state := f w.state }, k w.state)
  | wait v k, w => (v.wake? w).map fun x => (w, k x)

/-- The world once a task was dropped; only a task at a wait is. -/
def drop? : Task σ α → World σ → Option (World σ)
  | wait v _, w => some { w with state := v.abandon w.state }
  | _, _ => none

/-! ### Tasks built from others -/

theorem next?_bind {t : Task σ β} {g : β → Task σ α} {v : Task σ α} {w w' : World σ}
    (h : (t.bind g).next? w = some (w', v)) :
    (∃ b, t = done b ∧ (g b).next? w = some (w', v)) ∨
      ∃ u, t.next? w = some (w', u) ∧ v = u.bind g := by
  cases t with
  | done b => exact .inl ⟨b, rfl, h⟩
  | crash => cases h
  | look k => cases h; exact .inr ⟨_, rfl, rfl⟩
  | note n k => cases h; exact .inr ⟨_, rfl, rfl⟩
  | step f k => cases h; exact .inr ⟨_, rfl, rfl⟩
  | wait q k =>
    obtain ⟨x, hx, he⟩ := Option.map_eq_some_iff.mp h
    cases he
    exact .inr ⟨k x, by rw [next?, hx]; rfl, rfl⟩

theorem drop?_bind {t : Task σ β} {g : β → Task σ α} {w w' : World σ}
    (h : (t.bind g).drop? w = some w') :
    (∃ b, t = done b ∧ (g b).drop? w = some w') ∨ t.drop? w = some w' := by
  cases t with
  | done b => exact .inl ⟨b, rfl, h⟩
  | wait q k => exact .inr h
  | crash | look | note | step => cases h

theorem next?_bind_of_ne {t : Task σ β} {g : β → Task σ α} {v : Task σ α} {w w' : World σ}
    (ne : ∀ b, t ≠ done b) (h : (t.bind g).next? w = some (w', v)) :
    ∃ u, t.next? w = some (w', u) ∧ v = u.bind g := by
  rcases next?_bind h with ⟨b, hb, -⟩ | next
  · exact absurd hb (ne b)
  · exact next

theorem drop?_bind_of_ne {t : Task σ β} {g : β → Task σ α} {w w' : World σ} (ne : ∀ b, t ≠ done b)
    (h : (t.bind g).drop? w = some w') : t.drop? w = some w' := by
  rcases drop?_bind h with ⟨b, hb, -⟩ | dropped
  · exact absurd hb (ne b)
  · exact dropped

theorem next?_onLoss {t u : Task σ α} {release : σ → σ} {w w' : World σ}
    (h : (t.onLoss release).next? w = some (w', u)) :
    (t = crash ∧ w' = { w with state := release w.state } ∧ u = crash) ∨
      ∃ v, t.next? w = some (w', v) ∧ u = v.onLoss release := by
  cases t with
  | done a => cases h
  | crash => cases h; exact .inl ⟨rfl, rfl, rfl⟩
  | look k => cases h; exact .inr ⟨_, rfl, rfl⟩
  | note n k => cases h; exact .inr ⟨_, rfl, rfl⟩
  | step f k => cases h; exact .inr ⟨_, rfl, rfl⟩
  | wait q k =>
    obtain ⟨x, hx, he⟩ := Option.map_eq_some_iff.mp h
    cases he
    exact .inr ⟨k x, by rw [next?, show q.wake? w = some x from hx]; rfl, rfl⟩

theorem drop?_onLoss {t : Task σ α} {release : σ → σ} {w w' : World σ}
    (h : (t.onLoss release).drop? w = some w') :
    ∃ w₁, t.drop? w = some w₁ ∧ w' = { w₁ with state := release w₁.state } := by
  cases t with
  | wait q k => cases h; exact ⟨_, rfl, rfl⟩
  | done | crash | look | note | step => cases h

section Zoom
variable {part : τ → σ} {put : σ → τ → τ}

/-- A task on a part takes its steps there, and the rest of the state stays as it is. -/
theorem next?_zoom (same : ∀ s, put (part s) s = s) {t : Task σ α} {u : Task τ α} {w w' : World τ}
    (h : (t.zoom part put).next? w = some (w', u)) :
    ∃ v t', t.next? (w.focus part) = some (v, t') ∧ u = t'.zoom part put ∧
      w' = v.widen (put v.state w.state) := by
  cases t with
  | done a => cases h
  | crash => cases h
  | look k =>
    cases h
    refine ⟨_, _, rfl, rfl, ?_⟩
    simp [World.widen, World.focus, same]
  | note n k =>
    cases h
    refine ⟨_, _, rfl, rfl, ?_⟩
    simp [World.widen, World.focus, World.append, same]
  | step f k => cases h; exact ⟨_, _, rfl, rfl, rfl⟩
  | wait q k =>
    obtain ⟨x, hx, he⟩ := Option.map_eq_some_iff.mp h
    cases he
    refine ⟨w.focus part, k x, ?_, rfl, ?_⟩
    · rw [next?, show q.wake? (w.focus part) = some x from hx]
      rfl
    · simp [World.widen, World.focus, same]

theorem drop?_zoom {t : Task σ α} {w w' : World τ} (h : (t.zoom part put).drop? w = some w') :
    ∃ v, t.drop? (w.focus part) = some v ∧ w' = v.widen (put v.state w.state) := by
  cases t with
  | wait q k => cases h; exact ⟨_, rfl, rfl⟩
  | done | crash | look | note | step => cases h

theorem zoom_bind (t : Task σ β) (g : β → Task σ α) :
    (t.bind g).zoom part put = (t.zoom part put).bind fun b => (g b).zoom part put := by
  induction t with
  | done b => rfl
  | crash => rfl
  | look k ih => exact congrArg look (funext ih)
  | note n k ih => exact congrArg (note n) ih
  | step f k ih => exact congrArg (step _) (funext fun s => ih (part s))
  | wait q k ih => exact congrArg (wait _) (funext ih)

end Zoom

/-! ### Several steps -/

/-- A task leads through some steps to what is left of it. Between two steps the world may change in
any way. -/
inductive Leads : Task σ α → History σ → Task σ α → Prop
  | refl (t : Task σ α) : Leads t [] t
  | step {t u v : Task σ α} {w w' : World σ} {h : History σ} (next : t.next? w = some (w', u))
      (rest : Leads u h v) : Leads t ((w, w') :: h) v

theorem Leads.snoc {t u v : Task σ α} {h : History σ} {w w' : World σ} (hl : Leads t h u)
    (next : u.next? w = some (w', v)) : Leads t (h ++ [(w, w')]) v := by
  induction hl with
  | refl t => exact .step next (.refl v)
  | step first _ ih => exact .step first (ih next)

theorem Leads.split {t u : Task σ α} {a b : History σ} (hl : Leads t (a ++ b) u) :
    ∃ v, Leads t a v ∧ Leads v b u := by
  induction a generalizing t with
  | nil => exact ⟨t, .refl t, hl⟩
  | cons p a ih =>
    cases hl with
    | step next rest =>
      obtain ⟨v, hv, hu⟩ := ih rest
      exact ⟨v, .step next hv, hu⟩

theorem Leads.unique {t u v : Task σ α} {h : History σ} (hu : Leads t h u) (hv : Leads t h v) :
    u = v := by
  induction hu with
  | refl => cases hv with
    | refl => rfl
  | step next _ ih =>
    cases hv with
    | step next' rest =>
      rw [next] at next'
      cases next'
      exact ih rest

/-- **The steps of a sequence**: steps of the first task, or all of its steps and then steps of what
follows. -/
theorem Leads.of_bind {t : Task σ β} {g : β → Task σ α} {h : History σ} {u : Task σ α}
    (hl : Leads (t.bind g) h u) :
    (∃ v, Leads t h v ∧ u = v.bind g) ∨
      ∃ b h₁ h₂, h = h₁ ++ h₂ ∧ Leads t h₁ (done b) ∧ Leads (g b) h₂ u := by
  generalize hs : t.bind g = s at hl
  induction hl generalizing t with
  | refl s => exact .inl ⟨t, .refl t, hs.symm⟩
  | @step s s' u w w' h next rest ih =>
    subst hs
    rcases next?_bind next with ⟨b, rfl, hg⟩ | ⟨v, hv, rfl⟩
    · exact .inr ⟨b, [], (w, w') :: h, rfl, .refl _, .step hg rest⟩
    · rcases ih rfl with ⟨v', hv', rfl⟩ | ⟨b, h₁, h₂, rfl, hb, hg⟩
      · exact .inl ⟨v', .step hv hv', rfl⟩
      · exact .inr ⟨b, (w, w') :: h₁, h₂, rfl, .step hv hb, hg⟩

theorem leads_done {a : α} {h : History σ} {u : Task σ α} (hl : Leads (done a) h u) :
    h = [] ∧ u = done a := by
  cases hl with
  | refl => exact ⟨rfl, rfl⟩
  | step next => cases next

theorem leads_crash {h : History σ} {u : Task σ α} (hl : Leads crash h u) : h = [] ∧ u = crash := by
  cases hl with
  | refl => exact ⟨rfl, rfl⟩
  | step next => cases next

/-- At some point in the course of these steps it was so. -/
def Once (P : History σ → Prop) (h : History σ) : Prop := ∃ a b, h = a ++ b ∧ P a

theorem Once.now {P : History σ → Prop} {h : History σ} (hp : P h) : Once P h :=
  ⟨h, [], (List.append_nil h).symm, hp⟩

theorem Once.append {P : History σ → Prop} {h : History σ} (once : Once P h) (h' : History σ) :
    Once P (h ++ h') := by
  obtain ⟨a, b, rfl, hp⟩ := once
  exact ⟨a, b ++ h', List.append_assoc .., hp⟩

/-- What a task has come to on the way to its end: the steps there are the first of all its steps,
if they are steps of the same history. -/
theorem Leads.of_end {t u v : Task σ α} {a b d e : History σ}
    (ended : ∀ {h w}, Leads u h w → h = [] ∧ w = u) (hu : Leads t d u) (hv : Leads t a v)
    (he : a ++ b = d ++ e) : ∃ b', d = a ++ b' ∧ Leads v b' u := by
  rcases List.append_eq_append_iff.mp he with ⟨b', rfl, -⟩ | ⟨e', rfl, -⟩
  · obtain ⟨v', hv', hu'⟩ := hu.split
    rw [hv.unique hv']
    exact ⟨b', rfl, hu'⟩
  · obtain ⟨u', hu', hv'⟩ := hv.split
    rw [← hu.unique hu'] at hv'
    obtain ⟨rfl, rfl⟩ := ended hv'
    exact ⟨[], by simp, .refl v⟩

theorem Once.of_append {P : History σ → Prop} {t u : Task σ α} {d e : History σ}
    (ended : ∀ {h w}, Leads u h w → h = [] ∧ w = u) (leads : Leads t d u)
    (leaves : ∀ {a}, P a → ∃ v, Leads t a v) (once : Once P (d ++ e)) : Once P d := by
  obtain ⟨a, b, steps, hp⟩ := once
  obtain ⟨v, hv⟩ := leaves hp
  obtain ⟨b', hd, -⟩ := leads.of_end ended hv steps.symm
  exact ⟨a, b', hd, hp⟩

end Task

end TokenChain
