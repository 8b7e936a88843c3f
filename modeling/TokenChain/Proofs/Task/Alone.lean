import TokenChain.Chain

/-! # Tasks on their own

`Task.Ends t w w' a` says that `t`, begun in the world `w` and left alone, can end in the world `w'`
with the value `a`: it runs until it has to wait, time passes until the wait is over, and so on.
What a task built from others does is put together from what these do: `ends_bind`, `ends_onLoss`,
and `ends_lift` for a task of the sources of a chain. -/

namespace TokenChain

namespace World

variable {σ τ : Type}

/-- Time passes: the clock may move on, cancellations may take place and others may write to the
log. -/
structure Passes (w w' : World σ) : Prop where
  state : w'.state = w.state
  now : w.now ≤ w'.now
  cancelled : ∀ key, w.cancelled key = true → w'.cancelled key = true

/-- The world of those who see only a part of the state. -/
def focus (part : σ → τ) (w : World σ) : World τ :=
  { toMoment := w.toMoment, cancelAt := w.cancelAt, log := w.log, state := part w.state }

/-- The world of those who see more of the state. -/
def widen (s : τ) (w : World σ) : World τ := focus (fun _ => s) w

@[simp] theorem widen_state (s : τ) (w : World σ) : (w.widen s).state = s := rfl

theorem Passes.refl (w : World σ) : w.Passes w := ⟨rfl, Int.le_refl _, fun _ h => h⟩

theorem Passes.trans {w w₁ w' : World σ} (h : w.Passes w₁) (h' : w₁.Passes w') : w.Passes w' :=
  ⟨h'.state.trans h.state, Int.le_trans h.now h'.now,
    fun key hk => h'.cancelled key (h.cancelled key hk)⟩

theorem Passes.focus {w w' : World σ} (h : w.Passes w') (part : σ → τ) :
    (w.focus part).Passes (w'.focus part) :=
  ⟨congrArg part h.state, h.now, h.cancelled⟩

end World

namespace Task

variable {σ α β : Type}

/-- A task that is left alone ends with a value. -/
inductive Ends : Task σ α → World σ → World σ → α → Prop
  /-- It ends without waiting. -/
  | now {t : Task σ α} {w w' : World σ} {a : α} (h : t.run w = (w', .done a)) : Ends t w w' a
  /-- It has to wait, the wait is over after some time, and the rest ends. -/
  | later {t : Task σ α} {w w₁ w₂ w' : World σ} {a : α} {v : Wait σ} {k : Wake → Task σ α}
      {x : Wake} (h : t.run w = (w₁, .waiting v k)) (passes : w₁.Passes w₂)
      (wakes : v.wake? w₂ = some x) (rest : Ends (k x) w₂ w' a) : Ends t w w' a

/-- What becomes of a task that goes on with `g`, by what becomes of the task itself. -/
def Pause.bind (g : α → Task σ β) : World σ × Pause σ α → World σ × Pause σ β
  | (w, .done a) => (g a).run w
  | (w, .crashed) => (w, .crashed)
  | (w, .waiting v k) => (w, .waiting v fun x => (k x).bind g)

theorem run_bind (t : Task σ α) (g : α → Task σ β) (w : World σ) :
    (t.bind g).run w = Pause.bind g (t.run w) := by
  induction t generalizing w with
  | done a => rfl
  | crash => rfl
  | look k ih => exact ih w.toMoment w
  | note n k ih => exact ih (w.append n)
  | step f k ih => exact ih w.state _
  | wait v k ih =>
    simp only [Task.bind, run]
    cases v.wake? w with
    | none => rfl
    | some x => exact ih x w

theorem Ends.of_run_eq {t t' : Task σ α} {w w₀ w' : World σ} {a : α} (e : t.run w = t'.run w₀)
    (h : Ends t' w₀ w' a) : Ends t w w' a := by
  cases h with
  | now h => exact .now (e.trans h)
  | later h passes wakes rest => exact .later (e.trans h) passes wakes rest

@[simp] theorem ends_done {a b : α} {w w' : World σ} : Ends (done a) w w' b ↔ w' = w ∧ b = a := by
  constructor
  · rintro (h | ⟨h, -⟩)
    · cases h; exact ⟨rfl, rfl⟩
    · cases h
  · rintro ⟨rfl, rfl⟩
    exact .now rfl

@[simp] theorem not_ends_crash {w w' : World σ} {a : α} : ¬ Ends crash w w' a := by
  rintro (h | ⟨h, -⟩) <;> cases h

@[simp] theorem ends_note {n : Note} {k : Task σ α} {w w' : World σ} {a : α} :
    Ends (note n k) w w' a ↔ Ends k (w.append n) w' a :=
  ⟨.of_run_eq rfl, .of_run_eq rfl⟩

@[simp] theorem ends_step {f : σ → σ} {k : σ → Task σ α} {w w' : World σ} {a : α} :
    Ends (step f k) w w' a ↔ Ends (k w.state) { w with state := f w.state } w' a :=
  ⟨.of_run_eq rfl, .of_run_eq rfl⟩

/-- A task that need not wait ends in one way. -/
theorem ends_of_run {t : Task σ α} {w u w' : World σ} {a b : α} (h : t.run w = (u, .done a)) :
    Ends t w w' b ↔ w' = u ∧ b = a := by
  rw [← ends_done]
  exact ⟨.of_run_eq h.symm, .of_run_eq h⟩

theorem ends_step_id {k : σ → Task σ α} {w w' : World σ} {a : α} :
    Ends (step id k) w w' a ↔ Ends (k w.state) w w' a := ends_step

theorem Ends.bind {t : Task σ α} {g : α → Task σ β} {w w₁ w' : World σ} {a : α} {b : β}
    (h : Ends t w w₁ a) (hg : Ends (g a) w₁ w' b) : Ends (t.bind g) w w' b := by
  induction h with
  | now h => exact .of_run_eq (by rw [run_bind, h]; rfl) hg
  | later h passes wakes _ ih => exact .later (by rw [run_bind, h]; rfl) passes wakes (ih hg)

theorem Ends.of_bind {t : Task σ α} {g : α → Task σ β} {w w' : World σ} {b : β}
    (h : Ends (t.bind g) w w' b) : ∃ a w₁, Ends t w w₁ a ∧ Ends (g a) w₁ w' b := by
  generalize hu : t.bind g = u at h
  induction h generalizing t with
  | @now u w w' b h =>
    subst hu
    rw [run_bind] at h
    rcases ht : t.run w with ⟨w₁, a | _ | ⟨v, k⟩⟩ <;> rw [ht] at h
    · exact ⟨a, w₁, .now ht, .now h⟩
    · cases h
    · cases h
  | @later u w w₁ w₂ w' b v k x h passes wakes rest ih =>
    subst hu
    rw [run_bind] at h
    rcases ht : t.run w with ⟨w₀, a | _ | ⟨v₀, k₀⟩⟩ <;> rw [ht] at h
    · exact ⟨a, w₀, .now ht, .later h passes wakes rest⟩
    · cases h
    · obtain ⟨rfl, hv⟩ := Prod.mk.inj h
      obtain ⟨rfl, rfl⟩ := Pause.waiting.inj hv
      obtain ⟨a, w₃, h₁, h₂⟩ := ih rfl
      exact ⟨a, w₃, .later ht passes wakes h₁, h₂⟩

/-- **Sequence**: a task ends, and what follows begins where it ended. -/
theorem ends_bind {t : Task σ α} {g : α → Task σ β} {w w' : World σ} {b : β} :
    Ends (t.bind g) w w' b ↔ ∃ a w₁, Ends t w w₁ a ∧ Ends (g a) w₁ w' b :=
  ⟨Ends.of_bind, fun ⟨_, _, h, hg⟩ => h.bind hg⟩

/-! ### What is undone at a loss -/

/-- What becomes of a task with something to undo at a loss. -/
def Pause.onLoss (release : σ → σ) : World σ × Pause σ α → World σ × Pause σ α
  | (w, .done a) => (w, .done a)
  | (w, .crashed) => ({ w with state := release w.state }, .crashed)
  | (w, .waiting v k) =>
    (w, .waiting { v with abandon := release ∘ v.abandon } fun x => (k x).onLoss release)

theorem run_onLoss (release : σ → σ) (t : Task σ α) (w : World σ) :
    (t.onLoss release).run w = Pause.onLoss release (t.run w) := by
  induction t generalizing w with
  | done a => rfl
  | crash => rfl
  | look k ih => exact ih w.toMoment w
  | note n k ih => exact ih (w.append n)
  | step f k ih => exact ih w.state _
  | wait v k ih =>
    have hv : ({ v with abandon := release ∘ v.abandon } : Wait σ).wake? w = v.wake? w := rfl
    simp only [Task.onLoss, run, hv]
    cases v.wake? w with
    | none => rfl
    | some x => exact ih x w

theorem Ends.onLoss {t : Task σ α} {w w' : World σ} {a : α} (release : σ → σ) (h : Ends t w w' a) :
    Ends (t.onLoss release) w w' a := by
  induction h with
  | now h => exact .now (by rw [run_onLoss, h]; rfl)
  | later h passes wakes _ ih =>
    have e := congrArg (Pause.onLoss release) h
    rw [← run_onLoss] at e
    exact .later e passes wakes ih

theorem Ends.of_onLoss {release : σ → σ} {t : Task σ α} {w w' : World σ} {a : α}
    (h : Ends (t.onLoss release) w w' a) : Ends t w w' a := by
  generalize hu : t.onLoss release = u at h
  induction h generalizing t with
  | now h =>
    subst hu
    rw [run_onLoss] at h
    rcases ht : t.run _ with ⟨w₁, a | _ | ⟨v, k⟩⟩ <;> rw [ht] at h <;> cases h
    exact .now ht
  | later h passes wakes _ ih =>
    subst hu
    rw [run_onLoss] at h
    rcases ht : t.run _ with ⟨w₁, a | _ | ⟨v, k⟩⟩ <;> rw [ht] at h <;> cases h
    exact .later ht passes wakes (ih rfl)

@[simp] theorem ends_onLoss {release : σ → σ} {t : Task σ α} {w w' : World σ} {a : α} :
    Ends (t.onLoss release) w w' a ↔ Ends t w w' a :=
  ⟨.of_onLoss, .onLoss release⟩

end Task

namespace Shared

variable {ρ α : Type}

/-- The world of the sources. -/
abbrev outside (w : World (Shared ρ)) : World ρ := w.focus Shared.sources

/-- What becomes of a task of the sources beside a chain. -/
def ofPause (c : ChainState) : World ρ × Pause ρ α → World (Shared ρ) × Pause (Shared ρ) α
  | (w, .done a) => (w.widen ⟨c, w.state⟩, .done a)
  | (w, .crashed) => (w.widen ⟨c, w.state⟩, .crashed)
  | (w, .waiting v k) =>
    (w.widen ⟨c, w.state⟩,
      .waiting { v with
        ready := v.ready ∘ Shared.sources
        abandon := fun s => { s with sources := v.abandon s.sources } } fun x => lift (k x))

theorem run_lift (t : Task ρ α) (w : World (Shared ρ)) :
    (lift t).run w = ofPause w.state.chain (t.run (outside w)) := by
  induction t generalizing w with
  | done a => rfl
  | crash => rfl
  | look k ih => exact ih w.toMoment w
  | note n k ih => exact ih (w.append n)
  | step f k ih =>
    exact ih w.state.sources { w with state := { w.state with sources := f w.state.sources } }
  | wait v k ih =>
    have hv : ({ v with
        ready := v.ready ∘ Shared.sources
        abandon := fun s => { s with sources := v.abandon s.sources } } : Wait (Shared ρ)).wake? w =
          v.wake? (outside w) := rfl
    simp only [lift, Task.zoom, Task.run, hv]
    cases v.wake? (outside w) with
    | none => rfl
    | some x => exact ih x w

theorem ends_lift_of {t : Task ρ α} {w v : World ρ} {a : α} (h : t.Ends w v a) :
    ∀ {u : World (Shared ρ)}, outside u = w →
      (lift t).Ends u (v.widen ⟨u.state.chain, v.state⟩) a := by
  induction h with
  | now h =>
    intro u hu
    subst hu
    exact .now (by rw [run_lift, h]; rfl)
  | @later t w w₁ w₂ v a q k x h passes wakes _ ih =>
    intro u hu
    subst hu
    have e := congrArg (ofPause u.state.chain) h
    rw [← run_lift] at e
    have beside : (w₁.widen (Shared.mk u.state.chain w₁.state)).Passes
        (w₂.widen ⟨u.state.chain, w₂.state⟩) :=
      ⟨by simp [passes.state], passes.now, passes.cancelled⟩
    exact .later e beside wakes (ih (u := w₂.widen ⟨u.state.chain, w₂.state⟩) rfl)

theorem ends_of_lift {t : Task ρ α} {u u' : World (Shared ρ)} {a : α} (h : (lift t).Ends u u' a) :
    t.Ends (outside u) (outside u') a ∧ u'.state.chain = u.state.chain := by
  generalize ht : lift t = l at h
  induction h generalizing t with
  | @now l u u' a h =>
    subst ht
    rw [run_lift] at h
    rcases hr : t.run (outside u) with ⟨v, b | _ | ⟨q, k⟩⟩ <;> rw [hr] at h <;> cases h
    exact ⟨.now hr, rfl⟩
  | @later l u u₁ u₂ u' a q k x h passes wakes rest ih =>
    subst ht
    rw [run_lift] at h
    rcases hr : t.run (outside u) with ⟨v, b | _ | ⟨q₀, k₀⟩⟩ <;> rw [hr] at h <;> cases h
    obtain ⟨he, hc⟩ := ih rfl
    have hp := passes.focus Shared.sources
    exact ⟨.later hr hp wakes he, by rw [hc, passes.state]; rfl⟩

/-- **A task of the sources** beside a chain does what it does on its own, and leaves the chain as
it is. -/
theorem ends_lift {t : Task ρ α} {u u' : World (Shared ρ)} {a : α} :
    (lift t).Ends u u' a ↔ t.Ends (outside u) (outside u') a ∧ u'.state.chain = u.state.chain := by
  refine ⟨ends_of_lift, fun ⟨h, hc⟩ => ?_⟩
  have := ends_lift_of h (u := u) rfl
  rwa [← hc] at this

end Shared

end TokenChain
