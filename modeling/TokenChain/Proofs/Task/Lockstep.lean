import Mathlib.Data.Option.Basic
import TokenChain.Proofs.Task.Crowd
import TokenChain.Proofs.Task.Likeness

/-! # Crowds that differ in what nobody sees

Two crowds whose callers have tasks that are alike (`Crowd.Alike`) are in lockstep if they make the
same moves, and the worlds change around them in ways that leave them alike (`Crowd.Lockstep`). The
moves are the finest there are, so this covers whatever order the steps of the callers are taken in.

What one crowd can do the other can do (`Crowd.Alike.step`), and crowds in lockstep stay alike
(`Crowd.Alike.lockstep`). -/

namespace TokenChain

variable {ι σ α : Type} {S : σ → σ → Prop} {A : α → α → Prop}

namespace Task

/-- **One step** of tasks that are alike. -/
theorem Alike.next? {t t' : Task σ α} (h : t.Alike S A t') {w w' : World σ}
    (worlds : w.Alike S w') :
    Option.Rel (fun p p' => p.1.Alike S p'.1 ∧ p.2.Alike S A p'.2) (t.next? w) (t'.next? w') := by
  cases h with
  | done | crash => exact .none
  | look alike =>
    rw [Task.next?, Task.next?, worlds.moment]
    exact .some ⟨worlds, alike _⟩
  | note alike => exact .some ⟨worlds.append _, alike⟩
  | step steps alike => exact .some ⟨worlds.withState (steps worlds.state), alike worlds.state⟩
  | @wait v v' k k' waits alike =>
    rw [Task.next?, Task.next?, waits.wake? worlds]
    cases v'.wake? w' with
    | none => exact .none
    | some x => exact .some ⟨worlds, alike x⟩

theorem Alike.drop? {t t' : Task σ α} (h : t.Alike S A t') {w w' : World σ}
    (worlds : w.Alike S w') : Option.Rel (World.Alike S) (t.drop? w) (t'.drop? w') := by
  cases h with
  | wait waits => exact .some (worlds.withState (waits.abandon worlds.state))
  | done | crash | look | note | step => exact .none

end Task

/-- Two callers with the same order that have come equally far. -/
structure Caller.Alike (S : σ → σ → Prop) (A : α → α → Prop) (c c' : Caller ι σ α) : Prop where
  order : c.order = c'.order
  rest : c.rest.Alike S A c'.rest

namespace Crowd

/-- **Two crowds** that have come equally far. -/
structure Alike (S : σ → σ → Prop) (A : α → α → Prop) (g g' : Crowd ι σ α) : Prop where
  world : g.world.Alike S g'.world
  callers : ∀ id, Option.Rel (Caller.Alike S A) (g.callers id) (g'.callers id)

variable {begins begins' : ι → Task σ α} {g g' : Crowd ι σ α}

theorem Alike.put (h : g.Alike S A g') {w w' : World σ} (worlds : w.Alike S w') (id : Nat)
    {c c' : Option (Caller ι σ α)} (callers : Option.Rel (Caller.Alike S A) c c') :
    (g.put w id c).Alike S A (g'.put w' id c') := by
  refine ⟨worlds, fun j => ?_⟩
  rw [Crowd.put, Crowd.put]
  rcases eq_or_ne j id with rfl | ne
  · simpa using callers
  · simpa [ne] using h.callers j

theorem alike_empty {w w' : World σ} (worlds : w.Alike S w') :
    (empty w : Crowd ι σ α).Alike S A (empty w') :=
  ⟨worlds, fun _ => .none⟩

/-- A move of a caller. -/
abbrev Acts (begins : ι → Task σ α) : Move ι → Crowd ι σ α → Crowd ι σ α → Prop :=
  Step begins fun _ _ => False

/-- **A move** of one crowd is a move of one that is alike, and leaves both alike. -/
theorem Alike.acts (h : g.Alike S A g')
    (tasks : ∀ order, (begins order).Alike S A (begins' order)) {m : Move ι} {a : Crowd ι σ α}
    (act : Acts begins m g a) : ∃ a', Acts begins' m g' a' ∧ a.Alike S A a' := by
  cases act with
  | @call _ id order free =>
    have callers := h.callers id
    rw [free] at callers
    generalize here : g'.callers id = c' at callers
    cases callers
    exact ⟨_, .call here, h.put h.world id (.some ⟨rfl, tasks order⟩)⟩
  | @go _ id c w t here next =>
    have callers := h.callers id
    rw [here] at callers
    generalize here' : g'.callers id = c' at callers
    cases callers with
    | @some _ c' alike =>
      have steps := alike.rest.next? h.world
      rw [next] at steps
      generalize next' : c'.rest.next? g'.world = p at steps
      cases steps with
      | some steps => exact ⟨_, .go here' next', h.put steps.1 id (.some ⟨alike.order, steps.2⟩)⟩
  | @drop _ id c w here dropped =>
    have callers := h.callers id
    rw [here] at callers
    generalize here' : g'.callers id = c' at callers
    cases callers with
    | @some _ c' alike =>
      have worlds := alike.rest.drop? h.world
      rw [dropped] at worlds
      generalize dropped' : c'.rest.drop? g'.world = p at worlds
      cases worlds with
      | some worlds => exact ⟨_, .drop here' dropped', h.put worlds id .none⟩
  | around none => exact none.elim

theorem acts_unique {m : Move ι} {a b : Crowd ι σ α} (act : Acts begins m g a)
    (act' : Acts begins m g b) : a = b := by
  cases act with
  | call free =>
    cases act' with
    | call => rfl
  | go here next =>
    cases act' with
    | go here' next' =>
      cases here.symm.trans here'
      cases next.symm.trans next'
      rfl
  | drop here dropped =>
    cases act' with
    | drop here' dropped' =>
      cases here.symm.trans here'
      cases dropped.symm.trans dropped'
      rfl
  | around none => exact none.elim

variable (begins begins' S) in
/-- **What two crowds go through in lockstep**: the same moves, and changes of the worlds around
them that leave them alike. -/
inductive Lockstep (g g' : Crowd ι σ α) : Crowd ι σ α → Crowd ι σ α → Prop
  | start : Lockstep g g' g g'
  | move {a a' b b' : Crowd ι σ α} {m : Move ι} (earlier : Lockstep g g' a a')
      (act : Acts begins m a b) (act' : Acts begins' m a' b') : Lockstep g g' b b'
  | around {a a' : Crowd ι σ α} {w w' : World σ} (earlier : Lockstep g g' a a')
      (worlds : w.Alike S w') : Lockstep g g' { a with world := w } { a' with world := w' }

/-- **Crowds in lockstep** stay alike. -/
theorem Alike.lockstep (h : g.Alike S A g')
    (tasks : ∀ order, (begins order).Alike S A (begins' order)) {a a' : Crowd ι σ α}
    (lockstep : Lockstep S begins begins' g g' a a') : a.Alike S A a' := by
  induction lockstep with
  | start => exact h
  | move _ act act' ih =>
    obtain ⟨b', act'', alike⟩ := ih.acts tasks act
    cases acts_unique act' act''
    exact alike
  | around _ worlds ih => exact ⟨worlds, ih.callers⟩

end Crowd

end TokenChain
