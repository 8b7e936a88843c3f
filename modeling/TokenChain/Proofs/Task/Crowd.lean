import Mathlib.Logic.Function.Basic
import Mathlib.Logic.Relation
import TokenChain.Proofs.Task.Stepwise

/-! # Crowds of callers

Any number of callers that work in one world at the same time. `Crowd.Step` is one move: somebody
calls, a caller takes the next step of its task, a caller that waits is dropped, or the world
changes around the callers. The moves come in any order, so a crowd goes through every interleaving
of the steps of its callers. A caller that is over stays in the crowd with what its task ended with,
and each caller carries the steps it has taken.

A `Pact` is an invariant of a crowd in three parts: what holds of the world, of each caller in it,
and of any two callers. It holds for good if each caller keeps it for itself and for the others
(`Pact.Kept`, `Pact.holds_of_reaches`). -/

namespace TokenChain

/-- Somebody who has called: the order, the steps taken so far, and what is left to do. -/
structure Caller (ι σ α : Type) where
  order : ι
  history : History σ
  rest : Task σ α

/-- Callers in one world, by their numbers. -/
structure Crowd (ι σ α : Type) where
  world : World σ
  callers : Nat → Option (Caller ι σ α)

variable {ι σ α : Type}

namespace Caller

/-- Somebody who has just called. -/
def new (begins : ι → Task σ α) (order : ι) : Caller ι σ α := ⟨order, [], begins order⟩

/-- The caller after one more step. -/
def after (c : Caller ι σ α) (w w' : World σ) (rest : Task σ α) : Caller ι σ α :=
  { c with history := c.history ++ [(w, w')], rest }

end Caller

namespace Crowd

/-- A world in which nobody has called yet. -/
def empty (w : World σ) : Crowd ι σ α := ⟨w, fun _ => none⟩

/-- The crowd in another world, with somebody or nobody under a number. -/
def put (s : Crowd ι σ α) (w : World σ) (id : Nat) (c : Option (Caller ι σ α)) : Crowd ι σ α :=
  ⟨w, Function.update s.callers id c⟩

@[simp] theorem put_world (s : Crowd ι σ α) (w : World σ) (id : Nat) (c : Option (Caller ι σ α)) :
    (s.put w id c).world = w := rfl

theorem callers_put {s : Crowd ι σ α} {w : World σ} {i j : Nat} {c : Option (Caller ι σ α)}
    {d : Caller ι σ α} :
    (s.put w i c).callers j = some d ↔ (j = i ∧ c = some d) ∨ (j ≠ i ∧ s.callers j = some d) := by
  rw [put]
  rcases eq_or_ne j i with rfl | hne
  · simp
  · simp [hne]

/-- One caller at its work. -/
inductive Move (ι : Type) where
  | call (id : Nat) (order : ι)
  | go (id : Nat)
  | drop (id : Nat)
  /-- The world changes around the callers. -/
  | around

/-- One move of a crowd, given the task that an order begins and how the world may change around the
callers. -/
inductive Step (begins : ι → Task σ α) (Around : World σ → World σ → Prop) :
    Move ι → Crowd ι σ α → Crowd ι σ α → Prop
  | call {s : Crowd ι σ α} {id : Nat} {order : ι} (free : s.callers id = none) :
      Step begins Around (.call id order) s (s.put s.world id (some (.new begins order)))
  | go {s : Crowd ι σ α} {id : Nat} {c : Caller ι σ α} {w : World σ} {t : Task σ α}
      (here : s.callers id = some c) (next : c.rest.next? s.world = some (w, t)) :
      Step begins Around (.go id) s (s.put w id (some (c.after s.world w t)))
  | drop {s : Crowd ι σ α} {id : Nat} {c : Caller ι σ α} {w : World σ}
      (here : s.callers id = some c) (dropped : c.rest.drop? s.world = some w) :
      Step begins Around (.drop id) s (s.put w id none)
  | around {s : Crowd ι σ α} {w : World σ} (h : Around s.world w) :
      Step begins Around .around s { s with world := w }

variable (begins : ι → Task σ α) (Around : World σ → World σ → Prop)

/-- A crowd gets from one state to another by moves. -/
abbrev Reaches : Crowd ι σ α → Crowd ι σ α → Prop :=
  Relation.ReflTransGen fun s s' => ∃ m, Step begins Around m s s'

/-- A crowd gets from one state to another by steps of its callers alone. -/
abbrev Proceeds : Crowd ι σ α → Crowd ι σ α → Prop :=
  Relation.ReflTransGen fun s s' => ∃ id, Step begins (fun _ _ => False) (.go id) s s'

variable {begins Around}

theorem reaches_of_proceeds {s s' : Crowd ι σ α} (h : Proceeds begins s s') :
    Reaches begins Around s s' := by
  induction h with
  | refl => exact .refl
  | tail _ step ih =>
    obtain ⟨id, step⟩ := step
    cases step with
    | go here next => exact ih.tail ⟨_, .go here next⟩

/-- A move with the states before and after it. -/
structure Event (ι σ α : Type) where
  move : Move ι
  before : Crowd ι σ α
  after : Crowd ι σ α

variable (begins Around) in
/-- A run with all its moves, in order. -/
inductive Run : Crowd ι σ α → List (Event ι σ α) → Crowd ι σ α → Prop
  | nil (s : Crowd ι σ α) : Run s [] s
  | snoc {s s₁ s' : Crowd ι σ α} {m : Move ι} {l : List (Event ι σ α)} (run : Run s l s₁)
      (step : Step begins Around m s₁ s') : Run s (l ++ [⟨m, s₁, s'⟩]) s'

theorem Run.reaches {s s' : Crowd ι σ α} {l : List (Event ι σ α)} (h : Run begins Around s l s') :
    Reaches begins Around s s' := by
  induction h with
  | nil => exact .refl
  | snoc _ step ih => exact ih.tail ⟨_, step⟩

/-- What is reached is reached by a run. -/
theorem Reaches.exists_run {s s' : Crowd ι σ α} (h : Reaches begins Around s s') :
    ∃ l, Run begins Around s l s' := by
  induction h with
  | refl => exact ⟨[], .nil s⟩
  | tail _ step ih =>
    obtain ⟨l, run⟩ := ih
    obtain ⟨m, step⟩ := step
    exact ⟨_, run.snoc step⟩

/-- Carries a move out, if it can be; what happens around the callers is left to others. -/
def move? (begins : ι → Task σ α) (s : Crowd ι σ α) : Move ι → Option (Crowd ι σ α)
  | .call id order =>
    match s.callers id with
    | none => some (s.put s.world id (some (.new begins order)))
    | some _ => none
  | .go id => (s.callers id).bind fun c =>
    (c.rest.next? s.world).map fun p => s.put p.1 id (some (c.after s.world p.1 p.2))
  | .drop id => (s.callers id).bind fun c => (c.rest.drop? s.world).map fun w => s.put w id none
  | .around => none

/-- Carries moves out one after another. -/
def play? (begins : ι → Task σ α) : List (Move ι) → Crowd ι σ α → Option (Crowd ι σ α)
  | [], s => some s
  | m :: ms, s => (s.move? begins m).bind (play? begins ms)

/-- What moves lead to; the crowd as it is if not all of them can be carried out. -/
def play (begins : ι → Task σ α) (ms : List (Move ι)) (s : Crowd ι σ α) : Crowd ι σ α :=
  (play? begins ms s).getD s

theorem step_of_move? {m : Move ι} {s s' : Crowd ι σ α} (h : s.move? begins m = some s') :
    Step begins Around m s s' := by
  cases m with
  | call id order =>
    rw [move?] at h
    cases hc : s.callers id with
    | none =>
      rw [hc] at h
      cases h
      exact .call hc
    | some c =>
      rw [hc] at h
      cases h
  | go id =>
    obtain ⟨c, hc, h⟩ := Option.bind_eq_some_iff.mp h
    obtain ⟨⟨w, t⟩, hn, h⟩ := Option.map_eq_some_iff.mp h
    cases h
    exact .go hc hn
  | drop id =>
    obtain ⟨c, hc, h⟩ := Option.bind_eq_some_iff.mp h
    obtain ⟨w, hd, h⟩ := Option.map_eq_some_iff.mp h
    cases h
    exact .drop hc hd
  | around => cases h

theorem reaches_of_play? :
    ∀ {ms : List (Move ι)} {s s' : Crowd ι σ α}, play? begins ms s = some s' →
    Reaches begins Around s s'
  | [], s, s', h => by
    cases h
    exact .refl
  | m :: ms, s, s', h => by
    obtain ⟨s₁, hm, h⟩ := Option.bind_eq_some_iff.mp h
    exact .head ⟨m, step_of_move? hm⟩ (reaches_of_play? h)

theorem callers_of_step {m : Move ι} {s s' : Crowd ι σ α}
    (step : Step begins Around m s s') {id : Nat} {c : Caller ι σ α} {a : α}
    (here : s.callers id = some c) (ended : c.rest = .done a) : s'.callers id = some c := by
  cases step with
  | @call _ i order free =>
    refine callers_put.mpr (.inr ⟨?_, here⟩)
    rintro rfl
    rw [free] at here
    cases here
  | @go _ i d w t hd next =>
    refine callers_put.mpr (.inr ⟨?_, here⟩)
    rintro rfl
    rw [hd] at here
    cases here
    rw [ended] at next
    cases next
  | @drop _ i d w hd dropped =>
    refine callers_put.mpr (.inr ⟨?_, here⟩)
    rintro rfl
    rw [hd] at here
    cases here
    rw [ended] at dropped
    cases dropped
  | around => exact here

theorem leads_of_reaches {w : World σ} {s : Crowd ι σ α} (h : Reaches begins Around (.empty w) s)
    {id : Nat} {c : Caller ι σ α} (here : s.callers id = some c) :
    (begins c.order).Leads c.history c.rest := by
  induction h generalizing id c with
  | refl => cases here
  | @tail s s' _ step ih =>
    obtain ⟨m, step⟩ := step
    cases step with
    | call free =>
      rcases callers_put.mp here with ⟨-, he⟩ | ⟨-, here⟩
      · cases he
        exact .refl _
      · exact ih here
    | go hd next =>
      rcases callers_put.mp here with ⟨rfl, he⟩ | ⟨-, here⟩
      · cases he
        exact (ih hd).snoc next
      · exact ih here
    | drop hd dropped =>
      rcases callers_put.mp here with ⟨-, he⟩ | ⟨-, here⟩
      · cases he
      · exact ih here
    | around => exact ih here

end Crowd

/-! ### Pacts -/

/-- What holds of the world, of each caller in it, and of any two callers. -/
structure Pact (ι σ α : Type) where
  world : World σ → Prop
  caller : World σ → Caller ι σ α → Prop
  apart : Caller ι σ α → Caller ι σ α → Prop

namespace Pact

/-- The pact holds in a crowd. -/
structure Holds (P : Pact ι σ α) (s : Crowd ι σ α) : Prop where
  world : P.world s.world
  caller : ∀ {id : Nat} {c : Caller ι σ α}, s.callers id = some c → P.caller s.world c
  apart : ∀ {i j : Nat} {c d : Caller ι σ α}, s.callers i = some c →
    s.callers j = some d → i ≠ j → P.apart c d

/-- Every move keeps the pact: what a caller does keeps it for the caller itself and for any other
one. -/
structure Kept (P : Pact ι σ α) (begins : ι → Task σ α) (Around : World σ → World σ → Prop) :
    Prop where
  symm : ∀ {c d : Caller ι σ α}, P.apart c d → P.apart d c
  calls : ∀ {w : World σ} (order : ι), P.world w → P.caller w (.new begins order)
  callsApart :
      ∀ {w : World σ} (order : ι) {d : Caller ι σ α}, P.caller w d → P.apart (.new begins order) d
  goes : ∀ {w w' : World σ} {c : Caller ι σ α} {t : Task σ α}, P.world w → P.caller w c →
    c.rest.next? w = some (w', t) → P.world w' ∧ P.caller w' (c.after w w' t)
  besideGo : ∀ {w w' : World σ} {c d : Caller ι σ α} {t : Task σ α}, P.world w →
    P.caller w c → P.caller w d → P.apart c d → c.rest.next? w = some (w', t) → P.caller w' d ∧
    P.apart (c.after w w' t) d
  drops : ∀ {w w' : World σ} {c : Caller ι σ α}, P.world w → P.caller w c →
    c.rest.drop? w = some w' → P.world w'
  besideDrop : ∀ {w w' : World σ} {c d : Caller ι σ α}, P.world w → P.caller w c → P.caller w d →
    P.apart c d → c.rest.drop? w = some w' → P.caller w' d
  around : ∀ {w w' : World σ}, P.world w → Around w w' → P.world w'
  besideAround :
      ∀ {w w' : World σ} {c : Caller ι σ α}, P.world w → P.caller w c → Around w w' → P.caller w' c

variable {P : Pact ι σ α} {begins : ι → Task σ α} {Around : World σ → World σ → Prop}

theorem holds_empty {w : World σ} (h : P.world w) : P.Holds (.empty w) where
  world := h
  caller hc := nomatch hc
  apart hc := nomatch hc

/-- What is to be shown when the world and one caller have changed. -/
theorem holds_put {s : Crowd ι σ α} {w : World σ} {i : Nat} {c : Option (Caller ι σ α)}
    (symm : ∀ {a b : Caller ι σ α}, P.apart a b → P.apart b a) (h : P.Holds s) (world : P.world w)
    (self : ∀ a, c = some a → P.caller w a)
    (others : ∀ {j : Nat} {d : Caller ι σ α}, j ≠ i → s.callers j = some d →
      P.caller w d ∧ ∀ a, c = some a → P.apart a d) : P.Holds (s.put w i c) where
  world := world
  caller hd := by
    rcases Crowd.callers_put.mp hd with ⟨-, rfl⟩ | ⟨hne, hd⟩
    · exact self _ rfl
    · exact (others hne hd).1
  apart ha hb hne := by
    rcases Crowd.callers_put.mp ha with ⟨rfl, rfl⟩ | ⟨hi, hold⟩
    · rcases Crowd.callers_put.mp hb with ⟨rfl, -⟩ | ⟨hj, hold⟩
      · exact absurd rfl hne
      · exact (others hj hold).2 _ rfl
    · rcases Crowd.callers_put.mp hb with ⟨rfl, rfl⟩ | ⟨hj, hold'⟩
      · exact symm ((others hi hold).2 _ rfl)
      · exact h.apart hold hold' hne

/-- **One move** keeps a pact. -/
theorem holds_of_step (kept : P.Kept begins Around) {m : Crowd.Move ι}
    {s s' : Crowd ι σ α} (h : P.Holds s) (step : Crowd.Step begins Around m s s') : P.Holds s' := by
  cases step with
  | @call _ i order free =>
    refine holds_put kept.symm h h.world ?_ fun {j d} _ hd => ⟨h.caller hd, ?_⟩
    · rintro a ⟨⟩
      exact kept.calls order h.world
    · rintro a ⟨⟩
      exact kept.callsApart order (h.caller hd)
  | @go _ i c w t here next =>
    obtain ⟨hw, hc⟩ := kept.goes h.world (h.caller here) next
    refine holds_put kept.symm h hw ?_ fun {j d} hne hd => ?_
    · rintro a ⟨⟩
      exact hc
    · obtain ⟨hd', hapart⟩ :=
        kept.besideGo h.world (h.caller here) (h.caller hd) (h.apart here hd hne.symm) next
      refine ⟨hd', ?_⟩
      rintro a ⟨⟩
      exact hapart
  | @drop _ i c w here dropped =>
    refine holds_put kept.symm h (kept.drops h.world (h.caller here) dropped) ?_
      fun {j d} hne hd => ⟨?_, ?_⟩
    · rintro a ⟨⟩
    · exact kept.besideDrop h.world (h.caller here) (h.caller hd) (h.apart here hd hne.symm) dropped
    · rintro a ⟨⟩
  | around hw =>
    exact ⟨kept.around h.world hw, fun hc => kept.besideAround h.world (h.caller hc) hw, h.apart⟩

/-- **A pact that every move keeps** holds in every run. -/
theorem holds_of_reaches (kept : P.Kept begins Around) {s s' : Crowd ι σ α} (h : P.Holds s)
    (reaches : Crowd.Reaches begins Around s s') : P.Holds s' := by
  induction reaches with
  | refl => exact h
  | tail _ step ih =>
    obtain ⟨m, step⟩ := step
    exact holds_of_step kept ih step

/-- A pact that says more of each caller. -/
def also (P : Pact ι σ α) (more : World σ → Caller ι σ α → Prop) : Pact ι σ α where
  world := P.world
  caller w c := P.caller w c ∧ more w c
  apart := P.apart

theorem Holds.of_also {more : World σ → Caller ι σ α → Prop} {s : Crowd ι σ α}
    (h : (P.also more).Holds s) : P.Holds s where
  world := h.world
  caller hc := (h.caller hc).1
  apart := h.apart

/-- **More is kept** if a caller gets it by its own steps, and nobody else takes it away. -/
theorem Kept.also {more : World σ → Caller ι σ α → Prop} (kept : P.Kept begins Around)
    (calls : ∀ {w : World σ} (order : ι), P.world w → more w (.new begins order))
    (goes : ∀ {w w' : World σ} {c : Caller ι σ α} {t : Task σ α}, P.world w →
      P.caller w c → more w c → c.rest.next? w = some (w', t) → more w' (c.after w w' t))
    (besideGo : ∀ {w w' : World σ} {c d : Caller ι σ α} {t : Task σ α}, P.world w →
      P.caller w c → P.caller w d → P.apart c d → c.rest.next? w = some (w', t) →
      more w d → more w' d)
    (besideDrop : ∀ {w w' : World σ} {c d : Caller ι σ α}, P.world w → P.caller w c →
      c.rest.drop? w = some w' → more w d → more w' d)
    (besideAround : ∀ {w w' : World σ} {d : Caller ι σ α}, P.world w → P.caller w d →
      Around w w' → more w d → more w' d) : (P.also more).Kept begins Around where
  symm h := kept.symm h
  calls order h := ⟨kept.calls order h, calls order h⟩
  callsApart order _ h := kept.callsApart order h.1
  goes hw hc next :=
    have ⟨hw', hc'⟩ := kept.goes hw hc.1 next
    ⟨hw', hc', goes hw hc.1 hc.2 next⟩
  besideGo hw hc hd apart next :=
    have ⟨hd', apart'⟩ := kept.besideGo hw hc.1 hd.1 apart next
    ⟨⟨hd', besideGo hw hc.1 hd.1 apart next hd.2⟩, apart'⟩
  drops hw hc dropped := kept.drops hw hc.1 dropped
  besideDrop hw hc hd apart dropped :=
    ⟨kept.besideDrop hw hc.1 hd.1 apart dropped, besideDrop hw hc.1 dropped hd.2⟩
  around hw h := kept.around hw h
  besideAround hw hc h := ⟨kept.besideAround hw hc.1 h, besideAround hw hc.1 h hc.2⟩

end Pact

end TokenChain
