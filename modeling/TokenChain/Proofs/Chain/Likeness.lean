import Mathlib.Data.List.Forall2
import TokenChain.Chain
import TokenChain.Proofs.Source.Likeness

/-! # Chains of sources that do alike

If the sources of two chains do alike, so do the chains (`Chain.alike_getToken`): they ask the same
sources, select the same one, rule out the same ones for the same reasons, and keep the same of
their scans. What a chain remembers never depends on what is secret, so it is the same on both
sides, and only what the sources work on needs to be alike (`Shared.Alike`). -/

namespace TokenChain

open List (Forall₂)
open TokenChain.Task

variable {ρ α : Type} {R : ρ → ρ → Prop} {A : α → α → Prop}

theorem forall₂_getElem? {β γ : Type} {Q : β → γ → Prop} {l : List β} {m : List γ}
    (h : Forall₂ Q l m) (i : Nat) : Option.Rel Q l[i]? m[i]? := by
  induction h generalizing i with
  | nil => exact .none
  | cons first _ ih =>
    cases i with
    | zero => exact .some first
    | succ i => exact ih i

/-! ### What chains share -/

/-- Two chains that remember the same, beside states of sources that are alike. -/
structure Shared.Alike (R : ρ → ρ → Prop) (s s' : Shared ρ) : Prop where
  chain : s.chain = s'.chain
  sources : R s.sources s'.sources

theorem Shared.Alike.onChain {s s' : Shared ρ} (h : s.Alike R s') (f : ChainState → ChainState) :
    (s.onChain f).Alike R (s'.onChain f) := ⟨congrArg f h.chain, h.sources⟩

theorem Shared.alike_lift {t t' : Task ρ α} (h : t.Alike R A t') :
    (lift t).Alike (Shared.Alike R) A (lift t') :=
  h.zoom (fun shared => shared.sources) fun sources shared => { shared with sources }

namespace Chain

variable {l l' : List (Source ρ)} {c c' : Chain ρ}

/-! ### Calls -/

/-- **Scans find the same.** -/
theorem alike_scanFrom (r : Request) (h : Forall₂ (Source.Alike R) l l') (i : Nat) (f : Findings) :
    (scanFrom r l i f).Alike (Shared.Alike R) AnswerAlike (scanFrom r l' i f) := by
  induction h generalizing i f with
  | nil => exact .step (fun shared => shared.onChain _) fun _ => .done (.error _)
  | cons first _ ih =>
    refine .step (fun shared => shared) fun shared => ?_
    rw [shared.chain, first.name]
    split
    · exact .note (ih ..)
    · refine (Shared.alike_lift (first.getToken r)).bind fun answers => ?_
      cases answers with
      | error e => exact .step (fun shared => shared.onChain _) fun _ => ih ..
      | ok alike =>
        -- of a token the scan keeps nothing but its expiry
        dsimp only [Findings.succeed]
        rw [alike.expiresAt]
        exact .step (fun shared => shared.onChain _) fun _ => .done (.ok alike)

theorem alike_ask (r : Request) (h : Forall₂ (Source.Alike R) c.sources c'.sources) (i : Nat) :
    (c.ask r i).Alike (Shared.Alike R) AnswerAlike (c'.ask r i) := by
  have sources := forall₂_getElem? h i
  rw [ask, ask]
  generalize c.sources[i]? = x at sources
  generalize c'.sources[i]? = x' at sources
  cases sources with
  | none => exact .crash
  | some alike => exact Shared.alike_lift (alike.getToken r)

theorem alike_waitTurn (r : Request) :
    (waitTurn r : Task (Shared ρ) _).Alike (Shared.Alike R) (ResultAlike Eq) (waitTurn r) := by
  refine Alike.within (.step (fun shared => shared.onChain _) fun shared => ?_) ..
  rw [shared.chain]
  refine .wait ⟨fun shared => ?_, rfl, rfl, rfl, fun shared => shared.onChain _⟩
    fun _ => .done (.ok rfl)
  dsimp only
  rw [shared.chain]

theorem alike_leaveWith (ticket : Nat) {t t' : Task (Shared ρ) α}
    (h : t.Alike (Shared.Alike R) A t') :
    (leaveWith ticket t).Alike (Shared.Alike R) A (leaveWith ticket t') :=
  .step (fun shared => shared.onChain _) fun _ => h

theorem alike_takeTurn (r : Request)
    (h : Forall₂ (Source.Alike R) c.sources c'.sources) (ticket : Nat) :
    (c.takeTurn r ticket).Alike (Shared.Alike R) AnswerAlike (c'.takeTurn r ticket) := by
  refine .step (fun shared => shared) fun shared => ?_
  rw [shared.chain]
  split
  · exact alike_leaveWith ticket (alike_ask r h _)
  · exact ((alike_scanFrom r h 0 .empty).onLoss fun shared => shared.onChain _).bind fun answers =>
      alike_leaveWith ticket (.done answers)

/-- **Chains of sources that do alike** do alike. -/
theorem alike_getToken (r : Request) (h : Forall₂ (Source.Alike R) c.sources c'.sources) :
    (c.getToken r).Alike (Shared.Alike R) AnswerAlike (c'.getToken r) := by
  refine .step (fun shared => shared) fun shared => ?_
  rw [shared.chain]
  split
  · exact alike_ask r h _
  · refine (alike_waitTurn r).bind fun turns => ?_
    cases turns with
    | error e => exact .done (.error e)
    | ok same =>
      cases same
      exact alike_takeTurn r h _

/-! ### What else a chain can be asked -/

theorem alike_reset (h : Forall₂ (Source.Alike R) c.sources c'.sources) :
    c.reset.Alike (Shared.Alike R) Eq c'.reset := by
  refine .step (fun shared => shared.onChain _) fun {s s'} shared => ?_
  have sources : Option.Rel (Source.Alike R) (s.chain.selected.bind fun i => c.sources[i]?)
      (s'.chain.selected.bind fun i => c'.sources[i]?) := by
    rw [shared.chain]
    cases s'.chain.selected with
    | none => exact .none
    | some i => exact forall₂_getElem? h i
  generalize (s.chain.selected.bind fun i => c.sources[i]?) = x at sources
  generalize (s'.chain.selected.bind fun i => c'.sources[i]?) = x' at sources
  cases sources with
  | none => exact .done rfl
  | some alike =>
    dsimp only
    rw [alike.name]
    exact .note (.done rfl)

theorem describeSources_eq (h : Forall₂ (Source.Alike R) l l') (n : Nat) :
    ((l.zipIdx n).map fun (s, i) => describeSource i s) =
      (l'.zipIdx n).map fun (s, i) => describeSource i s := by
  induction h generalizing n with
  | nil => rfl
  | cons first _ ih =>
    rw [List.zipIdx_cons, List.zipIdx_cons, List.map_cons, List.map_cons, ih]
    dsimp only [describeSource]
    rw [first.name, first.kind]

theorem description_eq (h : Forall₂ (Source.Alike R) c.sources c'.sources) (selected : Option Nat) :
    c.description selected = c'.description selected := by
  have same := describeSources_eq h 0
  obtain ⟨l⟩ := c
  obtain ⟨l'⟩ := c'
  dsimp only [description]
  rw [same]

end Chain

end TokenChain
