import TokenChain.Proofs.Probe.Asking
import TokenChain.Proofs.Task.Crowd

/-! # Visitors of a gate

Any number of visitors ask at one gate, in any order of their steps; each may be dropped where it
waits. One that was granted an admission holds it until it reports the outcome of the probe or lets
go of the admission (`Gatehouse.Step`). `Gatehouse.Secure` says what holds in every state that is
reached: the probe is granted to one visitor at most, the gate is in flight exactly as long as this
visitor holds it, and nobody waits for ever. -/

namespace TokenChain

/-- What happens at a gate when an admission is dropped: a probe of which nothing was reported has
failed. -/
def Admission.release : Admission → ProbeState → ProbeState
  | .probe => .settle .abandoned
  | .opened | .closed _ => id

namespace ProbeState

open TokenChain.Task

/-- What a visitor asks with. -/
structure Visit where
  request : Request
  credential : String

/-- Somebody who asks at a gate, among others. -/
abbrev Visitor := Caller Visit ProbeState (Except Error Admission)

/-- What a visitor does. -/
def visit (v : Visit) : Task ProbeState (Except Error Admission) := consult v.request v.credential

/-- The world changes around the gate. -/
def Still (w w' : World ProbeState) : Prop := w'.state = w.state

/-! ### How a visitor stands -/

/-- The steps of a visitor have changed nothing. -/
def Idle (h : History ProbeState) : Prop := ∀ p ∈ h, p.2.state = p.1.state

theorem Idle.snoc {h : History ProbeState} {w w' : World ProbeState} (hi : Idle h)
    (same : w'.state = w.state) : Idle (h ++ [(w, w')]) := fun p hp => by
  rcases List.mem_append.mp hp with hp | hp
  · exact hi p hp
  · rw [List.mem_singleton.mp hp]
    exact same

/-- **How a visitor stands**, by the state of the gate. -/
inductive Standing (g : ProbeState) (x : Visitor) : Prop
  /-- It has no answer yet. -/
  | asking (asks : Asks x.order.request x.order.credential g x.rest) (idle : Idle x.history)
  /-- It was granted the probe. -/
  | probe (tested : g ≠ untested) (rest : x.rest = .done (.ok .probe))
  /-- It learned the outcome of the probe. -/
  | admitted (settled : g.isSettled = true) (rest : x.rest = .done (.ok g.admission))
      (last : ∃ h w w', x.history = h ++ [(w, w')] ∧ w.state = g)
  /-- It gave up. -/
  | gaveUp (idle : Idle x.history)
      (rest : ∃ m, x.rest = .done (.error (.timeout x.order.credential m)))

variable {g g' : ProbeState} {x y : Visitor} {w w' : World ProbeState}
  {t : Task ProbeState (Except Error Admission)}

theorem Standing.onward (h : Standing g x) (on : Onward g g') : Standing g' x := by
  cases h with
  | asking asks idle => exact .asking (asks.onward on) idle
  | probe tested rest => exact .probe (on.ne_untested tested) rest
  | admitted settled rest last =>
    rw [on.eq_of_isSettled settled]
    exact .admitted settled rest last
  | gaveUp idle rest => exact .gaveUp idle rest

theorem Standing.tested (h : Standing g x) (rest : x.rest = .done (.ok .probe)) : g ≠ untested := by
  cases h with
  | asking asks idle => exact absurd rest (asks.ne_done _)
  | probe tested _ => exact tested
  | admitted settled _ _ => exact isSettled.ne_untested settled
  | gaveUp _ rest' =>
    obtain ⟨m, rest'⟩ := rest'
    rw [rest'] at rest
    cases rest

theorem Standing.of_ok {a : Admission} (h : Standing g x) (rest : x.rest = .done (.ok a))
    (hne : a ≠ .probe) :
    g.isSettled = true ∧ g.admission = a ∧ ∃ h w w', x.history = h ++ [(w, w')] ∧ w.state = g := by
  cases h with
  | asking asks idle => exact absurd rest (asks.ne_done _)
  | probe _ rest' =>
    rw [rest'] at rest
    cases rest
    exact absurd rfl hne
  | admitted settled rest' last =>
    rw [rest'] at rest
    exact ⟨settled, Except.ok.inj (Task.done.inj rest), last⟩
  | gaveUp _ rest' =>
    obtain ⟨m, rest'⟩ := rest'
    rw [rest'] at rest
    cases rest

theorem Standing.of_error {e : Error} (h : Standing g x) (rest : x.rest = .done (.error e)) :
    Idle x.history ∧ e.isTimeout = true := by
  cases h with
  | asking asks idle => exact absurd rest (asks.ne_done _)
  | probe _ rest' =>
    rw [rest'] at rest
    cases rest
  | admitted _ rest' _ =>
    rw [rest'] at rest
    cases rest
  | gaveUp idle rest' =>
    obtain ⟨m, rest'⟩ := rest'
    rw [rest'] at rest
    cases rest
    exact ⟨idle, rfl⟩

theorem Standing.run (h : Standing g x) (settled : g.isSettled = true) (hw : w.state = g) :
    ∃ y, x.rest.run w = (w, .done y) := by
  cases h with
  | asking asks idle => exact asks.run (by rw [hw]; exact settled)
  | probe _ rest => exact ⟨_, by rw [rest]; rfl⟩
  | admitted _ rest _ => exact ⟨_, by rw [rest]; rfl⟩
  | gaveUp _ rest =>
    obtain ⟨m, rest⟩ := rest
    exact ⟨_, by rw [rest]; rfl⟩

/-- **A visitor that takes a step** claims the probe, or changes nothing. -/
theorem Standing.next (h : Standing w.state x) (next : x.rest.next? w = some (w', t)) :
    (w.state = untested ∧ w'.state = inFlight ∧ t = .done (.ok .probe)) ∨
      (w'.state = w.state ∧ t ≠ .done (.ok .probe) ∧ Standing w.state (x.after w w' t)) := by
  cases h with
  | asking asks idle =>
    rcases asks.next next with claims | ⟨same, later⟩
    · exact .inl claims
    · refine .inr ⟨same, ?_⟩
      rcases later with asks' | ⟨settled⟩ | ⟨m⟩
      · exact ⟨asks'.ne_done _, .asking asks' (idle.snoc same)⟩
      · refine ⟨fun he => ?_, .admitted settled rfl ⟨x.history, w, w', rfl, rfl⟩⟩
        exact admission_ne_probe _ (Except.ok.inj (Task.done.inj he))
      · exact ⟨nofun, .gaveUp (idle.snoc same) ⟨m, rfl⟩⟩
  | probe tested rest =>
    rw [rest] at next
    cases next
  | admitted settled rest last =>
    rw [rest] at next
    cases next
  | gaveUp idle rest =>
    obtain ⟨m, rest⟩ := rest
    rw [rest] at next
    cases next

theorem Standing.onward_next (h : Standing w.state x) (next : x.rest.next? w = some (w', t)) :
    Onward w.state w'.state := by
  rcases h.next next with ⟨before, after, -⟩ | ⟨same, -⟩
  · rw [before, after]
    exact .claim
  · rw [same]
    exact .stay _

theorem Standing.drop (h : Standing g x) (dropped : x.rest.drop? w = some w') :
    w'.state = w.state ∧ Idle x.history := by
  cases h with
  | asking asks idle => exact ⟨asks.drop dropped, idle⟩
  | probe tested rest =>
    rw [rest] at dropped
    cases dropped
  | admitted settled rest last =>
    rw [rest] at dropped
    cases dropped
  | gaveUp idle rest =>
    obtain ⟨m, rest⟩ := rest
    rw [rest] at dropped
    cases dropped

/-- The pact of the visitors: only one of them is granted the probe. -/
def visitPact : Pact Visit ProbeState (Except Error Admission) where
  world _ := True
  caller w x := Standing w.state x
  apart x y := ¬ (x.rest = .done (.ok .probe) ∧ y.rest = .done (.ok .probe))

theorem visitPact_kept : visitPact.Kept visit Still where
  symm h := fun ⟨hx, hy⟩ => h ⟨hy, hx⟩
  calls _ _ := .asking .arriving nofun
  callsApart _ := fun _ ⟨h, _⟩ => nomatch h
  goes {w w' x t} _ hx next := by
    refine ⟨trivial, ?_⟩
    show Standing w'.state _
    rcases Standing.next hx next with ⟨-, after, rfl⟩ | ⟨same, -, later⟩
    · exact .probe (by rw [after]; exact nofun) rfl
    · rw [same]
      exact later
  besideGo {w w' x y t} _ hx hy apart next := by
    refine ⟨Standing.onward hy (Standing.onward_next hx next), fun ⟨ht, hp⟩ => ?_⟩
    rcases Standing.next hx next with ⟨before, -⟩ | ⟨-, hne, -⟩
    · exact Standing.tested hy hp before
    · exact hne ht
  drops _ _ _ := trivial
  besideDrop {w w' x y} _ hx hy _ dropped := by
    show Standing w'.state y
    rw [(Standing.drop hx dropped).1]
    exact hy
  around _ _ := trivial
  besideAround {w w' x} _ hx h := by
    show Standing w'.state x
    rw [show w'.state = w.state from h]
    exact hx

end ProbeState

open ProbeState

/-! ### The gatehouse -/

/-- The visitors of a gate, and who no longer holds what it was granted. -/
structure Gatehouse where
  crowd : Crowd Visit ProbeState (Except Error Admission)
  spent : Nat → Bool

namespace Gatehouse

/-- The gate before anybody has asked. -/
def opening (w : World ProbeState) : Gatehouse := ⟨.empty w, fun _ => false⟩

/-- The state of the gate. -/
def gate (s : Gatehouse) : ProbeState := s.crowd.world.state

/-- A visitor was granted an admission. -/
def Granted (s : Gatehouse) (id : Nat) (a : Admission) : Prop :=
  ∃ x, s.crowd.callers id = some x ∧ x.rest = .done (.ok a)

/-- A visitor gives up what it was granted, and the gate moves. -/
def spend (s : Gatehouse) (id : Nat) (f : ProbeState → ProbeState) : Gatehouse where
  crowd := { s.crowd with world := { s.crowd.world with state := f s.crowd.world.state } }
  spent := Function.update s.spent id true

/-- What happens at a gate. -/
inductive Move where
  | ask (m : Crowd.Move Visit)
  | succeed (id : Nat)
  | fail (id : Nat) (reason : String)
  /-- An admission is dropped. -/
  | release (id : Nat)

/-- **One move**: a visitor asks on, a probe is reported by the visitor that holds it, or an
admission is dropped. Nothing is reported or dropped twice. -/
inductive Step : Move → Gatehouse → Gatehouse → Prop
  | ask {s : Gatehouse} {m : Crowd.Move Visit}
      {crowd : Crowd Visit ProbeState (Except Error Admission)}
      (step : Crowd.Step visit Still m s.crowd crowd) : Step (.ask m) s { s with crowd }
  | succeed {s : Gatehouse} {id : Nat} (granted : s.Granted id .probe) (held : s.spent id = false) :
      Step (.succeed id) s (s.spend id (settle succeeded))
  | fail {s : Gatehouse} {id : Nat} {reason : String} (granted : s.Granted id .probe)
      (held : s.spent id = false) : Step (.fail id reason) s (s.spend id (settle (failed reason)))
  | release {s : Gatehouse} {id : Nat} {a : Admission} (granted : s.Granted id a)
      (held : s.spent id = false) : Step (.release id) s (s.spend id a.release)

/-- A gatehouse gets from one state to another by moves. -/
abbrev Reaches : Gatehouse → Gatehouse → Prop :=
  Relation.ReflTransGen fun s s' => ∃ m, Step m s s'

/-- **What is always so**, besides the pact of the visitors: the probe is granted as soon as the
gate is not untested any more, and the gate is in flight exactly as long as the visitor with the
probe holds it. -/
structure Kept (s : Gatehouse) : Prop where
  pact : visitPact.Holds s.crowd
  found : s.gate ≠ untested → ∃ id, s.Granted id .probe
  flying : s.gate = inFlight → ∃ id, s.Granted id .probe ∧ s.spent id = false
  alive : ∀ {id : Nat}, s.Granted id .probe → s.spent id = false → s.gate = inFlight
  spenders : ∀ {id : Nat}, s.spent id = true → ∃ a, s.Granted id a

variable {s s' : Gatehouse} {i j : Nat} {a b : Admission}

theorem spent_spend_self (f : ProbeState → ProbeState) : (s.spend i f).spent i = true :=
  Function.update_self ..

theorem spent_spend_of_ne (h : j ≠ i) (f : ProbeState → ProbeState) :
    (s.spend i f).spent j = s.spent j :=
  Function.update_of_ne h ..

theorem Granted.unique (ha : s.Granted i a) (hb : s.Granted i b) : a = b := by
  obtain ⟨x, hx, rx⟩ := ha
  obtain ⟨y, hy, ry⟩ := hb
  rw [hx] at hy
  cases hy
  rw [rx] at ry
  exact Except.ok.inj (Task.done.inj ry)

theorem Kept.one (h : Kept s) (hi : s.Granted i .probe) (hj : s.Granted j .probe) : i = j := by
  obtain ⟨x, hx, rx⟩ := hi
  obtain ⟨y, hy, ry⟩ := hj
  by_contra hne
  exact h.pact.apart hx hy hne ⟨rx, ry⟩

theorem Kept.tested (h : Kept s) (hi : s.Granted i .probe) : s.gate ≠ untested := by
  obtain ⟨x, hx, rx⟩ := hi
  exact Standing.tested (h.pact.caller hx) rx

theorem kept_opening {w : World ProbeState} (h : w.state = untested) : Kept (opening w) where
  pact := Pact.holds_empty trivial
  found hne := absurd h hne
  flying hf := by
    rw [show (opening w).gate = untested from h] at hf
    cases hf
  alive := fun ⟨_, hx, _⟩ => nomatch hx
  spenders := nofun

/-- What visitors do that ask on: one claims the probe, or the gate stays and the probe is granted
to nobody else. -/
theorem of_ask {m : Crowd.Move Visit}
    {crowd : Crowd Visit ProbeState (Except Error Admission)} (h : Kept s)
    (step : Crowd.Step visit Still m s.crowd crowd) :
    (s.gate = untested ∧ crowd.world.state = inFlight ∧
      ∃ id, Granted { s with crowd } id .probe ∧ ∀ a, ¬ s.Granted id a) ∨
    (crowd.world.state = s.gate ∧ ∀ id, Granted { s with crowd } id .probe →
      s.Granted id .probe) := by
  cases step with
  | @call _ i v free =>
    refine .inr ⟨rfl, fun id ⟨x, hx, rx⟩ => ?_⟩
    rcases Crowd.callers_put.mp hx with ⟨-, he⟩ | ⟨-, hx⟩
    · cases he
      cases rx
    · exact ⟨x, hx, rx⟩
  | @go _ i y w t here next =>
    rcases Standing.next (h.pact.caller here) next with ⟨before, after, rfl⟩ | ⟨same, hne, -⟩
    · refine .inl ⟨before, after, i, ⟨_, Crowd.callers_put.mpr (.inl ⟨rfl, rfl⟩), rfl⟩, ?_⟩
      rintro a ⟨x, hx, rx⟩
      rw [here] at hx
      cases hx
      rw [rx] at next
      cases next
    · refine .inr ⟨same, fun id ⟨x, hx, rx⟩ => ?_⟩
      rcases Crowd.callers_put.mp hx with ⟨-, he⟩ | ⟨-, hx⟩
      · cases he
        exact absurd rx hne
      · exact ⟨x, hx, rx⟩
  | @drop _ i y w here dropped =>
    refine .inr ⟨(Standing.drop (h.pact.caller here) dropped).1, fun id ⟨x, hx, rx⟩ => ?_⟩
    rcases Crowd.callers_put.mp hx with ⟨-, he⟩ | ⟨-, hx⟩
    · cases he
    · exact ⟨x, hx, rx⟩
  | around same => exact .inr ⟨same, fun id hg => hg⟩

theorem Kept.ask {m : Crowd.Move Visit}
    {crowd : Crowd Visit ProbeState (Except Error Admission)} (h : Kept s)
    (step : Crowd.Step visit Still m s.crowd crowd) : Kept { s with crowd } := by
  have stays : ∀ {id a}, s.Granted id a → Granted { s with crowd } id a := fun ⟨x, hx, rx⟩ =>
    ⟨x, Crowd.callers_of_step step hx rx, rx⟩
  have spenders : ∀ {id}, s.spent id = true → ∃ a, Granted { s with crowd } id a := fun hs => by
    obtain ⟨a, ha⟩ := h.spenders hs
    exact ⟨a, stays ha⟩
  rcases of_ask h step with ⟨before, after, id, granted, fresh⟩ | ⟨same, old⟩
  · refine ⟨Pact.holds_of_step visitPact_kept h.pact step, fun _ => ⟨id, granted⟩,
      fun _ => ⟨id, granted, ?_⟩, fun _ _ => after, spenders⟩
    by_contra hs
    obtain ⟨a, ha⟩ := h.spenders (by simpa using hs)
    exact fresh a ha
  · refine ⟨Pact.holds_of_step visitPact_kept h.pact step, fun hne => ?_, fun hf => ?_,
      fun hg hs => ?_, spenders⟩
    · obtain ⟨id, hg⟩ := h.found (by rw [← same]; exact hne)
      exact ⟨id, stays hg⟩
    · obtain ⟨id, hg, hs⟩ := h.flying (by rw [← same]; exact hf)
      exact ⟨id, stays hg, hs⟩
    · exact same.trans (h.alive (old _ hg) hs)

/-- What a visitor gives up that it was granted is over, and everybody stands as before. -/
theorem Kept.pact_spend (h : Kept s) {f : ProbeState → ProbeState} (on : Onward s.gate (f s.gate)) :
    visitPact.Holds (s.spend i f).crowd where
  world := trivial
  caller hx := Standing.onward (h.pact.caller hx) on
  apart hx hy := h.pact.apart hx hy

theorem Kept.spenders_spend (h : Kept s) {f : ProbeState → ProbeState} (granted : s.Granted i a)
    (hs : (s.spend i f).spent j = true) : ∃ a, (s.spend i f).Granted j a := by
  rcases eq_or_ne j i with rfl | hne
  · exact ⟨a, granted⟩
  · rw [spent_spend_of_ne hne] at hs
    exact h.spenders hs

theorem Kept.settle (h : Kept s) {outcome : ProbeState} (settled : outcome.isSettled = true)
    (granted : s.Granted i .probe) (held : s.spent i = false) :
    Kept (s.spend i (settle outcome)) := by
  have flying := h.alive granted held
  have after : (s.spend i (ProbeState.settle outcome)).gate = outcome := by
    show ProbeState.settle outcome s.gate = _
    rw [flying]
    rfl
  refine ⟨h.pact_spend (onward_settle settled _), fun _ => ⟨i, granted⟩,
    fun hf => ?_, fun hg hs => ?_, fun hs => h.spenders_spend granted hs⟩
  · rw [after] at hf
    rw [hf] at settled
    cases settled
  · rw [← h.one granted hg, spent_spend_self] at hs
    cases hs

theorem Kept.forgo (h : Kept s) (granted : s.Granted i a) (hne : a ≠ .probe) :
    Kept (s.spend i a.release) := by
  have stays : a.release s.gate = s.gate := by
    cases a with
    | probe => exact absurd rfl hne
    | opened | closed => rfl
  have same : (s.spend i a.release).gate = s.gate := stays
  have others : ∀ {j : Nat}, s.Granted j .probe → j ≠ i := by
    rintro j hg rfl
    exact hne (granted.unique hg)
  refine ⟨h.pact_spend (by rw [stays]; exact .stay _), fun ht => ?_, fun hf => ?_, fun hg hs => ?_,
    fun hs => h.spenders_spend granted hs⟩
  · rw [same] at ht
    exact h.found ht
  · rw [same] at hf
    obtain ⟨j, hg, hs⟩ := h.flying hf
    exact ⟨j, hg, (spent_spend_of_ne (others hg) _).trans hs⟩
  · rw [spent_spend_of_ne (others hg)] at hs
    exact same.trans (h.alive hg hs)

theorem Kept.release (h : Kept s) (granted : s.Granted i a) (held : s.spent i = false) :
    Kept (s.spend i a.release) := by
  by_cases hp : a = .probe
  · subst hp
    exact h.settle rfl granted held
  · exact h.forgo granted hp

/-- **One move** keeps all this. -/
theorem Kept.step {m : Move} (h : Kept s) (step : Step m s s') : Kept s' := by
  cases step with
  | ask step => exact h.ask step
  | succeed granted held => exact h.settle rfl granted held
  | fail granted held => exact h.settle rfl granted held
  | release granted held => exact h.release granted held

theorem kept_of_reaches (h : Kept s) (reaches : Reaches s s') : Kept s' := by
  induction reaches with
  | refl => exact h
  | tail _ step ih =>
    obtain ⟨m, step⟩ := step
    exact ih.step step

/-! ### How the gate moves -/

theorem onward_release (a : Admission) (g : ProbeState) : Onward g (a.release g) := by
  cases a with
  | probe => exact onward_settle rfl g
  | opened | closed => exact .stay g

/-- **One move** moves the gate on, if at all. -/
theorem onward_of_step {m : Move} (h : Kept s) (step : Step m s s') : Onward s.gate s'.gate := by
  cases step with
  | @ask _ m crowd step =>
    rcases of_ask h step with ⟨before, after, -⟩ | ⟨same, -⟩
    · rw [before]
      show Onward untested crowd.world.state
      rw [after]
      exact .claim
    · show Onward s.gate crowd.world.state
      rw [same]
      exact .stay _
  | succeed granted held => exact onward_settle rfl _
  | fail granted held => exact onward_settle rfl _
  | release granted held => exact onward_release _ _

/-- **A settled gate** never moves again. -/
theorem gate_eq_of_reaches (h : Kept s) (settled : s.gate.isSettled = true)
    (reaches : Reaches s s') : s'.gate = s.gate := by
  induction reaches with
  | refl => rfl
  | tail before step ih =>
    obtain ⟨m, step⟩ := step
    rw [← ih] at settled ⊢
    exact (onward_of_step (kept_of_reaches h before) step).eq_of_isSettled settled

/-! ### In every state -/

/-- **What holds in every state** of a gatehouse. -/
structure Secure (s : Gatehouse) : Prop where
  /-- The probe is granted to one visitor at most. -/
  one : ∀ {i j : Nat}, s.Granted i .probe → s.Granted j .probe → i = j
  untested : s.gate = untested ↔ ∀ i, ¬ s.Granted i .probe
  inFlight : s.gate = inFlight ↔ ∃ i, s.Granted i .probe ∧ s.spent i = false
  /-- Who was let through was let through by an open gate. -/
  opened : ∀ {i : Nat} {x : Visitor}, s.crowd.callers i = some x → x.rest = .done (.ok .opened) →
    ∃ h w w', x.history = h ++ [(w, w')] ∧ w.state = succeeded
  /-- Who was turned away was turned away by a gate that was closed for this reason. -/
  closed : ∀ {i : Nat} {x : Visitor} {reason : String}, s.crowd.callers i = some x →
    x.rest = .done (.ok (.closed reason)) → ∃ h w w', x.history = h ++ [(w, w')] ∧
    w.state = failed reason
  /-- Who gave up changed nothing, and gave up with a timeout. -/
  gaveUp : ∀ {i : Nat} {x : Visitor} {e : Error}, s.crowd.callers i = some x →
    x.rest = .done (.error e) → Idle x.history ∧ e.isTimeout = true
  /-- Nor does a visitor change anything that is dropped now. -/
  dropped : ∀ {i : Nat} {x : Visitor} {w : World ProbeState}, s.crowd.callers i = some x →
    x.rest.drop? s.crowd.world = some w → Idle x.history ∧ w.state = s.gate
  /-- Nobody waits once the gate is settled. -/
  awake : s.gate.isSettled = true → ∀ {i : Nat} {x : Visitor}, s.crowd.callers i = some x →
    ∀ w : World ProbeState, w.state = s.gate → ∃ y, x.rest.run w = (w, .done y)

theorem Kept.secure (h : Kept s) : Secure s where
  one := h.one
  untested := by
    refine ⟨fun hu i hg => h.tested hg hu, fun none => ?_⟩
    by_contra hne
    obtain ⟨i, hg⟩ := h.found hne
    exact none i hg
  inFlight := ⟨h.flying, fun ⟨_, hg, hs⟩ => h.alive hg hs⟩
  opened {i x} hx rx := by
    obtain ⟨settled, answer, hist, w, w', hh, hw⟩ := Standing.of_ok (h.pact.caller hx) rx nofun
    exact ⟨hist, w, w', hh, hw.trans (admission_eq_opened settled answer)⟩
  closed {i x reason} hx rx := by
    obtain ⟨-, answer, hist, w, w', hh, hw⟩ := Standing.of_ok (h.pact.caller hx) rx nofun
    exact ⟨hist, w, w', hh, hw.trans (admission_eq_closed answer)⟩
  gaveUp hx rx := Standing.of_error (h.pact.caller hx) rx
  dropped {i x w} hx hd := by
    obtain ⟨same, idle⟩ := Standing.drop (h.pact.caller hx) hd
    exact ⟨idle, same⟩
  awake settled {i x} hx w hw := Standing.run (h.pact.caller hx) settled hw

/-- **Visitors at the same time**: whatever the order of their steps and of what they report, and
whoever is dropped, `Secure` holds in every state, the gate only moves on, and it never moves again
once it is settled. -/
theorem secure_of_reaches {w : World ProbeState}
    (start : w.state = ProbeState.untested) {s : Gatehouse} (reaches : Reaches (opening w) s) :
    Secure s ∧ (∀ m s', Step m s s' → Onward s.gate s'.gate) ∧
      ∀ s', Reaches s s' → s.gate.isSettled = true → s'.gate = s.gate := by
  have kept := kept_of_reaches (kept_opening start) reaches
  exact ⟨kept.secure, fun m s' step => onward_of_step kept step,
    fun s' later settled => gate_eq_of_reaches kept settled later⟩

/-- The second of two visitors waits for a probe that fails. -/
theorem secure_of_reaches_closed :
    ∃ s, Reaches (opening (.initial ⟨0⟩ (.ofCapacity 8) .untested)) s ∧
      s.gate = .failed "no route" ∧ s.Granted 1 (.closed "no route") ∧ Secure s := by
  have called : Reaches (opening (.initial ⟨0⟩ (.ofCapacity 8) .untested)) _ :=
    .tail (.single ⟨.ask (.call 0 ⟨⟨[], none, 0⟩, "probe"⟩), .ask (.call rfl)⟩)
      ⟨.ask (.call 1 ⟨⟨[], none, 0⟩, "probe"⟩), .ask (.call rfl)⟩
  have claimed := called.tail ⟨.ask (.go 0), .ask (.go rfl rfl)⟩
  have waiting :=
    (claimed.tail ⟨.ask (.go 1), .ask (.go rfl rfl)⟩).tail ⟨.ask (.go 1), .ask (.go rfl rfl)⟩
  have failed := waiting.tail ⟨.fail 0 "no route", .fail ⟨_, rfl, rfl⟩ rfl⟩
  have learned :=
    (failed.tail ⟨.ask (.go 1), .ask (.go rfl rfl)⟩).tail ⟨.ask (.go 1), .ask (.go rfl rfl)⟩
  exact ⟨_, learned, rfl, ⟨_, rfl, rfl⟩, (secure_of_reaches rfl learned).1⟩

end Gatehouse

end TokenChain
