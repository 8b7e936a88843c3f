import TokenChain.Proofs.Identity.Messages
import TokenChain.Proofs.Probe.Asking
import TokenChain.Proofs.Task.Crowd

/-! # Restraint towards the metadata service

Any number of calls of one managed identity, in any order of their steps; each may be dropped where
it waits. Until the probe has succeeded the metadata service gets one message at most, and after a
probe that has failed it gets none (`restraint_of_reaches`).

`Stage` is what holds of a call on its way: it asks at the gate, makes the probe, goes on behind an
open gate, or sends nothing. `Shift` is what its next step may do to the gate and the wire. -/

namespace TokenChain

theorem Surroundings.update_same {β : Type} (f : Nat → β) (i : Nat) : update f i (f i) = f := by
  funext j
  rw [update]
  split_ifs with h
  · rw [h]
  · rfl

theorem Surroundings.gates_setGate (i : Nat) (f : ProbeState → ProbeState) (s : Surroundings) :
    (s.setGate i f).gates i = f (s.gates i) := if_pos rfl

namespace ManagedIdentitySource

open TokenChain.Task TokenChain.Surroundings TokenChain.ProbeState

/-- The state of the source's gate. -/
def gateIn (s : ManagedIdentitySource) (st : Surroundings) : ProbeState := st.gates s.gate

/-- A call that has taken these steps claimed the probe. -/
def Claimed (s : ManagedIdentitySource) (h : History Surroundings) : Prop :=
  ∃ p ∈ h, s.gateIn p.1.state = untested ∧ s.gateIn p.2.state = inFlight

/-- What a probe does with the result of its attempt. -/
def conclude (s : ManagedIdentitySource) (result : Except Error Token) :
    Task Surroundings (Except Error Token) :=
  .step (setGate s.gate (.settle (outcome result))) fun _ => .done (probeResult result)

/-- What is left of a probe whose attempt has `u` left to do. -/
def probeWith (s : ManagedIdentitySource) (u : Task Surroundings (Except Error Token)) :
    Task Surroundings (Except Error Token) :=
  (u.onLoss (setGate s.gate (.settle .abandoned))).bind s.conclude

theorem isSettled_outcome (result : Except Error Token) : (outcome result).isSettled = true := by
  cases result with
  | ok token => rfl
  | error e =>
    rw [outcome]
    split <;> rfl

/-- **Where a call is**, by the surroundings and the steps that it has taken. -/
inductive Stage (s : ManagedIdentitySource) (r : Request) (st : Surroundings)
    (h : History Surroundings) : Task Surroundings (Except Error Token) → Prop
  /-- It has not begun. -/
  | starting : Stage s r st h (s.source.getToken r)
  /-- It asks at the gate. -/
  | asking {start : Moment} {resource : String} {t : Task ProbeState (Except Error Admission)}
      (asks : Asks r credential (s.gateIn st) t) :
      Stage s r st h (((onGate s.gate t).bind (s.proceed resource r)).bind
        (Source.tell credential start))
  /-- It makes the probe, and the probe is the only message. -/
  | probing {start : Moment} {u : Task Surroundings (Except Error Token)} {n : Nat}
      (claimed : s.Claimed h) (flying : s.gateIn st = inFlight)
      (spends : u.Spends (PostsBeside s.gate) n) (funds : st.postage + n ≤ 1) :
      Stage s r st h ((s.probeWith u).bind (Source.tell credential start))
  /-- It goes on behind an open gate. -/
  | behind {t : Task Surroundings (Except Error Token)} {n : Nat} (opened : s.gateIn st = succeeded)
      (spends : t.Spends (PostsBeside s.gate) n) : Stage s r st h t
  /-- It sends nothing. -/
  | quiet {t : Task Surroundings (Except Error Token)} (spends : t.Spends (PostsBeside s.gate) 0) :
      Stage s r st h t

/-- **What a step may do** to the gate and the wire, by the steps that the call has taken before. -/
inductive Shift (s : ManagedIdentitySource) (h : History Surroundings) (a b : Surroundings) : Prop
  | claim (before : s.gateIn a = untested) (after : s.gateIn b = inFlight)
      (mute : b.wire.sent = a.wire.sent)
  | quiet (gate : s.gateIn b = s.gateIn a) (mute : b.wire.sent = a.wire.sent)
  | probe (claimed : s.Claimed h) (flying : s.gateIn a = inFlight) (gate : s.gateIn b = s.gateIn a)
      (few : b.postage ≤ 1)
  | behind (opened : s.gateIn a = succeeded) (gate : s.gateIn b = s.gateIn a)
  | settle (claimed : s.Claimed h) (before : s.gateIn a = inFlight)
      (after : (s.gateIn b).isSettled = true) (mute : b.wire.sent = a.wire.sent)

variable {s : ManagedIdentitySource} {r : Request} {a b : Surroundings}
  {h h' : History Surroundings}
  {t u : Task Surroundings (Except Error Token)} {w w' : World Surroundings}

theorem Shift.onward (shift : Shift s h a b) : Onward (s.gateIn a) (s.gateIn b) := by
  cases shift with
  | claim before after _ =>
    rw [before, after]
    exact .claim
  | quiet gate _ =>
    rw [gate]
    exact .stay _
  | probe _ _ gate _ =>
    rw [gate]
    exact .stay _
  | behind _ gate =>
    rw [gate]
    exact .stay _
  | settle _ before after _ =>
    rw [before]
    exact .settle after

/-- Before the probe nothing is sent, and until it has succeeded one message at most. -/
structure Modest (s : ManagedIdentitySource) (st : Surroundings) : Prop where
  none : s.gateIn st = untested → st.postage = 0
  one : s.gateIn st ≠ succeeded → st.postage ≤ 1

theorem postage_eq (mute : b.wire.sent = a.wire.sent) : b.postage = a.postage :=
  congrArg List.length mute

theorem Modest.shift (hm : Modest s a) (shift : Shift s h a b) : Modest s b := by
  cases shift with
  | claim before after mute =>
    refine ⟨fun hu => ?_, fun _ => ?_⟩
    · rw [after] at hu
      cases hu
    · rw [postage_eq mute, hm.none before]
      exact Nat.zero_le 1
  | quiet gate mute =>
    refine ⟨fun hu => ?_, fun hs => ?_⟩
    · rw [postage_eq mute]
      exact hm.none (by rw [← gate, hu])
    · rw [postage_eq mute]
      exact hm.one (by rw [← gate]; exact hs)
  | probe _ flying gate few =>
    refine ⟨fun hu => ?_, fun _ => few⟩
    rw [gate, flying] at hu
    cases hu
  | behind opened gate =>
    refine ⟨fun hu => ?_, fun hs => absurd (gate.trans opened) hs⟩
    rw [gate, opened] at hu
    cases hu
  | settle _ before after mute =>
    refine ⟨fun hu => ?_, fun _ => ?_⟩
    · rw [hu] at after
      cases after
    · rw [postage_eq mute]
      exact hm.one (by rw [before]; exact nofun)

/-- **A step of another call** leaves a call where it is. -/
theorem Stage.beside (stage : Stage s r a h t) (shift : Shift s h' a b)
    (apart : ¬ (s.Claimed h' ∧ s.Claimed h)) : Stage s r b h t := by
  cases stage with
  | starting => exact .starting
  | asking asks => exact .asking (asks.onward shift.onward)
  | probing claimed flying spends funds =>
    cases shift with
    | claim before _ _ =>
      rw [flying] at before
      cases before
    | quiet gate mute =>
      exact .probing claimed (gate.trans flying) spends (by rw [postage_eq mute]; exact funds)
    | probe claimed' _ _ _ => exact absurd ⟨claimed', claimed⟩ apart
    | behind opened _ =>
      rw [flying] at opened
      cases opened
    | settle claimed' _ _ _ => exact absurd ⟨claimed', claimed⟩ apart
  | behind opened spends =>
    exact .behind ((shift.onward.eq_of_isSettled (by rw [opened]; rfl)).trans opened) spends
  | quiet spends => exact .quiet spends

/-! ### The steps of a call -/

theorem bind_ne_done {σ α β : Type} {t : Task σ α} {g : α → Task σ β}
    (h : ∀ a, t ≠ .done a) (b : β) : t.bind g ≠ .done b := by
  cases t with
  | done a => exact absurd rfl (h a)
  | crash | look | note | step | wait => exact nofun

theorem onGate_ne_done {α : Type} {i : Nat} {t : Task ProbeState α} (h : ∀ a, t ≠ .done a) (a : α) :
    onGate i t ≠ .done a := by
  cases t with
  | done a => exact absurd rfl (h a)
  | crash | look | note | step | wait => exact nofun

theorem probeWith_ne_done (u : Task Surroundings (Except Error Token)) (x : Except Error Token) :
    s.probeWith u ≠ .done x := by
  cases u <;> exact nofun

theorem next?_onGate {α : Type} {i : Nat} {t : Task ProbeState α} {u : Task Surroundings α}
    (h : (onGate i t).next? w = some (w', u)) :
    ∃ v t', t.next? (w.focus fun st => st.gates i) = some (v, t') ∧ u = onGate i t' ∧
      w'.state.gates i = v.state ∧ w'.state.wire = w.state.wire := by
  obtain ⟨v, t', hn, rfl, rfl⟩ := next?_zoom (fun st => by rw [update_same]) h
  exact ⟨v, t', hn, rfl, if_pos rfl, rfl⟩

theorem drop?_onGate {α : Type} {i : Nat} {t : Task ProbeState α}
    (h : (onGate i t).drop? w = some w') :
    ∃ v, t.drop? (w.focus fun st => st.gates i) = some v ∧ w'.state.gates i = v.state ∧
      w'.state.wire = w.state.wire := by
  obtain ⟨v, hd, rfl⟩ := drop?_zoom h
  exact ⟨v, hd, if_pos rfl, rfl⟩

theorem Claimed.snoc (hc : s.Claimed h) (p : World Surroundings × World Surroundings) :
    s.Claimed (h ++ [p]) := by
  obtain ⟨q, hq, hs⟩ := hc
  exact ⟨q, List.mem_append_left _ hq, hs⟩

theorem not_claimed_nil : ¬ s.Claimed [] := fun ⟨_, hp, _⟩ => nomatch hp

theorem of_claimed_snoc (hc : s.Claimed (h ++ [(w, w')])) :
    s.Claimed h ∨ (s.gateIn w.state = untested ∧ s.gateIn w'.state = inFlight) := by
  obtain ⟨q, hq, hs⟩ := hc
  rcases List.mem_append.mp hq with hq | hq
  · exact .inl ⟨q, hq, hs⟩
  · rw [List.mem_singleton.mp hq] at hs
    exact .inr hs

/-- **The next step of a call that asks** at the gate claims the probe, or leaves the gate as it is:
the call asks on, goes on behind an open gate, or has nothing left but to tell what has come of
it. -/
theorem next?_asking {start : Moment} {resource : String}
    {t : Task ProbeState (Except Error Admission)} (asks : Asks r credential (s.gateIn w.state) t)
    (next : (((onGate s.gate t).bind (s.proceed resource r)).bind
      (Source.tell credential start)).next? w = some (w', u)) :
    w'.state.wire = w.state.wire ∧
      ((s.gateIn w.state = untested ∧ s.gateIn w'.state = inFlight ∧
          u = (s.probe resource r).bind (Source.tell credential start)) ∨
        s.gateIn w'.state = s.gateIn w.state ∧
          ((∃ t', Asks r credential (s.gateIn w.state) t' ∧
              u = ((onGate s.gate t').bind (s.proceed resource r)).bind
                (Source.tell credential start)) ∨
            (s.gateIn w.state = succeeded ∧
              u = (s.askWith (s.retry.behind .opened) resource r).bind
                (Source.tell credential start)) ∨
            ∃ x, u = Source.tell credential start x)) := by
  have ne := onGate_ne_done (i := s.gate) asks.ne_done
  obtain ⟨u₁, h₁, rfl⟩ := next?_bind_of_ne (bind_ne_done ne) next
  obtain ⟨u₂, h₂, rfl⟩ := next?_bind_of_ne ne h₁
  obtain ⟨v, t', ht, rfl, gate, wire⟩ := next?_onGate h₂
  refine ⟨wire, ?_⟩
  rcases asks.next (w := w.focus fun st => st.gates s.gate) ht with
    ⟨before, after, rfl⟩ | ⟨same, later⟩
  · exact .inl ⟨before, gate.trans after, rfl⟩
  · refine .inr ⟨gate.trans same, ?_⟩
    rcases later with asks' | ⟨settled⟩ | ⟨m⟩
    · exact .inl ⟨t', asks', rfl⟩
    · have seen : (w.focus fun st => st.gates s.gate).state = s.gateIn w.state := rfl
      rw [seen] at settled ⊢
      rcases of_isSettled settled with opened | ⟨reason, failed⟩
      · rw [opened]
        exact .inr (.inl ⟨rfl, rfl⟩)
      · rw [failed]
        exact .inr (.inr ⟨_, rfl⟩)
    · exact .inr (.inr ⟨_, rfl⟩)

theorem next_asking {start : Moment} {resource : String}
    {t : Task ProbeState (Except Error Admission)} (modest : Modest s w.state)
    (asks : Asks r credential (s.gateIn w.state) t)
    (next : (((onGate s.gate t).bind (s.proceed resource r)).bind
      (Source.tell credential start)).next? w = some (w', u)) :
    Stage s r w'.state (h ++ [(w, w')]) u ∧ Shift s h w.state w'.state := by
  obtain ⟨wire, after⟩ := next?_asking asks next
  have mute : w'.state.wire.sent = w.state.wire.sent := by rw [wire]
  rcases after with ⟨before, flying, rfl⟩ | ⟨gate, ⟨t', asks', rfl⟩ | ⟨opened, rfl⟩ | ⟨x, rfl⟩⟩
  · -- The probe is claimed, and nothing has been sent before.
    have claimed : s.Claimed (h ++ [(w, w')]) :=
      ⟨(w, w'), List.mem_append_right _ (List.mem_singleton.mpr rfl), before, flying⟩
    have funds : w'.state.postage + 1 ≤ 1 := by
      have unsent := modest.none before
      have same := postage_eq mute
      omega
    exact ⟨.probing claimed flying (s.spends_probing resource r) funds, .claim before flying mute⟩
  · exact ⟨.asking (by rw [gate]; exact asks'), .quiet gate mute⟩
  · exact ⟨.behind (gate.trans opened)
      ((s.spends_askWith _ resource r).bind_free fun x => Source.spends_tell _ _ x 0),
      .quiet gate mute⟩
  · exact ⟨.quiet (Source.spends_tell _ _ _ 0), .quiet gate mute⟩

/-- **The next step of a call that makes the probe** is one of its attempt, or the outcome of the
attempt is reported at the gate. -/
theorem next?_probeWith {start : Moment} {u₀ : Task Surroundings (Except Error Token)}
    (next : ((s.probeWith u₀).bind (Source.tell credential start)).next? w = some (w', u)) :
    (∃ result, u₀ = .done result ∧ w' =
      { w with state := w.state.setGate s.gate (.settle (outcome result)) } ∧
        u = Source.tell credential start (probeResult result)) ∨
      (u₀ = .crash ∧ w' = { w with state := w.state.setGate s.gate (.settle .abandoned) } ∧
        u = .crash) ∨
      ∃ u₁, u₀.next? w = some (w', u₁) ∧
      u = (s.probeWith u₁).bind (Source.tell credential start) := by
  obtain ⟨u₁, h₁, rfl⟩ := next?_bind_of_ne (probeWith_ne_done u₀) next
  rcases next?_bind h₁ with ⟨result, hr, hc⟩ | ⟨u₂, h₂, rfl⟩
  · cases hc
    cases u₀ with
    | done x =>
      cases hr
      exact .inl ⟨_, rfl, rfl, rfl⟩
    | crash | look | note | step | wait => cases hr
  · rcases next?_onLoss h₂ with ⟨rfl, rfl, rfl⟩ | ⟨u₃, h₃, rfl⟩
    · exact .inr (.inl ⟨rfl, rfl, rfl⟩)
    · exact .inr (.inr ⟨u₃, h₃, rfl⟩)

theorem drop?_probeWith {start : Moment} {u₀ : Task Surroundings (Except Error Token)}
    (dropped : ((s.probeWith u₀).bind (Source.tell credential start)).drop? w = some w') :
    ∃ w₁, u₀.drop? w = some w₁ ∧
      w' = { w₁ with state := w₁.state.setGate s.gate (.settle .abandoned) } := by
  rcases drop?_bind (drop?_bind_of_ne (probeWith_ne_done _) dropped) with ⟨x, -, hc⟩ | d
  · cases hc
  · exact drop?_onLoss d

theorem next_probing {start : Moment} {u₀ : Task Surroundings (Except Error Token)} {n : Nat}
    (claimed : s.Claimed h) (flying : s.gateIn w.state = inFlight)
    (spends : u₀.Spends (PostsBeside s.gate) n) (funds : w.state.postage + n ≤ 1)
    (next : ((s.probeWith u₀).bind (Source.tell credential start)).next? w = some (w', u)) :
    Stage s r w'.state (h ++ [(w, w')]) u ∧ Shift s h w.state w'.state := by
  have settles : ∀ {outcome : ProbeState}, outcome.isSettled = true →
      (s.gateIn (w.state.setGate s.gate (.settle outcome))).isSettled = true := fun settled => by
    rw [gateIn, gates_setGate, show w.state.gates s.gate = inFlight from flying]
    exact settled
  rcases next?_probeWith next with ⟨result, rfl, rfl, rfl⟩ | ⟨rfl, rfl, rfl⟩ | ⟨u₁, h₁, rfl⟩
  · exact ⟨.quiet (Source.spends_tell _ _ _ 0),
      .settle claimed flying (settles (isSettled_outcome result)) rfl⟩
  · exact ⟨.quiet trivial, .settle claimed flying (settles rfl) rfl⟩
  · obtain ⟨m, hm, ⟨gate, posts⟩, spends'⟩ := spends.next (postsBeside_free s.gate) h₁
    have sum := posts.charge
    have flying' : s.gateIn w'.state = inFlight := Eq.trans gate flying
    exact ⟨.probing (claimed.snoc _) flying' spends' (by omega),
      .probe claimed flying gate (by omega)⟩

/-- **A call takes a step**: it comes to another stage, and what it does to the gate and the wire is
a shift. -/
theorem Stage.next (imds : s.endpoint.isImds = true) (modest : Modest s w.state)
    (stage : Stage s r w.state h t) (next : t.next? w = some (w', u)) :
    Stage s r w'.state (h ++ [(w, w')]) u ∧ Shift s h w.state w'.state := by
  cases stage with
  | starting =>
    cases next
    refine ⟨?_, .quiet rfl rfl⟩
    show Stage s r w.state _ ((s.fetch r).bind (Source.tell credential w.toMoment))
    rw [fetch]
    split
    · exact .quiet (Source.spends_tell _ _ _ 0)
    · split
      · rw [fetchImds_eq]
        exact .asking .arriving
      next he =>
        rw [he] at imds
        cases imds
  | asking asks => exact next_asking modest asks next
  | probing claimed flying spends funds => exact next_probing claimed flying spends funds next
  | behind opened spends =>
    obtain ⟨m, hm, ⟨gate, posts⟩, spends'⟩ := spends.next (postsBeside_free s.gate) next
    exact ⟨.behind (Eq.trans gate opened) spends', .behind opened gate⟩
  | quiet spends =>
    obtain ⟨m, hm, ⟨gate, posts⟩, spends'⟩ := spends.next (postsBeside_free s.gate) next
    rw [Nat.le_zero.mp hm] at posts spends'
    exact ⟨.quiet spends', .quiet gate posts.eq⟩

/-- **A call that is dropped** does no more than a step. -/
theorem Stage.drop (stage : Stage s r w.state h t) (dropped : t.drop? w = some w') :
    Shift s h w.state w'.state := by
  cases stage with
  | starting => cases dropped
  | asking asks =>
    have ne := onGate_ne_done (i := s.gate) asks.ne_done
    have d₂ := drop?_bind_of_ne ne (drop?_bind_of_ne (bind_ne_done ne) dropped)
    obtain ⟨v, hv, gate, wire⟩ := drop?_onGate d₂
    exact .quiet (gate.trans (asks.drop hv)) (by rw [wire])
  | probing claimed flying spends funds =>
    obtain ⟨w₁, d, rfl⟩ := drop?_probeWith dropped
    obtain ⟨gate, posts⟩ := spends.drop d
    refine .settle claimed flying ?_ posts.eq
    rw [gateIn, gates_setGate, gate, show w.state.gates s.gate = inFlight from flying]
    rfl
  | behind opened spends => exact .behind opened (spends.drop dropped).1
  | quiet spends => exact .quiet (spends.drop dropped).1 (spends.drop dropped).2.eq

/-! ### Calls at the same time -/

/-- A call of the source among others. -/
abbrev Call := Caller Request Surroundings (Except Error Token)

/-- The calls of the source. -/
abbrev Calls := Crowd Request Surroundings (Except Error Token)

/-- The world changes around the source in any way, but nobody else uses its gate or sends messages
for it. -/
def Elsewhere (s : ManagedIdentitySource) (w w' : World Surroundings) : Prop :=
  s.gateIn w'.state = s.gateIn w.state ∧ w'.state.wire.sent = w.state.wire.sent

/-- The pact of the calls: only one of them claims the probe. -/
def pact (s : ManagedIdentitySource) : Pact Request Surroundings (Except Error Token) where
  world w := Modest s w.state
  caller w x :=
    (s.Claimed x.history → s.gateIn w.state ≠ untested) ∧ Stage s x.order w.state x.history x.rest
  apart x y := ¬ (s.Claimed x.history ∧ s.Claimed y.history)

theorem pact_kept (imds : s.endpoint.isImds = true) :
    s.pact.Kept s.source.getToken s.Elsewhere where
  symm ha := fun ⟨hx, hy⟩ => ha ⟨hy, hx⟩
  calls _ _ := ⟨fun claimed => absurd claimed not_claimed_nil, .starting⟩
  callsApart _ := fun _ ⟨claimed, _⟩ => not_claimed_nil claimed
  goes {w w' x t} modest hx next := by
    obtain ⟨stage, shift⟩ := hx.2.next imds modest next
    refine ⟨modest.shift shift, fun claimed => ?_, stage⟩
    rcases of_claimed_snoc claimed with old | ⟨-, after⟩
    · exact shift.onward.ne_untested (hx.1 old)
    · rw [after]
      exact nofun
  besideGo {w w' x y t} modest hx hy apart next := by
    have shift := (hx.2.next imds modest next).2
    refine ⟨⟨fun claimed => shift.onward.ne_untested (hy.1 claimed), hy.2.beside shift apart⟩, ?_⟩
    rintro ⟨claimed, claimed'⟩
    rcases of_claimed_snoc claimed with old | ⟨before, -⟩
    · exact apart ⟨old, claimed'⟩
    · exact hy.1 claimed' before
  drops modest hx dropped := modest.shift (hx.2.drop dropped)
  besideDrop _ hx hy apart dropped := by
    have shift := hx.2.drop dropped
    exact ⟨fun claimed => shift.onward.ne_untested (hy.1 claimed), hy.2.beside shift apart⟩
  around modest he := modest.shift (h := []) (.quiet he.1 he.2)
  besideAround _ hx he := by
    have shift : Shift s [] _ _ := .quiet he.1 he.2
    exact ⟨fun claimed => shift.onward.ne_untested (hx.1 claimed),
      hx.2.beside shift fun ⟨claimed, _⟩ => not_claimed_nil claimed⟩

/-- **After a probe that has failed** a move changes nothing. -/
theorem Shift.of_failed {reason : String} (shift : Shift s h a b)
    (failed : s.gateIn a = .failed reason) :
    s.gateIn b = .failed reason ∧ b.wire.sent = a.wire.sent := by
  cases shift with
  | quiet gate mute => exact ⟨gate.trans failed, mute⟩
  | claim before _ _ =>
    rw [failed] at before
    cases before
  | probe _ flying _ _ =>
    rw [failed] at flying
    cases flying
  | behind opened _ =>
    rw [failed] at opened
    cases opened
  | settle _ before _ _ =>
    rw [failed] at before
    cases before

/-- **One move** is a shift. -/
theorem shift_of_step {m : Crowd.Move Request} {c c' : Calls} (imds : s.endpoint.isImds = true)
    (hc : s.pact.Holds c) (step : Crowd.Step s.source.getToken s.Elsewhere m c c') :
    ∃ h, Shift s h c.world.state c'.world.state := by
  cases step with
  | call free => exact ⟨[], .quiet rfl rfl⟩
  | go here next => exact ⟨_, ((hc.caller here).2.next imds hc.world next).2⟩
  | drop here dropped => exact ⟨_, (hc.caller here).2.drop dropped⟩
  | around he => exact ⟨[], .quiet he.1 he.2⟩

theorem failed_of_reaches {c c' : Calls} {reason : String} (imds : s.endpoint.isImds = true)
    (hc : s.pact.Holds c) (failed : s.gateIn c.world.state = .failed reason)
    (reaches : Crowd.Reaches s.source.getToken s.Elsewhere c c') :
    s.gateIn c'.world.state = .failed reason ∧
      c'.world.state.wire.sent = c.world.state.wire.sent := by
  induction reaches with
  | refl => exact ⟨failed, rfl⟩
  | tail before step ih =>
    obtain ⟨m, step⟩ := step
    obtain ⟨h, shift⟩ := shift_of_step imds (Pact.holds_of_reaches (pact_kept imds) hc before) step
    obtain ⟨failed', mute⟩ := shift.of_failed ih.1
    exact ⟨failed', mute.trans ih.2⟩

/-! ### A closed gate -/

theorem resource_of_isValid {scope : String} (scopes : r.scopes = [scope])
    (valid : Scope.isValid scope = true) : ∃ resource, r.resource credential = .ok resource := by
  refine ⟨String.ofList (Scope.dropSuffix Scope.defaultSuffix scope.toList), ?_⟩
  rw [Request.resource, scopes, Scope.resource, Scope.check, if_pos valid]
  rfl

/-- **A call that finds the gate closed** ends at once. -/
theorem run_getToken_of_failed {scope reason : String} (imds : s.endpoint.isImds = true)
    (failed : s.gateIn w.state = .failed reason) (scopes : r.scopes = [scope])
    (valid : Scope.isValid scope = true) (alive : w.cancelled r.cancel = false) :
    ∃ w', (s.source.getToken r).run w = (w', .done (.error (refusal reason))) ∧ w'.now = w.now := by
  obtain ⟨resource, hr⟩ := resource_of_isValid scopes valid
  have asked :
      (onGate s.gate (consult r credential)).run w = (w, .done (.ok (.closed reason))) := by
    have failed' : w.state.gates s.gate = .failed reason := failed
    have same : update w.state.gates s.gate (.failed reason) = w.state.gates := by
      rw [← failed', update_same]
    simp [onGate, consult, zoom, Task.run, failed', claim, same, Request.within, alive,
      Request.limitEnd?, Task.giveUp, Wait.wake?, isSettled, admission]
  have fetched : (s.fetch r).run w = (w, .done (.error (refusal reason))) := by
    rw [fetch, hr]
    cases he : s.endpoint with
    | imds url =>
      dsimp only
      rw [fetchImds_eq, run_bind, asked]
      rfl
    | appService url header =>
      rw [he] at imds
      cases imds
  have ran : (s.source.getToken r).run w =
      (w.append (Source.report credential (w.now.since w.now) (.error (refusal reason))),
        .done (.error (refusal reason))) := by
    show ((s.fetch r).bind (Source.tell credential w.toMoment)).run w = _
    rw [run_bind, fetched]
    rfl
  exact ⟨_, ran, rfl⟩

/-! ### In every state -/

/-- The pact of calls to an app service: none of them touches the gate. -/
def appPact (s : ManagedIdentitySource) : Pact Request Surroundings (Except Error Token) where
  world w := s.gateIn w.state = untested
  caller _ x := ∃ n, x.rest.Spends (PostsBeside s.gate) n
  apart _ _ := True

theorem spends_getToken (app : s.endpoint.isImds = false) (r : Request) :
    (s.source.getToken r).Spends (PostsBeside s.gate) (s.retry.maxRetries.toNat + 1) := by
  intro start
  refine Spends.bind_free ?_ fun x => Source.spends_tell _ _ x 0
  rw [fetch]
  split
  · trivial
  · split
    next he =>
      rw [he] at app
      cases app
    · exact s.spends_askWith s.retry _ r

theorem appPact_kept (app : s.endpoint.isImds = false) :
    s.appPact.Kept s.source.getToken s.Elsewhere where
  symm _ := trivial
  calls r _ := ⟨_, spends_getToken app r⟩
  callsApart _ := fun _ => trivial
  goes untested hx next := by
    obtain ⟨n, spends⟩ := hx
    obtain ⟨m, -, ⟨gate, -⟩, spends'⟩ := spends.next (postsBeside_free s.gate) next
    exact ⟨Eq.trans gate untested, n - m, spends'⟩
  besideGo _ _ hy _ _ := ⟨hy, trivial⟩
  drops untested hx dropped := by
    obtain ⟨n, spends⟩ := hx
    exact Eq.trans (spends.drop dropped).1 untested
  besideDrop _ _ hy _ _ := hy
  around untested he := he.1.trans untested
  besideAround _ hx _ := hx

/-- **Restraint** towards a metadata service. -/
structure Restraint (s : ManagedIdentitySource) (c : Calls) : Prop where
  /-- Until the probe has succeeded, one message has been sent at most. -/
  one : s.gateIn c.world.state ≠ succeeded → c.world.state.wire.sent.length ≤ 1
  /-- After a probe that has failed no message is sent any more. -/
  silent : ∀ {reason : String}, s.gateIn c.world.state = .failed reason →
    ∀ c', Crowd.Reaches s.source.getToken s.Elsewhere c c' →
      s.gateIn c'.world.state = .failed reason ∧ c'.world.state.wire.sent = c.world.state.wire.sent
  /-- And a call for a single valid scope that begins now ends at once with the reason. -/
  refuses : ∀ {reason scope : String} {r : Request}, s.gateIn c.world.state = .failed reason →
    r.scopes = [scope] → Scope.isValid scope = true → c.world.cancelled r.cancel = false →
      ∃ w, (s.source.getToken r).run c.world =
        (w, .done (.error (refusal reason))) ∧ w.now = c.world.now
  /-- Each call sends no more messages than there may be attempts, and keeps its pace. -/
  paced : ∀ {id : Nat} {x : Call}, c.callers id = some x → s.Restrained x.order x.history

/-- A source with a metadata service that cannot be reached. -/
def stranded : ManagedIdentitySource := ⟨.imds default, none, .standard, .ofSeconds 1, "", 0⟩

/-- Nothing has been sent and no reply comes. -/
def wilderness : World Surroundings :=
  .initial ⟨0⟩ (.ofCapacity 8) ⟨default, ⟨[], []⟩, [], default, fun _ => .untested, fun _ => []⟩

/-- Of two calls the first one makes the probe, and the second one waits for it and hears of its
failure. -/
def twoCalls : List (Crowd.Move Request) :=
  [.call 0 ⟨["a"], none, 0⟩, .call 1 ⟨["a"], none, 0⟩] ++ List.replicate 2 (.go 0) ++
    List.replicate 3 (.go 1) ++ List.replicate 5 (.go 0) ++ List.replicate 4 (.go 1)

end ManagedIdentitySource

end TokenChain
