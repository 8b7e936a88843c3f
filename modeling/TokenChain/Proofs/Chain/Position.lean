import TokenChain.Proofs.Chain.Serial
import TokenChain.Proofs.Task.Stepwise

/-! # Where a call is

A call of a chain goes through few positions: it arrives, waits for its turn, scans, asks the
selected source. `Position.task` is what is left to do at a position, `Position.follow` the position
after the next step, and `Position.effect` what this step changes in the chain. `next?_task` says
that a call takes exactly these steps, so that the position of a call can be read off the steps that
it has taken (`Position.of`). All that a step can lead to is listed in `Position.Next`. -/

namespace TokenChain.Chain

open TokenChain.Task TokenChain.Shared

variable {ρ : Type}

/-- Where a call of a chain is. -/
inductive Position (ρ : Type) where
  /-- Nothing has been done yet. -/
  | arriving
  /-- No source is selected; next it is checked whether the request was cancelled. -/
  | knocking
  /-- Next a ticket is taken. -/
  | entering
  /-- Waits for its turn. -/
  | queued (ticket : Nat)
  /-- Has given up; next the ticket is given back. -/
  | quitting (ticket : Nat) (e : Error)
  /-- Has its turn; next it looks again whether a source is selected. -/
  | admitted (ticket : Nat)
  /-- Has its turn, but a source is selected; next the ticket is given back. -/
  | yielding (ticket i : Nat)
  /-- Scans; next it is checked whether the source at place `i` is ruled out. -/
  | scanning (ticket i : Nat) (f : Findings)
  /-- Scans; next it is logged that the source at place `i` is skipped. -/
  | skipping (ticket i : Nat) (f : Findings) (reason : String)
  /-- Scans; the source at place `i` is at work and has `u` left to do. -/
  | trying (ticket i : Nat) (f : Findings) (u : Task ρ (Except Error Token))
  /-- The scan has ended, with a token of the given source or with an error; next the ticket is
  given back. -/
  | closing (ticket : Nat) (source? : Option Nat) (x : Except Error Token)
  /-- The selected source is at work and has `u` left to do. -/
  | asking (i : Nat) (u : Task ρ (Except Error Token))
  /-- The call has ended without asking a selected source. -/
  | ended (source? : Option Nat) (x : Except Error Token)
  /-- The call has broken down. -/
  | lost

namespace Position

/-- The ticket that a call holds. -/
def ticket? : Position ρ → Option Nat
  | queued t | quitting t _ | admitted t | yielding t _ | scanning t _ _ | skipping t _
      _ _ | trying t _ _ _
  | closing t _ _ => some t
  | _ => none

/-- Whether a call has its turn. -/
def hasTurn : Position ρ → Bool
  | admitted _ | yielding .. | scanning .. | skipping .. | trying .. | closing .. => true
  | _ => false

/-- Whether a call goes through the sources. -/
def inLoop : Position ρ → Bool
  | scanning .. | skipping .. | trying .. => true
  | _ => false

/-- The source that is at work for a call, and what it has left to do. -/
def source? : Position ρ → Option (Nat × Task ρ (Except Error Token))
  | trying _ i _ u | asking i u => some (i, u)
  | _ => none

end Position

/-! ### What is left to do -/

section Tasks
variable (c : Chain ρ) (r : Request)

/-- What a call does when it has waited for its turn. -/
def afterWait : Except Error Nat → Task (Shared ρ) (Except Error Token)
  | .error e => .done (.error e)
  | .ok ticket => c.takeTurn r ticket

/-- What a call gives up with when its request is cancelled. -/
def cancelledError : Error := .timeout credential Request.cancelledMessage

/-- What a call gives up with at its deadline. -/
def expiredError : Error := .timeout credential (r.expiredMessage none ⟨0⟩)

/-- A wait of a call for its turn, or what comes before it. -/
def patiently (t : Task (Shared ρ) (Except Error Nat)) : Task (Shared ρ) (Except Error Token) :=
  (t.giveUp r.cancel (Instant.earliest r.deadline none) (.error cancelledError)
    (.error (expiredError r))).bind (c.afterWait r)

/-- The wait for a turn. -/
def queue (ticket : Nat) : Task (Shared ρ) (Except Error Nat) :=
  .wait { ready := fun s => s.chain.turns.isFirst ticket
          abandon := Shared.onChain (ChainState.leave ticket) } fun _ => .done (.ok ticket)

/-- A scan by the holder of a ticket, or what is left of it. -/
def inTurn (ticket : Nat) (t : Task (Shared ρ) (Except Error Token)) :
    Task (Shared ρ) (Except Error Token) :=
  (t.onLoss (Shared.onChain (ChainState.leave ticket))).bind fun result =>
    leaveWith ticket (.done result)

/-- What a scan does with the answer of the source at place `i`. -/
def digest (i : Nat) (f : Findings) : Except Error Token → Task (Shared ρ) (Except Error Token)
  | .ok token =>
    .step (Shared.onChain (ChainState.select i (f.succeed i token))) fun _ => .done (.ok token)
  | .error e => .step (Shared.onChain (noteFailure i e)) fun _ =>
    scanFrom r (c.sources.drop (i + 1)) (i + 1) (f.fail i (c.nameAt i) e)

namespace Position

/-- **What is left to do** at a position. -/
def task : Position ρ → Task (Shared ρ) (Except Error Token)
  | arriving => c.getToken r
  | knocking => (waitTurn r).bind (c.afterWait r)
  | entering => c.patiently r <|
    .step (Shared.onChain ChainState.enter) fun before => queue before.chain.turns.next
  | queued t => c.patiently r (queue t)
  | quitting t e => .step (Shared.onChain (ChainState.leave t)) fun _ => .done (.error e)
  | admitted t => c.takeTurn r t
  | yielding t i => leaveWith t (c.ask r i)
  | scanning t i f => inTurn t (scanFrom r (c.sources.drop i) i f)
  | skipping t i f reason => inTurn t <| .note ⟨.debug, c.nameAt i, skipNotice reason⟩ <|
    scanFrom r (c.sources.drop (i + 1)) (i + 1) (f.skip i (c.nameAt i) reason)
  | trying t i f u => inTurn t ((Shared.lift u).bind (c.digest r i f))
  | closing t _ x => leaveWith t (.done x)
  | asking _ u => Shared.lift u
  | ended _ x => .done x
  | lost => .crash

/-- A call that turns to the selected source. -/
def toSource (i : Nat) : Position ρ :=
  match c.sources[i]? with
  | some source => asking i (source.getToken r)
  | none => lost

/-- The rest of a source at work after its next step, if it has one. -/
def workOn (u : Task ρ (Except Error Token)) (w : World (Shared ρ)) : Task ρ (Except Error Token) :=
  ((u.next? (outside w)).map Prod.snd).getD u

/-- **The position after the next step**, if it is taken in the given world. -/
def follow (w : World (Shared ρ)) : Position ρ → Position ρ
  | arriving =>
    match w.state.chain.selected with
    | some i => toSource c r i
    | none => knocking
  | knocking => if w.cancelled r.cancel then ended none (.error cancelledError) else entering
  | entering => queued w.state.chain.turns.next
  | queued t =>
    if w.cancelled r.cancel then quitting t cancelledError
    else if w.state.chain.turns.isFirst t then admitted t
    else quitting t (expiredError r)
  | quitting _ e => ended none (.error e)
  | admitted t =>
    match w.state.chain.selected with
    | some i => yielding t i
    | none => scanning t 0 .empty
  | yielding _ i => toSource c r i
  | scanning t i f =>
    match c.sources[i]? with
    | none => closing t none (.error (.aggregate f.failures))
    | some source =>
      match w.state.chain.reason? i with
      | some reason => skipping t i f reason
      | none => trying t i f (source.getToken r)
  | skipping t i f reason => scanning t (i + 1) (f.skip i (c.nameAt i) reason)
  | trying t i _ (.done (.ok token)) => closing t (some i) (.ok token)
  | trying t i f (.done (.error e)) => scanning t (i + 1) (f.fail i (c.nameAt i) e)
  | trying _ _ _ .crash => lost
  | trying t i f u => trying t i f (workOn u w)
  | closing _ source? x => ended source? x
  | asking i u => asking i (workOn u w)
  | ended source? x => ended source? x
  | lost => lost

/-- **What is undone** in the chain when a call is dropped at its wait. -/
def release (p : Position ρ) : ChainState → ChainState :=
  match p.ticket? with
  | some t => ChainState.leave t
  | none => id

/-- **What the next step changes** in the chain. -/
def effect : Position ρ → ChainState → ChainState
  | entering => ChainState.enter
  | quitting t _ | yielding t _ | closing t _ _ => ChainState.leave t
  | scanning _ i f => if i < c.sources.length then id else ChainState.conclude f.fares
  | trying _ i f (.done (.ok token)) => ChainState.select i (f.succeed i token)
  | trying _ i _ (.done (.error e)) => noteFailure i e
  | trying t _ _ .crash => ChainState.leave t
  | _ => id

/-- **What may follow a position**, and when. -/
inductive Next (w : World (Shared ρ)) : Position ρ → Position ρ → Prop
  | ask {i : Nat} {source : Source ρ} (selected : w.state.chain.selected = some i)
      (here : c.sources[i]? = some source) : Next w .arriving (.asking i (source.getToken r))
  | miss {i : Nat} (selected : w.state.chain.selected = some i) (nowhere : c.sources[i]? = none) :
      Next w .arriving .lost
  | knock (selected : w.state.chain.selected = none) : Next w .arriving .knocking
  | refuse (cancelled : w.cancelled r.cancel = true) :
      Next w .knocking (.ended none (.error cancelledError))
  | enter (alive : w.cancelled r.cancel = false) : Next w .knocking .entering
  | queue : Next w .entering (.queued w.state.chain.turns.next)
  | cancel {t : Nat} (cancelled : w.cancelled r.cancel = true) :
      Next w (.queued t) (.quitting t cancelledError)
  | advance {t : Nat} (first : w.state.chain.turns.isFirst t = true) :
      Next w (.queued t) (.admitted t)
  | expire {t : Nat} (late : w.state.chain.turns.isFirst t = false) :
      Next w (.queued t) (.quitting t (expiredError r))
  | quit {t : Nat} {e : Error} : Next w (.quitting t e) (.ended none (.error e))
  | yield {t i : Nat} (selected : w.state.chain.selected = some i) :
      Next w (.admitted t) (.yielding t i)
  | scan {t : Nat} (selected : w.state.chain.selected = none) :
      Next w (.admitted t) (.scanning t 0 .empty)
  | askAfter {t i : Nat} {source : Source ρ} (here : c.sources[i]? = some source) :
      Next w (.yielding t i) (.asking i (source.getToken r))
  | missAfter {t i : Nat} (nowhere : c.sources[i]? = none) : Next w (.yielding t i) .lost
  | exhaust {t i : Nat} {f : Findings} (beyond : c.sources.length ≤ i) :
      Next w (.scanning t i f) (.closing t none (.error (.aggregate f.failures)))
  | skip {t i : Nat} {f : Findings} {reason : String} (valid : i < c.sources.length)
      (closed : w.state.chain.reason? i = some reason) : Next w (.scanning t i f)
        (.skipping t i f reason)
  | attempt {t i : Nat} {f : Findings} (valid : i < c.sources.length)
      (inPlay : w.state.chain.reason? i = none) : Next w (.scanning t i f)
        (.trying t i f (c.sources[i].getToken r))
  | goOn {t i : Nat} {f : Findings} {reason : String} :
      Next w (.skipping t i f reason) (.scanning t (i + 1) (f.skip i (c.nameAt i) reason))
  | win {t i : Nat} {f : Findings} {token : Token} :
      Next w (.trying t i f (.done (.ok token))) (.closing t (some i) (.ok token))
  | fail {t i : Nat} {f : Findings} {e : Error} :
      Next w (.trying t i f (.done (.error e))) (.scanning t (i + 1) (f.fail i (c.nameAt i) e))
  | breakDown {t i : Nat} {f : Findings} : Next w (.trying t i f .crash) .lost
  | work {t i : Nat} {f : Findings} {u : Task ρ (Except Error Token)}
      (unfinished : ∀ x, u ≠ .done x) (unbroken : u ≠ .crash) : Next w (.trying t i f u)
        (.trying t i f (workOn u w))
  | close {t : Nat} {source? : Option Nat} {x : Except Error Token} :
      Next w (.closing t source? x) (.ended source? x)
  | answer {i : Nat} {u : Task ρ (Except Error Token)} :
      Next w (.asking i u) (.asking i (workOn u w))
  | stay {source? : Option Nat} {x : Except Error Token} :
      Next w (.ended source? x) (.ended source? x)
  | gone : Next w .lost .lost

end Position

end Tasks

/-! ### The steps of a call -/

section Steps
variable {c : Chain ρ} {r : Request} {w w' : World (Shared ρ)}
  {t : Task (Shared ρ) (Except Error Token)}

theorem next?_lift {u : Task ρ (Except Error Token)} (h : (Shared.lift u).next? w = some (w', t)) :
    t = Shared.lift (Position.workOn u w) ∧ w'.state.chain = w.state.chain := by
  obtain ⟨v, u', hu, rfl, rfl⟩ := next?_zoom (fun _ => rfl) h
  have hw : Position.workOn u w = u' := by
    rw [Position.workOn, show u.next? (outside w) = some (v, u') from hu]
    rfl
  rw [hw]
  exact ⟨rfl, rfl⟩

theorem next?_inTurn {ticket : Nat} {u : Task (Shared ρ) (Except Error Token)}
    (h : (inTurn ticket u).next? w = some (w', t)) :
    (∃ x, u = .done x ∧ t = .done x ∧ w'.state.chain = w.state.chain.leave ticket) ∨
      (u = .crash ∧ t = .crash ∧ w'.state.chain = w.state.chain.leave ticket) ∨
      ∃ u', u.next? w = some (w', u') ∧ t = inTurn ticket u' := by
  rcases next?_bind h with ⟨x, hx, hg⟩ | ⟨v, hv, rfl⟩
  · cases u with
    | done y =>
      cases hx
      cases hg
      exact .inl ⟨x, rfl, rfl, rfl⟩
    | crash | look | note | step | wait => cases hx
  · rcases next?_onLoss hv with ⟨rfl, rfl, rfl⟩ | ⟨u', hu, rfl⟩
    · exact .inr (.inl ⟨rfl, rfl, rfl⟩)
    · exact .inr (.inr ⟨u', hu, rfl⟩)

theorem bind_digest (source : Source ρ) (i : Nat) (f : Findings)
    (here : c.sources[i]? = some source) : (Shared.lift (source.getToken r)).bind (c.digest r i f) =
      (Shared.lift (source.getToken r)).bind fun
        | .ok token =>
          .step (Shared.onChain (ChainState.select i (f.succeed i token)))
            fun _ => .done (.ok token)
        | .error e => .step (Shared.onChain (noteFailure i e)) fun _ =>
          scanFrom r (c.sources.drop (i + 1)) (i + 1) (f.fail i source.name e) := by
  congr 1
  funext x
  cases x with
  | ok token => rfl
  | error e => simp [digest, nameAt, here]

theorem of_wake?_queue {ticket : Nat} {key : CancelKey} {deadline : Option Instant}
    {abandon : Shared ρ → Shared ρ} {x : Wake}
    (h : Wait.wake?
      { ready := fun s : Shared ρ => s.chain.turns.isFirst ticket, abandon, cancel := some key,
        deadline } w = some x) :
    (x = .cancelled ∧ w.cancelled key = true) ∨
      (x = .ready ∧ w.cancelled key = false ∧ w.state.chain.turns.isFirst ticket = true) ∨
      (x = .expired ∧ w.cancelled key = false ∧ w.state.chain.turns.isFirst ticket = false) := by
  simp only [Wait.wake?, Option.any_some, Option.any_none, Bool.or_false] at h
  split_ifs at h with hc hf hd
  · exact .inl ⟨(Option.some.inj h).symm, hc⟩
  · exact .inr (.inl ⟨(Option.some.inj h).symm, by simpa using hc, hf⟩)
  · exact .inr (.inr ⟨(Option.some.inj h).symm, by simpa using hc, by simpa using hf⟩)

/-- **A position is followed** as `Position.Next` says. -/
theorem next_follow (p : Position ρ) : Position.Next c r w p (p.follow c r w) := by
  cases p with
  | arriving =>
    rw [Position.follow]
    cases selected : w.state.chain.selected with
    | none => exact .knock selected
    | some i =>
      show Position.Next c r w .arriving (Position.toSource c r i)
      rw [Position.toSource]
      cases here : c.sources[i]? with
      | some source => exact .ask selected here
      | none => exact .miss selected here
  | knocking =>
    rw [Position.follow]
    split_ifs with cancelled
    · exact .refuse cancelled
    · exact .enter (by simpa using cancelled)
  | entering => exact .queue
  | queued ticket =>
    rw [Position.follow]
    split_ifs with cancelled first
    · exact .cancel cancelled
    · exact .advance first
    · exact .expire (by simpa using first)
  | quitting ticket e => exact .quit
  | admitted ticket =>
    rw [Position.follow]
    cases selected : w.state.chain.selected with
    | none => exact .scan selected
    | some i => exact .yield selected
  | yielding ticket i =>
    rw [Position.follow, Position.toSource]
    cases here : c.sources[i]? with
    | some source => exact .askAfter here
    | none => exact .missAfter here
  | scanning ticket i f =>
    rw [Position.follow]
    rcases Nat.lt_or_ge i c.sources.length with valid | beyond
    · rw [List.getElem?_eq_getElem valid]
      cases reason : w.state.chain.reason? i with
      | some reason => exact .skip valid reason
      | none => exact .attempt valid reason
    · rw [List.getElem?_eq_none beyond]
      exact .exhaust beyond
  | skipping ticket i f reason => exact .goOn
  | trying ticket i f u =>
    cases u with
    | done x =>
      cases x with
      | ok token => exact .win
      | error e => exact .fail
    | crash => exact .breakDown
    | look | note | step | wait => exact .work nofun nofun
  | closing ticket source? x => exact .close
  | asking i u => exact .answer
  | ended source? x => exact .stay
  | lost => exact .gone

theorem effect_work {ticket i : Nat} {f : Findings} {u : Task ρ (Except Error Token)}
    (unfinished : ∀ x, u ≠ .done x) (unbroken : u ≠ .crash) (s : ChainState) :
    (Position.trying ticket i f u).effect c s = s := by
  cases u with
  | done x => exact absurd rfl (unfinished x)
  | crash => exact absurd rfl unbroken
  | look | note | step | wait => rfl

theorem task_toSource (i : Nat) : (Position.toSource c r i).task c r = c.ask r i := by
  rw [Position.toSource, ask]
  cases c.sources[i]? with
  | none => rfl
  | some source => rfl

theorem next?_scanning {ticket i : Nat} {f : Findings}
    (h : ((Position.scanning ticket i f : Position ρ).task c r).next? w = some (w', t)) :
    t = ((Position.scanning ticket i f).follow c r w).task c r ∧
      w'.state.chain = (Position.scanning ticket i f : Position ρ).effect c w.state.chain := by
  rw [Position.follow, Position.effect]
  rcases Nat.lt_or_ge i c.sources.length with hi | hi
  · have hget := List.getElem?_eq_getElem hi
    rw [Position.task, List.drop_eq_getElem_cons hi] at h
    rw [if_pos hi, hget]
    rcases next?_inTurn h with ⟨x, hx, -⟩ | ⟨hx, -⟩ | ⟨u, hu, rfl⟩
    · cases hx
    · cases hx
    · cases hu
      refine ⟨?_, rfl⟩
      cases hr : w.state.chain.reason? i with
      | some reason =>
        simp only [hr, Position.task, nameAt, hget]
        rfl
      | none =>
        simp only [hr, Position.task]
        exact congrArg (inTurn ticket) (bind_digest c.sources[i] i f hget).symm
  · rw [Position.task, List.drop_eq_nil_of_le hi] at h
    rw [if_neg (by omega), List.getElem?_eq_none hi]
    rcases next?_inTurn h with ⟨x, hx, -⟩ | ⟨hx, -⟩ | ⟨u, hu, rfl⟩
    · cases hx
    · cases hx
    · cases hu
      exact ⟨rfl, rfl⟩

theorem next?_trying {ticket i : Nat} {f : Findings} {u : Task ρ (Except Error Token)}
    (h : ((Position.trying ticket i f u).task c r).next? w = some (w', t)) :
    t = ((Position.trying ticket i f u).follow c r w).task c r ∧
      w'.state.chain = (Position.trying ticket i f u).effect c w.state.chain := by
  rcases next?_inTurn h with ⟨x, hx, -⟩ | ⟨hx, rfl, hw⟩ | ⟨v, hv, rfl⟩
  · cases u with
    | done y => cases y <;> cases hx
    | crash | look | note | step | wait => cases hx
  · cases u with
    | crash => exact ⟨rfl, hw⟩
    | done y => cases y <;> cases hx
    | look | note | step | wait => cases hx
  · rcases next?_bind hv with ⟨x, hx, hg⟩ | ⟨u', hu, rfl⟩
    · cases u with
      | done y =>
        cases hx
        cases x <;> cases hg <;> exact ⟨rfl, rfl⟩
      | crash | look | note | step | wait => cases hx
    · cases u with
      | done y => cases hu
      | crash => cases hu
      | look k | note n k | step g k | wait q k =>
        obtain ⟨rfl, hw⟩ := next?_lift hu
        exact ⟨rfl, hw⟩

/-- **A call takes the steps of its positions.** -/
theorem next?_task {p : Position ρ} (h : (p.task c r).next? w = some (w', t)) :
    t = (p.follow c r w).task c r ∧ w'.state.chain = p.effect c w.state.chain := by
  cases p with
  | arriving =>
    cases h
    refine ⟨?_, rfl⟩
    show (match w.state.chain.selected with | some i => _ | none => _) = _
    rw [Position.follow]
    cases w.state.chain.selected with
    | some i => exact (task_toSource i).symm
    | none => rfl
  | knocking =>
    cases h
    refine ⟨?_, rfl⟩
    show Task.bind (if w.cancelled r.cancel then _ else _) _ = _
    rw [Position.follow]
    cases w.cancelled r.cancel with
    | true => rfl
    | false => rfl
  | entering =>
    cases h
    exact ⟨rfl, rfl⟩
  | queued ticket =>
    obtain ⟨x, hx, he⟩ := Option.map_eq_some_iff.mp h
    cases he
    refine ⟨?_, rfl⟩
    rw [Position.follow]
    rcases of_wake?_queue hx with ⟨rfl, hc⟩ | ⟨rfl, hc, hf⟩ | ⟨rfl, hc, hf⟩
    · rw [if_pos hc]
      rfl
    · rw [if_neg (by simp [hc]), if_pos hf]
      rfl
    · rw [if_neg (by simp [hc]), if_neg (by simp [hf])]
      rfl
  | quitting ticket e =>
    cases h
    exact ⟨rfl, rfl⟩
  | admitted ticket =>
    cases h
    refine ⟨?_, rfl⟩
    show (match w.state.chain.selected with | some i => _ | none => _) = _
    rw [Position.follow]
    cases w.state.chain.selected with
    | some i => rfl
    | none => rfl
  | yielding ticket i =>
    cases h
    exact ⟨(task_toSource i).symm, rfl⟩
  | scanning ticket i f => exact next?_scanning h
  | skipping ticket i f reason =>
    cases h
    exact ⟨rfl, rfl⟩
  | trying ticket i f u => exact next?_trying h
  | closing ticket source? x =>
    cases h
    exact ⟨rfl, rfl⟩
  | asking i u => exact next?_lift h
  | ended source? x => cases h
  | lost => cases h

/-- **A call that is dropped** gives its ticket back. -/
theorem drop?_task {p : Position ρ} (h : (p.task c r).drop? w = some w') :
    w'.state.chain = p.release w.state.chain := by
  cases p with
  | queued ticket =>
    cases h
    rfl
  | scanning ticket i f =>
    rcases Nat.lt_or_ge i c.sources.length with hi | hi
    · rw [Position.task, List.drop_eq_getElem_cons hi] at h
      cases h
    · rw [Position.task, List.drop_eq_nil_of_le hi] at h
      cases h
  | trying ticket i f u =>
    rcases drop?_bind h with ⟨x, hx, -⟩ | hscan
    · cases u with
      | done y => cases y <;> cases hx
      | crash | look | note | step | wait => cases hx
    · obtain ⟨w₁, hsource, rfl⟩ := drop?_onLoss hscan
      rcases drop?_bind hsource with ⟨x, -, hg⟩ | hlift
      · cases x <;> cases hg
      · obtain ⟨v, -, rfl⟩ := drop?_zoom hlift
        rfl
  | asking i u =>
    obtain ⟨v, -, rfl⟩ := drop?_zoom h
    rfl
  | arriving | knocking | entering | quitting | admitted | yielding | skipping | closing | ended
  | lost => cases h

/-! ### What a call does outside the chain -/

/-- A source that is at work after a step is the one that was at work before, or it begins. -/
theorem begins_of_source? {p q : Position ρ} {i : Nat} {u : Task ρ (Except Error Token)}
    (next : p.Next c r w q) (resting : p.source? = none) (hq : q.source? = some (i, u)) :
    ∃ source ∈ c.sources, u = source.getToken r := by
  cases next with
  | ask _ here | askAfter here =>
    cases hq
    exact ⟨_, List.mem_of_getElem? here, rfl⟩
  | attempt valid =>
    cases hq
    exact ⟨_, List.getElem_mem valid, rfl⟩
  | work | answer => cases resting
  | miss | knock | refuse | enter | queue | cancel | advance | expire | quit | yield | scan
  | missAfter | exhaust | skip | goOn | win | fail | breakDown | close | stay | gone => cases hq

theorem outside_next?_lift {u : Task ρ (Except Error Token)}
    (h : (Shared.lift u).next? w = some (w', t)) :
    u.next? (outside w) = some (outside w', Position.workOn u w) := by
  obtain ⟨v, u', hu, rfl, rfl⟩ := next?_zoom (fun _ => rfl) h
  rw [Position.workOn, show u.next? (outside w) = some (v, u') from hu]
  rfl

theorem outside_next?_trying {ticket i : Nat} {f : Findings} {u : Task ρ (Except Error Token)}
    (h : ((Position.trying ticket i f u).task c r).next? w = some (w', t)) :
    (u.next? (outside w) = some (outside w', Position.workOn u w) ∧
        (Position.trying ticket i f u).follow c r w = .trying ticket i f (Position.workOn u w)) ∨
      (w'.state.sources = w.state.sources ∧
        ((Position.trying ticket i f u).follow c r w).source? = none) := by
  cases u with
  | done x => cases x <;> cases h <;> exact .inr ⟨rfl, rfl⟩
  | crash =>
    cases h
    exact .inr ⟨rfl, rfl⟩
  | look k | note n k | step g k | wait q k =>
    rcases next?_inTurn h with ⟨x, hx, -⟩ | ⟨hx, -⟩ | ⟨v, hv, -⟩
    · cases hx
    · cases hx
    · obtain ⟨u', hu, -⟩ := next?_bind_of_ne (fun x hx => by cases hx) hv
      exact .inl ⟨outside_next?_lift hu, rfl⟩

/-- **What a step does outside the chain**: it is a step of the source at work, or nothing happens
there; a source that is at work after such a step has not begun. -/
theorem outside_next? {p : Position ρ} (h : (p.task c r).next? w = some (w', t)) :
    (∃ i u u', p.source? = some (i, u) ∧ u.next? (outside w) = some (outside w', u') ∧
        (p.follow c r w).source? = some (i, u')) ∨
      (w'.state.sources = w.state.sources ∧
        ∀ {i u}, (p.follow c r w).source? = some (i, u) →
        ∃ source ∈ c.sources, u = source.getToken r) := by
  -- Without a source at work the step is one of the chain.
  have rests : p.source? = none → w'.state.sources = w.state.sources →
      w'.state.sources = w.state.sources ∧
        ∀ {i u}, (p.follow c r w).source? = some (i, u) →
        ∃ source ∈ c.sources, u = source.getToken r :=
    fun resting same => ⟨same, begins_of_source? (next_follow p) resting⟩
  cases p with
  | trying ticket i f u =>
    rcases outside_next?_trying h with ⟨next, stays⟩ | ⟨same, ended⟩
    · exact .inl ⟨i, u, _, rfl, next, by rw [stays]; rfl⟩
    · refine .inr ⟨same, fun hq => ?_⟩
      rw [ended] at hq
      cases hq
  | asking i u => exact .inl ⟨i, u, _, rfl, outside_next?_lift h, rfl⟩
  | scanning ticket i f =>
    refine .inr (rests rfl ?_)
    rcases Nat.lt_or_ge i c.sources.length with hi | hi
    · rw [Position.task, List.drop_eq_getElem_cons hi] at h
      cases h
      rfl
    · rw [Position.task, List.drop_eq_nil_of_le hi] at h
      cases h
      rfl
  | queued ticket =>
    obtain ⟨x, -, he⟩ := Option.map_eq_some_iff.mp h
    cases he
    exact .inr (rests rfl rfl)
  | arriving | knocking | entering | quitting | admitted | yielding | skipping | closing =>
    cases h
    exact .inr (rests rfl rfl)
  | ended | lost => cases h

/-- **A call that is dropped** drops the source at work, or nothing happens outside the chain. -/
theorem outside_drop? {p : Position ρ} (h : (p.task c r).drop? w = some w') :
    (∃ i u, p.source? = some (i, u) ∧ u.drop? (outside w) = some (outside w')) ∨
      w'.state.sources = w.state.sources := by
  cases p with
  | queued ticket =>
    cases h
    exact .inr rfl
  | scanning ticket i f =>
    rcases Nat.lt_or_ge i c.sources.length with hi | hi
    · rw [Position.task, List.drop_eq_getElem_cons hi] at h
      cases h
    · rw [Position.task, List.drop_eq_nil_of_le hi] at h
      cases h
  | trying ticket i f u =>
    cases u with
    | done x => cases x <;> cases h
    | wait q k =>
      cases h
      exact .inl ⟨i, _, rfl, rfl⟩
    | crash | look | note | step => cases h
  | asking i u =>
    obtain ⟨v, hv, rfl⟩ := drop?_zoom h
    exact .inl ⟨i, u, rfl, hv⟩
  | arriving | knocking | entering | quitting | admitted | yielding | skipping | closing | ended
  | lost => cases h

end Steps

/-! ### The position of a call -/

/-- The position of a call that has taken some steps. -/
def Position.of (c : Chain ρ) (r : Request) (h : History (Shared ρ)) : Position ρ :=
  h.foldl (fun p step => p.follow c r step.1) .arriving

theorem Position.of_snoc (c : Chain ρ) (r : Request) (h : History (Shared ρ))
    (w w' : World (Shared ρ)) :
    Position.of c r (h ++ [(w, w')]) = (Position.of c r h).follow c r w := by
  rw [Position.of, List.foldl_append]
  rfl

end TokenChain.Chain
