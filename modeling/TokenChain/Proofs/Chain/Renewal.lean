import TokenChain.Proofs.Chain.Selection

/-! # After a reset

A reset forgets the selection and all reasons for ruling sources out. What is found in the chain
later was noted after the reset, by a scan that began after it or that was going on at that time
(`noted_of_selected`, `noted_of_reason?`): each note has a move of the run that made it (`Noted`),
and whoever goes through the sources has begun to do so in the run, or did so before it
(`began_of_inLoop`). If no scan was going on, the next call whose turn comes begins a scan that
finds nothing noted (`renewal_of_reset`).

A scan that goes on across a reset is another matter: it notes what it has heard all the same
(`reset_amid_scan`). -/

namespace TokenChain.Chain

open TokenChain.Task TokenChain.Shared

variable {ρ : Type} {c : Chain ρ}

/-- A move of the calls of a chain. -/
abbrev Event (ρ : Type) := Crowd.Event Request (Shared ρ) (Except Error Token)

/-- The runs of the calls of a chain, which may be reset at any time. -/
abbrev Run (c : Chain ρ) := Crowd.Run c.getToken c.Around

/-- The calls of a chain after it has been reset. -/
def afterReset (c : Chain ρ) (s : Calls ρ) : Calls ρ := { s with world := (c.reset.run s.world).1 }

/-! ### Scans that go on -/

/-- Among some moves there is the one with which a call began the scan that it has gone on with. -/
def Began (c : Chain ρ) (l : List (Event ρ)) (id : Nat) (x : Call ρ) : Prop :=
  ∃ e ∈ l, ∃ y z t, e.move = .go id ∧ e.before.callers id = some y ∧ c.position y = .admitted t ∧
    e.after.callers id = some z ∧ c.position z = .scanning t 0 .empty ∧ z.history <+: x.history

/-- A call that has gone on with a scan went through the sources before. -/
def Underway (c : Chain ρ) (s : Calls ρ) (id : Nat) (x : Call ρ) : Prop :=
  ∃ y, s.callers id = some y ∧ (c.position y).inLoop = true ∧ y.history <+: x.history

theorem Began.append {l : List (Event ρ)} {id : Nat} {x : Call ρ} (h : Began c l id x)
    (l' : List (Event ρ)) : Began c (l ++ l') id x := by
  obtain ⟨e, he, h⟩ := h
  exact ⟨e, List.mem_append_left l' he, h⟩

theorem Began.after {l : List (Event ρ)} {id : Nat} {x : Call ρ} (h : Began c l id x)
    (w w' : World (Shared ρ)) (t : Task (Shared ρ) (Except Error Token)) :
    Began c l id (x.after w w' t) := by
  obtain ⟨e, he, y, z, ticket, move, hy, hp, hz, hq, le⟩ := h
  exact ⟨e, he, y, z, ticket, move, hy, hp, hz, hq, le.trans (List.prefix_append ..)⟩

theorem Underway.after {s : Calls ρ} {id : Nat} {x : Call ρ} (h : Underway c s id x)
    (w w' : World (Shared ρ)) (t : Task (Shared ρ) (Except Error Token)) :
    Underway c s id (x.after w w' t) := by
  obtain ⟨y, hy, loop, le⟩ := h
  exact ⟨y, hy, loop, le.trans (List.prefix_append ..)⟩

theorem of_next_inLoop {r : Request} {w : World (Shared ρ)} {p q : Position ρ}
    (next : p.Next c r w q) (loop : q.inLoop = true) :
    p.inLoop = true ∨ ∃ t, p = .admitted t ∧ q = .scanning t 0 .empty := by
  cases next with
  | @scan t => exact .inr ⟨t, rfl, rfl⟩
  | skip | attempt | goOn | fail | work => exact .inl rfl
  | ask | miss | knock | refuse | enter | queue | cancel | advance | expire | quit | yield
  | askAfter | missAfter | exhaust | win | breakDown | close | answer | stay | gone => cases loop

/-- **A call that goes through the sources** has begun to do so in the run, or did so when the run
began. -/
theorem began_of_inLoop {s s' : Calls ρ} {l : List (Event ρ)} (run : c.Run s l s')
    {id : Nat} {x : Call ρ} (hx : s'.callers id = some x) (loop : (c.position x).inLoop = true) :
    Began c l id x ∨ Underway c s id x := by
  induction run generalizing id x with
  | nil => exact .inr ⟨x, hx, loop, List.prefix_refl _⟩
  | @snoc s₁ s₂ m l before step ih =>
    -- A call that another one's move leaves as it was.
    have stays : s₁.callers id = some x → Began c (l ++ [⟨m, s₁, s₂⟩]) id x ∨ Underway c s id x :=
      fun hx => (ih hx loop).imp (fun h => h.append _) fun h => h
    cases step with
    | call free =>
      rcases Crowd.callers_put.mp hx with ⟨-, he⟩ | ⟨-, hx⟩
      · cases he
        cases loop
      · exact stays hx
    | drop hd dropped =>
      rcases Crowd.callers_put.mp hx with ⟨-, he⟩ | ⟨-, hx⟩
      · cases he
      · exact stays hx
    | around hw => exact stays hx
    | @go _ j y w t hy next =>
      rcases Crowd.callers_put.mp hx with ⟨rfl, he⟩ | ⟨-, hx⟩
      · cases he
        have leads := next_follow (c := c) (r := y.order) (w := s₁.world) (c.position y)
        rw [← position_after c y s₁.world w t] at leads
        rcases of_next_inLoop leads loop with loop | ⟨ticket, hp, hq⟩
        · exact (ih hy loop).imp (fun h => (h.after ..).append _) fun h => h.after ..
        · exact .inl ⟨_, List.mem_append_right l (List.mem_singleton_self _), y, _, ticket, rfl, hy,
            hp, Crowd.callers_put_self .., hq, List.prefix_refl _⟩
      · exact stays hx

/-! ### What is noted -/

/-- With one of the moves of a run a scan has noted what the source at place `k` answered. The scan
began in the run before, or was going on when the run began. -/
def Noted (c : Chain ρ) (s : Calls ρ) (l : List (Event ρ)) (k : Nat) (answer : Except Error Token) :
    Prop :=
  ∃ l₁ e l₂ id x t f, l = l₁ ++ e :: l₂ ∧ e.move = .go id ∧ e.before.callers id = some x ∧
    c.position x = .trying t k f (.done answer) ∧ (Began c l₁ id x ∨ Underway c s id x)

theorem Noted.append {s : Calls ρ} {l : List (Event ρ)} {k : Nat} {answer : Except Error Token}
    (h : Noted c s l k answer) (l' : List (Event ρ)) : Noted c s (l ++ l') k answer := by
  obtain ⟨l₁, e, l₂, id, x, t, f, rfl, h⟩ := h
  exact ⟨l₁, e, l₂ ++ l', id, x, t, f, by simp, h⟩

/-- The last move of a run has noted the answer of a source. -/
theorem noted_of_go {s s₁ s' : Calls ρ} {l : List (Event ρ)} (run : c.Run s l s₁) {id : Nat}
    {x : Call ρ} {t k : Nat} {f : Findings} {answer : Except Error Token}
    (hx : s₁.callers id = some x) (at_ : c.position x = .trying t k f (.done answer)) :
    Noted c s (l ++ [⟨.go id, s₁, s'⟩]) k answer :=
  ⟨l, _, [], id, x, t, f, rfl, rfl, hx, at_, began_of_inLoop run hx (by rw [at_]; rfl)⟩

/-- **What is selected** was noted in the run, if nothing was selected when it began. -/
theorem noted_of_selected {s s' : Calls ρ} (h : c.pact.Holds s)
    (blank : s.world.state.chain.selected = none) {l : List (Event ρ)} (run : c.Run s l s')
    {k : Nat} (hk : s'.world.state.chain.selected = some k) :
    ∃ token, Noted c s l k (.ok token) := by
  induction run with
  | nil =>
    rw [blank] at hk
    cases hk
  | @snoc s₁ s₂ m l before step ih =>
    cases change_of_step (Pact.holds_of_reaches c.pact_kept h before.reaches) step with
    | none selected record =>
      rw [selected] at hk
      obtain ⟨token, noted⟩ := ih hk
      exact ⟨token, noted.append _⟩
    | @select id x ticket k' f token move here at_ turn none after record =>
      rw [after] at hk
      cases hk
      subst move
      exact ⟨token, noted_of_go before here at_⟩
    | reset move reset was after =>
      rw [after] at hk
      cases hk

/-- What a step does with the reasons: a source is ruled out when a scan notes that it does not
apply. -/
theorem of_reason?_effect {s : ChainState} {p : Position ρ} {k : Nat} {reason : String}
    (h : (p.effect c s).reason? k = some reason) :
    s.reason? k = some reason ∨
      ∃ t f credential, p = .trying t k f (.done (.error (.unavailable credential reason))) := by
  cases p with
  | scanning ticket i f =>
    rw [Position.effect] at h
    split_ifs at h
    · exact .inl h
    · exact .inl h
  | trying ticket i f u =>
    cases u with
    | done x =>
      cases x with
      | ok token => exact .inl h
      | error e =>
        cases e with
        | unavailable credential why =>
          rw [show (Position.trying ticket i f
            (.done (.error (.unavailable credential why)))).effect c s = s.ruleOut i why from rfl,
            ChainState.reason?_ruleOut] at h
          split_ifs at h with hk
          · cases h
            subst hk
            exact .inr ⟨ticket, f, credential, rfl⟩
          · exact .inl h
        | unauthorized | timeout | service | network | aggregate | config | json | io =>
          exact .inl h
    | crash | look | note | step | wait => exact .inl h
  | arriving | knocking | entering | queued | quitting | admitted | yielding | skipping | closing
  | asking | ended | lost => exact .inl h

/-- **What is ruled out** was noted in the run, if nothing was ruled out when it began. -/
theorem noted_of_reason? {s s' : Calls ρ} (h : c.pact.Holds s)
    (blank : ∀ k, s.world.state.chain.reason? k = none) {l : List (Event ρ)} (run : c.Run s l s')
    {k : Nat} {reason : String} (hk : s'.world.state.chain.reason? k = some reason) :
    ∃ credential, Noted c s l k (.error (.unavailable credential reason)) := by
  induction run with
  | nil =>
    rw [blank] at hk
    cases hk
  | @snoc s₁ s₂ m l before step ih =>
    have holds := Pact.holds_of_reaches c.pact_kept h before.reaches
    have keeps : s₁.world.state.chain.reason? k = some reason →
        ∃ credential, Noted c s (l ++ [⟨m, s₁, s₂⟩]) k (.error (.unavailable credential reason)) :=
        fun hk =>
      have ⟨credential, noted⟩ := ih hk
      ⟨credential, noted.append _⟩
    cases step with
    | call free => exact keeps hk
    | @go _ id x w t here next =>
      rw [(holds.caller here).1] at next
      rw [Crowd.put_world, (next?_task next).2] at hk
      rcases of_reason?_effect hk with before' | ⟨ticket, f, credential, hp⟩
      · exact keeps before'
      · exact ⟨credential, noted_of_go before here hp⟩
    | @drop _ id x w here dropped =>
      rw [(holds.caller here).1] at dropped
      rw [Crowd.put_world, drop?_task dropped, reason?_release] at hk
      exact keeps hk
    | @around _ w hw =>
      cases hw with
      | beside hw =>
        rw [show w.state.chain = s₁.world.state.chain from hw] at hk
        exact keeps hk
      | reset =>
        rw [run_reset] at hk
        cases hk

/-! ### The result -/

/-- **What holds after a reset** that has led to the given state. -/
structure Renews (c : Chain ρ) (s : Calls ρ) : Prop where
  /-- Nothing is selected and nothing is ruled out. -/
  blank : s.world.state.chain.selected = none ∧ ∀ k, s.world.state.chain.reason? k = none
  /-- What is selected later was noted by a scan that began after the reset, unless it was going on
  then. -/
  selected : ∀ {l : List (Event ρ)} {s' : Calls ρ} {k : Nat}, c.Run s l s' →
    s'.world.state.chain.selected = some k → ∃ token, Noted c s l k (.ok token)
  /-- So was what is ruled out later. -/
  ruledOut : ∀ {l : List (Event ρ)} {s' : Calls ρ} {k : Nat} {reason : String}, c.Run s l s' →
    s'.world.state.chain.reason? k = some reason →
    ∃ credential, Noted c s l k (.error (.unavailable credential reason))
  /-- If no scan was going on at the reset, the next call whose turn comes scans, with nothing
  selected and nothing to skip. -/
  rescans : (∀ {id : Nat} {x : Call ρ}, s.callers id = some x → (c.position x).inLoop = false) →
    ∀ {l : List (Event ρ)} {s' s'' : Calls ρ} {id t : Nat} {x : Call ρ}, c.Run s l s' →
    (∀ id x, ¬ Began c l id x) →
      s'.callers id = some x → c.position x = .admitted t →
      Crowd.Step c.getToken c.Around (.go id) s' s'' →
      (∃ y, s''.callers id = some y ∧ c.position y = .scanning t 0 .empty) ∧
        s''.world.state.chain.selected = none ∧ ∀ k, s''.world.state.chain.reason? k = none

/-- **After a reset**, at whatever time, all that the chain knows is found out anew, as long as no
scan was going on. -/
theorem renewal_of_reset (c : Chain ρ) {w : World (Shared ρ)}
    (start : w.state.chain = .initial) {s : Calls ρ}
    (reaches : Crowd.Reaches c.getToken c.Around (.empty w) s) : c.Renews (c.afterReset s) := by
  have holds : c.pact.Holds s :=
    Pact.holds_of_reaches c.pact_kept (Pact.holds_empty (sound_of_initial start)) reaches
  have holds₁ := Pact.holds_of_step c.pact_kept holds (.around .reset)
  have blank : (c.reset.run s.world).1.state.chain.selected = none ∧
      ∀ k, (c.reset.run s.world).1.state.chain.reason? k = none := by
    rw [run_reset]
    exact ⟨rfl, fun k => rfl⟩
  refine ⟨blank, fun run => noted_of_selected holds₁ blank.1 run,
    fun run => noted_of_reason? holds₁ blank.2 run, ?_⟩
  intro resting l s' s'' id t x run unscanned hx at_ step
  -- Whatever was noted would have been noted by a scan, and there was none.
  have not_noted :
      ∀ {k : Nat} {answer : Except Error Token}, ¬ Noted c (c.afterReset s) l k answer := by
    rintro k answer ⟨l₁, e, l₂, id, x, t, f, rfl, -, -, -, began | ⟨y, hy, loop, -⟩⟩
    · exact unscanned id x (began.append _)
    · rw [resting hy] at loop
      cases loop
  have selected : s'.world.state.chain.selected = none := by
    rcases hk : s'.world.state.chain.selected with _ | k
    · rfl
    · obtain ⟨token, noted⟩ := noted_of_selected holds₁ blank.1 run hk
      exact absurd noted not_noted
  have reasons : ∀ k, s'.world.state.chain.reason? k = none := by
    intro k
    rcases hk : s'.world.state.chain.reason? k with _ | reason
    · rfl
    · obtain ⟨credential, noted⟩ := noted_of_reason? holds₁ blank.2 run hk
      exact absurd noted not_noted
  cases step with
  | @go _ _ y w u hy next =>
    rw [hx] at hy
    cases hy
    rw [((Pact.holds_of_reaches c.pact_kept holds₁ run.reaches).caller hx).1, at_] at next
    have same : w.state.chain = s'.world.state.chain := (next?_task next).2
    refine ⟨⟨_, Crowd.callers_put_self .., ?_⟩, ?_⟩
    · rw [position_after, at_, Position.follow, selected]
    · rw [Crowd.put_world, same]
      exact ⟨selected, reasons⟩

theorem renewal_of_reset_twoCalls :
    ∃ s : Calls Unit, Crowd.Reaches absentThenReady.getToken absentThenReady.Around
        (.empty (.initial ⟨0⟩ (.ofCapacity 8) ⟨.initial, ()⟩)) s ∧
      s.world.state.chain.selected = some 1 ∧ s.world.state.chain.reason? 0 = some "not here" ∧
      absentThenReady.Renews (absentThenReady.afterReset s) := by
  have played : Crowd.play? absentThenReady.getToken twoCalls
      (.empty (.initial ⟨0⟩ (.ofCapacity 8) ⟨.initial, ()⟩)) = some _ := rfl
  have reaches : Crowd.Reaches absentThenReady.getToken absentThenReady.Around
      (.empty (.initial ⟨0⟩ (.ofCapacity 8) ⟨.initial, ()⟩)) _ := Crowd.reaches_of_play? played
  exact ⟨_, reaches, rfl, rfl, renewal_of_reset absentThenReady rfl reaches⟩

/-- Two sources, the first of which takes its time before it says that it does not apply. -/
def lateThenReady : Chain Unit :=
  ⟨[⟨"late", .explicit, fun _ => .wait { due := some ⟨5⟩ } fun _ =>
    .done (.error (.unavailable "late" "not here"))⟩,
      ⟨"ready", .explicit, fun _ => .done (.ok ⟨"secret", ⟨0, 0⟩, []⟩)⟩]⟩

/-- The chain while its first scan waits for the first source. -/
def lateAwaited : Calls Unit :=
  Crowd.play lateThenReady.getToken (.call 0 ⟨[], none, 0⟩ :: List.replicate 6 (.go 0))
    (.empty (.initial ⟨0⟩ (.ofCapacity 8) ⟨.initial, ()⟩))

/-- It is reset then, and the time passes for which the first source waits. -/
def lateReset : Calls Unit :=
  { lateAwaited with world := (lateThenReady.afterReset lateAwaited).world.advance ⟨6⟩ }

/-- The scan has heard from both sources. -/
def lateScanned : Calls Unit :=
  Crowd.play lateThenReady.getToken (List.replicate 5 (.go 0)) lateReset

/-- The chain of two calls that have got their tokens. -/
def absentSelected : Calls Unit :=
  Crowd.play absentThenReady.getToken twoCalls
    (.empty (.initial ⟨0⟩ (.ofCapacity 8) ⟨.initial, ()⟩))

/-- It is reset, and a request is cancelled before anybody calls. -/
def absentReset : Calls Unit :=
  { absentSelected with world := (absentThenReady.afterReset absentSelected).world.cancel 2 }

/-- **A scan that goes on across a reset** leaves its marks: it rules out a source and selects
another one, to which the next call goes without a scan. And a call that has been cancelled before
does not scan after a reset either. -/
theorem reset_amid_scan :
    (∃ x y : Call Unit, ∃ s : Calls Unit,
      Crowd.Reaches lateThenReady.getToken lateThenReady.Around
        (.empty (.initial ⟨0⟩ (.ofCapacity 8) ⟨.initial, ()⟩)) lateAwaited ∧
      lateAwaited.callers 0 = some x ∧ (lateThenReady.position x).inLoop = true ∧
      Crowd.Reaches lateThenReady.getToken lateThenReady.Around
        (lateThenReady.afterReset lateAwaited) lateScanned ∧
      lateScanned.callers 1 = none ∧ lateScanned.world.state.chain.selected = some 1 ∧
      lateScanned.world.state.chain.reason? 0 = some "not here" ∧
      Crowd.Reaches lateThenReady.getToken lateThenReady.Around lateScanned s ∧
      s.callers 1 = some y ∧ ((lateThenReady.position y).source?.map Prod.fst) = some 1) ∧
    ∃ x : Call Unit, ∃ s : Calls Unit,
      Crowd.Reaches absentThenReady.getToken absentThenReady.Around
        (.empty (.initial ⟨0⟩ (.ofCapacity 8) ⟨.initial, ()⟩)) absentSelected ∧
      absentSelected.world.state.chain.selected = some 1 ∧
      Crowd.Reaches absentThenReady.getToken absentThenReady.Around
        (absentThenReady.afterReset absentSelected) s ∧
      s.callers 2 = some x ∧ x.rest = .done (.error cancelledError) ∧
      s.world.state.chain.selected = none ∧ s.world.state.chain.reason? 0 = none := by
  constructor
  · have waits :
        Crowd.play? lateThenReady.getToken (.call 0 ⟨[], none, 0⟩ :: List.replicate 6 (.go 0))
        (.empty (.initial ⟨0⟩ (.ofCapacity 8) ⟨.initial, ()⟩)) = some lateAwaited := rfl
    have later : Crowd.Step lateThenReady.getToken lateThenReady.Around .around
        (lateThenReady.afterReset lateAwaited) lateReset := .around (.beside rfl)
    have scans :
        Crowd.play? lateThenReady.getToken (List.replicate 5 (.go 0)) lateReset =
          some lateScanned := rfl
    have asks : Crowd.play? lateThenReady.getToken [.call 1 ⟨[], none, 1⟩, .go 1] lateScanned =
        some _ := rfl
    refine ⟨_, _, _, Crowd.reaches_of_play? waits, rfl, rfl, ?_, rfl, rfl, rfl,
      Crowd.reaches_of_play? asks, rfl, rfl⟩
    exact .head ⟨_, later⟩ (Crowd.reaches_of_play? scans)
  · have selects : Crowd.play? absentThenReady.getToken twoCalls
        (.empty (.initial ⟨0⟩ (.ofCapacity 8) ⟨.initial, ()⟩)) = some absentSelected := rfl
    have cancels : Crowd.Step absentThenReady.getToken absentThenReady.Around .around
        (absentThenReady.afterReset absentSelected) absentReset := .around (.beside rfl)
    have refused :
        Crowd.play? absentThenReady.getToken [.call 2 ⟨[], none, 2⟩, .go 2, .go 2] absentReset =
          some _ := rfl
    exact ⟨_, _, Crowd.reaches_of_play? selects, rfl,
      .head ⟨_, cancels⟩ (Crowd.reaches_of_play? refused), rfl, rfl, rfl, rfl⟩

end TokenChain.Chain
