import TokenChain.Proofs.Chain.Departure

/-! # Whose turn comes next

A call that is cut off gives its ticket back, and with it the lock if it had it. The calls that wait
behind it move up, and each of them gets its turn, as long as those before it go on: the first
ticket is always held by a call that can go on or be dropped (`exists_move_of_isFirst`), a call that
has its turn is over after finitely many steps (`leaves_of_fair`), and nobody overtakes anybody
(`ahead_of_step`). From this follows `served_of_fair` by induction on the number of tickets ahead.

What the others do then is what they would do if the call that was cut off had ended there, as they
know nothing of it but the ticket that it has given back (`Crowd.Twins.reaches`).
`withstands_of_reaches` says all this of every state and every call. -/

namespace TokenChain.Chain

open TokenChain.Task TokenChain.Shared

variable {ρ : Type} {c : Chain ρ}

/-! ### The queue -/

/-- What a step does to the queue: a ticket is taken or given back, or nothing. -/
theorem turns_effect (s : ChainState) (p : Position ρ) :
    (p.effect c s).turns = s.turns ∨ (p.effect c s).turns = s.turns.enter ∨
      ∃ t, (p.effect c s).turns = s.turns.leave t := by
  cases p with
  | entering => exact .inr (.inl rfl)
  | quitting t | yielding t | closing t => exact .inr (.inr ⟨t, rfl⟩)
  | scanning t i f =>
    rw [Position.effect]
    split_ifs <;> exact .inl rfl
  | trying t i f u =>
    cases u with
    | done x =>
      cases x with
      | ok token => exact .inl rfl
      | error e => exact .inl (noteFailure_eq i e s).2.2.1
    | crash => exact .inr (.inr ⟨t, rfl⟩)
    | look | note | step | wait => exact .inl rfl
  | arriving | knocking | queued | admitted | skipping | asking | ended | lost => exact .inl rfl

theorem turns_of_step {m : Crowd.Move Request} {s s' : Calls ρ} (h : c.pact.Holds s)
    (step : Crowd.Step c.getToken c.Around m s s') :
    s'.world.state.chain.turns = s.world.state.chain.turns ∨
      s'.world.state.chain.turns = s.world.state.chain.turns.enter ∨
      ∃ t, s'.world.state.chain.turns = s.world.state.chain.turns.leave t := by
  cases step with
  | call => exact .inl rfl
  | go here next =>
    rw [(h.caller here).1] at next
    rw [Crowd.put_world, (next?_task next).2]
    exact turns_effect ..
  | @drop _ id x w here dropped =>
    rw [(h.caller here).1] at dropped
    rw [Crowd.put_world, drop?_task dropped, Position.release]
    cases (c.position x).ticket? with
    | none => exact .inl rfl
    | some t => exact .inr (.inr ⟨t, rfl⟩)
  | around hw =>
    cases hw with
    | beside hw => exact .inl (congrArg ChainState.turns hw)
    | reset => exact .inl (by rw [run_reset]; rfl)

/-- **Nobody overtakes anybody**: only tickets that were ahead of a ticket before are ahead of it
after a move. -/
theorem ahead_of_step {m : Crowd.Move Request} {s s' : Calls ρ} {a b : List Nat} {t : Nat}
    (h : c.pact.Holds s) (step : Crowd.Step c.getToken c.Around m s s')
    (here : s.world.state.chain.turns.waiting = a ++ t :: b)
    (still : t ∈ s'.world.state.chain.turns.waiting) :
    ∃ a' b', s'.world.state.chain.turns.waiting = a' ++ t :: b' ∧ a'.Sublist a := by
  rcases turns_of_step h step with same | enter | ⟨t', leave⟩
  · exact ⟨a, b, by rw [same, here], List.Sublist.refl a⟩
  · refine ⟨a, b ++ [s.world.state.chain.turns.next], ?_, List.Sublist.refl a⟩
    rw [enter, Turns.enter, here]
    simp
  · have hne : t ≠ t' := by
      rintro rfl
      rw [leave] at still
      exact (mem_leave.mp still).2 rfl
    refine ⟨a.filter (· != t'), b.filter (· != t'), ?_, List.filter_sublist⟩
    rw [leave, Turns.leave, here]
    simp [hne]

/-! ### Nobody is stuck -/

theorem exists_move_of_isFirst {s : Calls ρ} {id t : Nat} {x : Call ρ} (h : c.pact.Holds s)
    (hx : s.callers id = some x) (ticket : (c.position x).ticket? = some t)
    (first : s.world.state.chain.turns.isFirst t = true) :
    ∃ m s', (m = .go id ∨ m = .drop id) ∧ Crowd.Step c.getToken c.Around m s s' := by
  have goes : (∃ w u, ((c.position x).task c x.order).next? s.world = some (w, u)) →
      ∃ m s', (m = .go id ∨ m = .drop id) ∧ Crowd.Step c.getToken c.Around m s s' := by
    rintro ⟨w, u, next⟩
    rw [← (h.caller hx).1] at next
    exact ⟨_, _, .inl rfl, .go hx next⟩
  cases hp : c.position x with
  | queued t' =>
    rw [hp] at goes ticket
    cases ticket
    exact goes (exists_next?_of_isFirst x.order first)
  | yielding t' i =>
    rw [hp] at goes
    exact goes ⟨_, _, rfl⟩
  | quitting | admitted | scanning | skipping | closing =>
    rw [hp] at goes
    exact goes (exists_next?_of_isActive x.order s.world rfl)
  | trying t' i f u =>
    rw [hp] at goes
    cases u with
    | done y => cases y <;> exact goes ⟨_, _, rfl⟩
    | crash | look | note | step => exact goes ⟨_, _, rfl⟩
    | wait v k =>
      obtain ⟨w, dropped⟩ : ∃ w, ((c.position x).task c x.order).drop? s.world = some w := by
        rw [hp]
        exact ⟨_, rfl⟩
      rw [← (h.caller hx).1] at dropped
      exact ⟨_, _, .inr rfl, .drop hx dropped⟩
  | arriving | knocking | entering | asking | ended | lost =>
    rw [hp] at ticket
    cases ticket

/-- Every waiting ticket is held by a call, whether the chain is reset or not. -/
theorem owned_of_reaches_around {s s' : Calls ρ} (owned : c.Owned s) (h : c.pact.Holds s)
    (reaches : Crowd.Reaches c.getToken c.Around s s') : c.Owned s' := by
  induction reaches with
  | refl => exact owned
  | tail before step ih =>
    obtain ⟨m, step⟩ := step
    refine ih.move (fun hx => ((Pact.holds_of_reaches c.pact_kept h before).caller hx).1)
      (fun around => ?_) step
    cases around with
    | beside beside => exact congrArg ChainState.turns beside
    | reset => rw [run_reset]; rfl

/-! ### Everybody gets a turn -/

/-- A run of calls without an end. -/
abbrev Course (c : Chain ρ) := Crowd.Course c.getToken c.Around

/-- **A fair run**: a call that holds a ticket goes on at some time or is dropped, unless it waits
behind others. In particular no source is at work for ever in a scan. -/
def Fair (run : c.Course) : Prop :=
  ∀ {n id t : Nat} {x : Call ρ}, (run.state n).callers id = some x →
    (c.position x).ticket? = some t →
    (c.position x = .queued t → (run.state n).world.state.chain.turns.isFirst t = true) →
    ∃ m, n ≤ m ∧ run.Moves m id

/-- A call that waits with a ticket stops waiting: its turn has come, or it was cut short, or it is
dropped. -/
def Served (run : c.Course) (n id t : Nat) : Prop :=
  ∃ m, n ≤ m ∧ (run.move m = .drop id ∨
    run.move m = .go id ∧ ∃ y, (run.state (m + 1)).callers id = some y ∧
      ((c.position y = .admitted t ∧ (run.state m).world.state.chain.turns.isFirst t = true) ∨
        (∃ e, c.position y = .quitting t e) ∧ CutShort c y.order y.history))

/-- Nor is a ticket overtaken in the course of a run. -/
theorem ahead_of_run {run : c.Course} (h : ∀ n, c.pact.Holds (run.state n)) {n m t : Nat}
    {a b : List Nat} (le : n ≤ m)
    (here : (run.state n).world.state.chain.turns.waiting = a ++ t :: b)
    (still : ∀ k, n ≤ k → k ≤ m → t ∈ (run.state k).world.state.chain.turns.waiting) :
    ∃ a' b', (run.state m).world.state.chain.turns.waiting = a' ++ t :: b' ∧ a'.Sublist a := by
  induction le with
  | refl => exact ⟨a, b, here, List.Sublist.refl a⟩
  | @step m le ih =>
    obtain ⟨a', b', here', sub⟩ := ih fun k hn hm => still k hn (Nat.le_succ_of_le hm)
    obtain ⟨a'', b'', here'', sub'⟩ :=
      ahead_of_step (h m) (run.step m) here' (still _ (Nat.le_succ_of_le le) le_rfl)
    exact ⟨a'', b'', here'', sub'.trans sub⟩

/-- The number of stages that a call with a ticket has before it, at most. -/
def Position.stages (n : Nat) : Position ρ → Nat
  | queued _ => 2 * n + 4
  | admitted _ => 2 * n + 3
  | scanning _ i _ => 2 * (n - i) + 2
  | skipping _ i _ _ | trying _ i _ _ => 2 * (n - i) + 1
  | _ => 1

section Fairness
variable {run : c.Course}

theorem valid_of_skipping {r : Request} {h : History (Shared ρ)} {t i : Nat}
    {f : Findings} {reason : String} (at_ : Position.of c r h = .skipping t i f reason) :
    i < c.sources.length := by
  rcases List.eq_nil_or_concat h with rfl | ⟨h, ⟨w, w'⟩, rfl⟩
  · cases at_
  · rw [List.concat_eq_append, Position.of_snoc] at at_
    have leads := next_follow (c := c) (r := r) (w := w) (Position.of c r h)
    rw [at_] at leads
    generalize Position.of c r h = p at leads
    cases leads with
    | skip valid => exact valid

/-- **The next move** of a call with a ticket: its ticket is gone after it, or the call has taken
the step of its position. -/
theorem gone_or_next (h : ∀ n, c.pact.Holds (run.state n)) (fair : c.Fair run)
    {n id t : Nat} {x : Call ρ} (hx : (run.state n).callers id = some x)
    (ticket : (c.position x).ticket? = some t)
    (front : c.position x = .queued t → (run.state n).world.state.chain.turns.isFirst t = true) :
    ∃ m, n ≤ m ∧ (t ∉ (run.state (m + 1)).world.state.chain.turns.waiting ∨
      ∃ w u, ((c.position x).task c x.order).next? (run.state m).world = some (w, u) ∧
        (run.state (m + 1)).callers id = some (x.after (run.state m).world w u) ∧
        (run.state (m + 1)).world.state.chain =
          (c.position x).effect c (run.state m).world.state.chain) := by
  obtain ⟨m, hm, moves⟩ := fair hx ticket front
  obtain ⟨m, hm, hx, moves⟩ := run.first_move hm hx moves
  refine ⟨m, hm, ?_⟩
  have step := run.step m
  rcases moves with move | move
  · rw [move] at step
    generalize run.state (m + 1) = s' at step ⊢
    cases step with
    | @go _ _ y w u hy next =>
      rw [hx] at hy
      cases hy
      rw [((h m).caller hx).1] at next
      exact .inr ⟨w, u, next, Crowd.callers_put_self .., (next?_task next).2⟩
  · left
    rw [(release_of_cutsOff (h m) ⟨x, hx, .inr (.inl ⟨move, ticket⟩)⟩ step).chain]
    exact fun ht => (mem_leave.mp ht).2 rfl

/-- **A source at work comes to its end**, by induction on what it has left to do; then the scan
goes on or is over. -/
theorem hears_of_fair (h : ∀ n, c.pact.Holds (run.state n)) (fair : c.Fair run)
    {id t i : Nat} {f : Findings} (u : Task ρ (Except Error Token)) :
    ∀ {n : Nat} {x : Call ρ}, (run.state n).callers id = some x →
      c.position x = .trying t i f u →
      ∃ m, n ≤ m ∧ (t ∉ (run.state m).world.state.chain.turns.waiting ∨
        ∃ y, (run.state m).callers id = some y ∧
          ((∃ f', c.position y = .scanning t (i + 1) f') ∨
            ∃ source? v, c.position y = .closing t source? v)) := by
  have moves :
      ∀ {n : Nat} {x : Call ρ} {u : Task ρ (Except Error Token)},
      (run.state n).callers id = some x → c.position x = .trying t i f u → _ := fun hx hp =>
    gone_or_next h fair hx (t := t) (by rw [hp]; rfl) (by rw [hp]; exact nofun)
  -- What a step leads to from which the source goes on.
  have goesOn :
      ∀ {n m : Nat} {P : Nat → Prop}, n ≤ m → (∃ m', m + 1 ≤ m' ∧ P m') → ∃ m', n ≤ m' ∧ P m' :=
    fun hm ⟨m', hm', hP⟩ => ⟨m', by omega, hP⟩
  induction u with
  | done v =>
    intro n x hx hp
    obtain ⟨m, hm, gone | ⟨w, u', next, hy, -⟩⟩ := moves hx hp
    · exact ⟨m + 1, by omega, .inl gone⟩
    · have at_ := position_after c x (run.state m).world w u'
      rw [hp] at at_
      cases v with
      | ok token => exact ⟨m + 1, by omega, .inr ⟨_, hy, .inr ⟨_, _, at_⟩⟩⟩
      | error e => exact ⟨m + 1, by omega, .inr ⟨_, hy, .inl ⟨_, at_⟩⟩⟩
  | crash =>
    intro n x hx hp
    obtain ⟨m, hm, gone | ⟨w, u', -, -, chain⟩⟩ := moves hx hp
    · exact ⟨m + 1, by omega, .inl gone⟩
    · refine ⟨m + 1, by omega, .inl ?_⟩
      rw [chain, hp]
      exact fun ht => (mem_leave.mp ht).2 rfl
  | look k ih =>
    intro n x hx hp
    obtain ⟨m, hm, gone | ⟨w, u', next, hy, -⟩⟩ := moves hx hp
    · exact ⟨m + 1, by omega, .inl gone⟩
    · exact goesOn hm (ih _ hy (by rw [position_after, hp]; rfl))
  | note l k ih =>
    intro n x hx hp
    obtain ⟨m, hm, gone | ⟨w, u', next, hy, -⟩⟩ := moves hx hp
    · exact ⟨m + 1, by omega, .inl gone⟩
    · exact goesOn hm (ih hy (by rw [position_after, hp]; rfl))
  | step g k ih =>
    intro n x hx hp
    obtain ⟨m, hm, gone | ⟨w, u', next, hy, -⟩⟩ := moves hx hp
    · exact ⟨m + 1, by omega, .inl gone⟩
    · exact goesOn hm (ih _ hy (by rw [position_after, hp]; rfl))
  | wait v k ih =>
    intro n x hx hp
    obtain ⟨m, hm, gone | ⟨w, u', next, hy, -⟩⟩ := moves hx hp
    · exact ⟨m + 1, by omega, .inl gone⟩
    · rw [hp] at next
      have at_ := position_after c x (run.state m).world w u'
      rw [hp] at at_
      rcases outside_next?_trying next with ⟨wakes, follows⟩ | ⟨-, ended⟩
      · obtain ⟨y, -, he⟩ := Option.map_eq_some_iff.mp wakes
        rw [follows, ← (Prod.mk.inj he).2] at at_
        exact goesOn hm (ih y hy at_)
      · cases ended

/-- **A call that has its turn**, or the first ticket, is over at some time; the induction is on the
stages before it. -/
theorem leaves_of_fair (h : ∀ n, c.pact.Holds (run.state n)) (fair : c.Fair run) {id t : Nat} :
    ∀ (k : Nat) {n : Nat}
    {x : Call ρ}, (run.state n).callers id = some x → (c.position x).ticket? = some t →
    (c.position x = .queued t → (run.state n).world.state.chain.turns.isFirst t = true) →
    (c.position x).stages c.sources.length ≤ k →
    ∃ m, n ≤ m ∧ t ∉ (run.state m).world.state.chain.turns.waiting
  | k, n, x, hx, ticket, front, bound => by
    -- A later state of the call, with fewer stages before it.
    have onward : ∀ {m : Nat} {y : Call ρ}, n ≤ m → (run.state m).callers id = some y →
        (c.position y).ticket? = some t → (∀ t', c.position y ≠ .queued t') →
        (c.position y).stages c.sources.length < (c.position x).stages c.sources.length →
        ∃ m, n ≤ m ∧ t ∉ (run.state m).world.state.chain.turns.waiting := by
      intro m y hm hy ticket' unqueued less
      cases k with
      | zero => omega
      | succ k =>
        obtain ⟨m', hm', gone⟩ :=
          leaves_of_fair h fair k hy ticket' (fun hq => absurd hq (unqueued t)) (by omega)
        exact ⟨m', hm.trans hm', gone⟩
    by_cases trying : ∃ i f u, c.position x = .trying t i f u
    · obtain ⟨i, f, u, hp⟩ := trying
      have valid : i < c.sources.length := by
        have fits := ((h n).caller hx).2
        rw [hp] at fits
        exact fits.scan.2.2.2
      obtain ⟨m, hm, gone | ⟨y, hy, ⟨f', hq⟩ | ⟨source?, v, hq⟩⟩⟩ := hears_of_fair h fair u hx hp
      · exact ⟨m, hm, gone⟩
      · exact onward hm hy (by rw [hq]; rfl) (by rw [hq]; rintro _ ⟨⟩)
          (by rw [hq, hp]; simp [Position.stages]; omega)
      · exact onward hm hy (by rw [hq]; rfl) (by rw [hq]; rintro _ ⟨⟩)
          (by rw [hq, hp]; simp [Position.stages]; omega)
    · obtain ⟨m, hm, gone | ⟨w, u, -, hy, chain⟩⟩ := gone_or_next h fair hx ticket front
      · exact ⟨m + 1, by omega, gone⟩
      · have leads := next_follow (c := c) (r := x.order) (w := (run.state m).world) (c.position x)
        rw [← position_after c x (run.state m).world w u] at leads
        have skipped :
            ∀ t i f reason, c.position x = .skipping t i f reason → i < c.sources.length :=
          fun _ _ _ _ hp => valid_of_skipping hp
        specialize @onward (m + 1) _ (by omega) hy
        generalize c.position (x.after (run.state m).world w u) = q at leads onward
        generalize c.position x = p at *
        cases leads with
        | quit | askAfter | missAfter | close =>
          cases ticket
          refine ⟨m + 1, by omega, ?_⟩
          rw [chain]
          exact fun ht => (mem_leave.mp ht).2 rfl
        | cancel | expire | yield | exhaust =>
          exact onward ticket (by rintro _ ⟨⟩) (by simp [Position.stages])
        | advance | scan => exact onward ticket (by rintro _ ⟨⟩) (by simp [Position.stages])
        | skip valid | attempt valid =>
          exact onward ticket (by rintro _ ⟨⟩) (by simp [Position.stages])
        | goOn =>
          have valid := skipped _ _ _ _ rfl
          exact onward ticket (by rintro _ ⟨⟩) (by simp only [Position.stages]; omega)
        | win | fail | breakDown | work =>
          cases ticket
          exact absurd ⟨_, _, _, rfl⟩ trying
        | ask | miss | knock | refuse | enter | queue | answer | stay | gone => cases ticket

/-- A call that waits stops waiting with its next move. -/
theorem served_of_moves (h : ∀ n, c.pact.Holds (run.state n)) {n id t : Nat} {x : Call ρ}
    (hx : (run.state n).callers id = some x) (waits : c.position x = .queued t)
    (moves : run.Moves n id) : c.Served run n id t := by
  rcases moves with move | move
  · refine ⟨n, le_rfl, .inr ⟨move, ?_⟩⟩
    have step := run.step n
    rw [move] at step
    generalize run.state (n + 1) = s' at step ⊢
    cases step with
    | @go _ _ y w u hy next =>
      rw [hx] at hy
      cases hy
      rw [((h n).caller hx).1, waits] at next
      refine ⟨_, Crowd.callers_put_self .., ?_⟩
      have leads := next_follow (c := c) (r := x.order) (w := (run.state n).world) (c.position x)
      rw [← position_after c x (run.state n).world w u, waits] at leads
      have short : (run.state n).world.cancelled x.order.cancel = true ∨
          x.order.deadline.any (fun d => decide (d ≤ (run.state n).world.now)) = true →
          CutShort c x.order (x.history ++ [((run.state n).world, w)]) :=
        cutShort_snoc w (by rw [show Position.of c x.order x.history = .queued t from waits]; rfl)
      generalize c.position (x.after (run.state n).world w u) = q at leads
      cases leads with
      | cancel cancelled => exact .inr ⟨⟨_, rfl⟩, short (.inl cancelled)⟩
      | advance first => exact .inl ⟨rfl, first⟩
      | expire late =>
        refine .inr ⟨⟨_, rfl⟩, short ?_⟩
        cases alive : (run.state n).world.cancelled x.order.cancel with
        | true => exact .inl rfl
        | false => exact .inr (late_of_next? next alive late)
  · exact ⟨n, le_rfl, .inl move⟩

/-- **Every call that waits is served**, by induction on the number of tickets ahead of it. -/
theorem served_of_fair (h : ∀ n, c.pact.Holds (run.state n)) (owned : ∀ n, c.Owned (run.state n))
    (fair : c.Fair run) {id t : Nat} {x : Call ρ} (waits : c.position x = .queued t) :
    ∀ (k : Nat) {n : Nat} {a b : List Nat}, (run.state n).callers id = some x →
      (run.state n).world.state.chain.turns.waiting = a ++ t :: b → a.length ≤ k →
    c.Served run n id t
  | k, n, [], b, hx, here, bound => by
    have first : (run.state n).world.state.chain.turns.isFirst t = true := by
      simp [Turns.isFirst, here]
    obtain ⟨m, hm, moves⟩ := fair hx (t := t) (by rw [waits]; rfl) fun _ => first
    obtain ⟨m, hm, hx, moves⟩ := run.first_move hm hx moves
    obtain ⟨m', hm', served⟩ := served_of_moves h hx waits moves
    exact ⟨m', hm.trans hm', served⟩
  | k, n, t₀ :: a, b, hx, here, bound => by
    have first : (run.state n).world.state.chain.turns.isFirst t₀ = true := by
      simp [Turns.isFirst, here]
    have ht₀ : t₀ ∈ (run.state n).world.state.chain.turns.waiting := by simp [here]
    obtain ⟨id₀, y, hy, ticket₀⟩ := owned n t₀ ht₀
    obtain ⟨m, hm, gone⟩ := leaves_of_fair h fair _ hy ticket₀ (fun _ => first) le_rfl
    by_cases stays : ∀ m', n ≤ m' → m' ≤ m → (run.state m').callers id = some x
    · obtain ⟨a', b', here', sub⟩ := ahead_of_run h hm here fun m' hn hm' =>
        ((h m').caller (stays m' hn hm')).2.waits t (by rw [waits]; rfl)
      have hne : t₀ ∉ a' := fun mem => gone (by rw [here']; exact List.mem_append_left _ mem)
      have shorter : a'.length < (t₀ :: a).length := by
        refine Nat.lt_of_le_of_ne sub.length_le fun same => hne ?_
        rw [sub.eq_of_length same]
        exact List.mem_cons_self
      cases k with
      | zero => exact absurd bound (by simp)
      | succ k =>
        obtain ⟨m', hm', served⟩ :=
          served_of_fair h owned fair waits k (stays m hm le_rfl) here' (by omega)
        exact ⟨m', hm.trans hm', served⟩
    · push Not at stays
      obtain ⟨m', hn, -, left⟩ := stays
      rcases run.moves_or_stays hn hx with ⟨m', hm', -, hx', moves⟩ | hx'
      · obtain ⟨m'', hm'', served⟩ := served_of_moves h hx' waits moves
        exact ⟨m'', hm'.trans hm'', served⟩
      · exact absurd hx' left

end Fairness

/-! ### The result -/

/-- **What the others have** when a call has been cut off. -/
structure Succeeds (c : Chain ρ) (s : Calls ρ) (id : Nat) : Prop where
  /-- At any later time the first ticket is held by a call that can go on or be dropped. -/
  unblocked : ∀ {s' : Calls ρ} {t : Nat}, Crowd.Reaches c.getToken c.Around s s' →
    s'.world.state.chain.turns.isFirst t = true → ∃ i x m s'', s'.callers i = some x ∧
      (c.position x).ticket? = some t ∧ (m = .go i ∨ m = .drop i) ∧
      Crowd.Step c.getToken c.Around m s' s''
  /-- Whoever waits, now or later, gets a turn. -/
  served : ∀ {run : c.Course}, run.state 0 = s → c.Fair run → ∀ {n i t : Nat} {x : Call ρ},
    (run.state n).callers i = some x → c.position x = .queued t → c.Served run n i t
  /-- The others do what they would do if the call had ended here, with whatever result. -/
  alike : ∀ {x : Call ρ}, x.IsOver →
    (∀ {s₁}, Crowd.ReachesWithout c.getToken c.Around id s s₁ →
      ∃ s₂, Crowd.Reaches c.getToken c.Around (s.put s.world id (some x)) s₂ ∧
      Crowd.Twins id s₁ s₂) ∧
    ∀ {s₂}, Crowd.Reaches c.getToken c.Around (s.put s.world id (some x)) s₂ →
      ∃ s₁, Crowd.ReachesWithout c.getToken c.Around id s s₁ ∧ Crowd.Twins id s₂ s₁

/-- **What holds of calls that are cut off**, in a state. -/
structure Withstands (c : Chain ρ) (s : Calls ρ) : Prop where
  /-- A call that waits has not had its turn. -/
  waiting : ∀ {id : Nat} {x : Call ρ}, s.callers id = some x → (c.position x).isPending = true →
    Turnless c x.order x.history
  /-- A call that has not had its turn has called nobody and touched nothing, and if it is over, it
  was cut short. -/
  turnless : ∀ {id : Nat} {x : Call ρ}, s.callers id = some x → Turnless c x.order x.history →
    (∀ i, ¬ Called c x.order x.history i) ∧ (∀ w w', (w, w') ∈ x.history → Untouched w w') ∧
      ∀ v, x.rest = .done v → CutShort c x.order x.history ∧
      ∃ message, v = .error (.timeout credential message)
  /-- If it is cut off, this touches nothing either. -/
  departs : ∀ {m : Crowd.Move Request} {s' : Calls ρ} {id t : Nat} {x : Call ρ},
    s.callers id = some x → Turnless c x.order x.history → c.CutsOff m s id t →
    Crowd.Step c.getToken c.Around m s s' → Untouched s.world s'.world ∧
    ∀ y, s'.callers id = some y → Turnless c y.order y.history
  /-- A call that is cut off in the middle of its scan has ruled out what it has heard not to apply,
  and no more. -/
  breaksOff : ∀ {m : Crowd.Move Request} {s' : Calls ρ} {id t : Nat} {x : Call ρ},
    s.callers id = some x → (c.position x).inLoop = true → c.CutsOff m s id t →
    Crowd.Step c.getToken c.Around m s s' → ∃ began, ScansSince c x began ∧
    Modest c x began s'.world.state.chain
  /-- In both cases its ticket is given back, and the others go on. -/
  releases : ∀ {m : Crowd.Move Request} {s' : Calls ρ} {id t : Nat}, c.CutsOff m s id t →
    Crowd.Step c.getToken c.Around m s s' → Releases s s' id t ∧ c.Succeeds s' id

theorem Modest.leave {x : Call ρ} {began s : ChainState} (h : Modest c x began s) (t : Nat) :
    Modest c x began (s.leave t) :=
  ⟨h.selected, h.lastScan, h.ruledOut⟩

/-- A call that is cut off before its turn touches nothing. -/
theorem untouched_of_cutsOff {m : Crowd.Move Request} {s s' : Calls ρ} {id t : Nat} {x : Call ρ}
    (h : c.pact.Holds s) (hx : s.callers id = some x) (turnless : Turnless c x.order x.history)
    (cut : c.CutsOff m s id t) (step : Crowd.Step c.getToken c.Around m s s') :
    Untouched s.world s'.world ∧ ∀ y, s'.callers id = some y → Turnless c y.order y.history := by
  obtain ⟨y, hy, ⟨rfl, e, hp⟩ | ⟨rfl, hp⟩ | ⟨rfl, i, f, hp⟩⟩ := cut
  all_goals
    rw [hx] at hy
    cases hy
  · cases step with
    | @go _ _ y w u hy next =>
      rw [hx] at hy
      cases hy
      rw [(h.caller hx).1] at next
      refine ⟨untouched_of_isTurnless turnless.last next, fun z hz => ?_⟩
      rw [Crowd.callers_put_self] at hz
      cases hz
      exact turnless.snoc (by rw [Position.of_snoc, show Position.of c x.order x.history =
        .quitting t e from hp]; rfl)
  · cases step with
    | @drop _ _ y w hy dropped =>
      rw [hx] at hy
      cases hy
      refine ⟨?_, fun z hz => ?_⟩
      · rw [(h.caller hx).1] at dropped
        have last : (c.position x).isTurnless = true := turnless.last
        generalize c.position x = p at *
        cases p with
        | queued =>
          cases dropped
          exact ⟨rfl, rfl, rfl, rfl, rfl⟩
        | arriving | knocking | entering | quitting | ended => cases dropped
        | admitted | yielding | scanning | skipping | trying | closing | asking | lost => cases last
      · rw [Crowd.callers_put_self] at hz
        cases hz
  · have last : (c.position x).isTurnless = true := turnless.last
    rw [hp] at last
    cases last

/-- **The others go on** in every state, whether a call is cut off there or not. -/
theorem succeeds_of_holds {s : Calls ρ} (h : c.pact.Holds s) (owned : c.Owned s) (id : Nat) :
    c.Succeeds s id where
  unblocked {s₁ t₁} reaches first := by
    have holds := Pact.holds_of_reaches c.pact_kept h reaches
    have mem : t₁ ∈ s₁.world.state.chain.turns.waiting :=
      List.mem_of_head? (by simpa [Turns.isFirst] using first)
    obtain ⟨i, x, hx, ticket⟩ := owned_of_reaches_around owned h reaches t₁ mem
    obtain ⟨m, s₂, hm, step⟩ := exists_move_of_isFirst holds hx ticket first
    exact ⟨i, x, m, s₂, hx, ticket, hm, step⟩
  served {run} start fair {n i t₁ x} hx waits := by
    have reaches : ∀ n, Crowd.Reaches c.getToken c.Around s (run.state n) := fun n =>
      start ▸ run.reaches (Nat.zero_le n)
    have holds := fun n => Pact.holds_of_reaches c.pact_kept h (reaches n)
    obtain ⟨a, b, here⟩ :=
      List.append_of_mem (((holds n).caller hx).2.waits t₁ (by rw [waits]; rfl))
    exact served_of_fair holds (fun n => owned_of_reaches_around owned h (reaches n)) fair
      waits _ hx here le_rfl
  alike {x} isOver := by
    have twins : Crowd.Twins id s (s.put s.world id (some x)) :=
      ⟨rfl, fun j hne => (Crowd.callers_put_of_ne hne ..).symm⟩
    refine ⟨fun reaches => ?_, fun reaches => ?_⟩
    · obtain ⟨s₂, reaches', twins'⟩ := twins.reaches reaches
      exact ⟨s₂, reaches'.reaches, twins'⟩
    · exact twins.symm.reaches
        (Crowd.reachesWithout_of_isOver (Crowd.callers_put_self ..) isOver reaches)

/-- **Calls that are cut off**: whatever the order of the steps and whenever the chain is reset, a
call that stops waiting for its turn leaves no trace, one that is cut off in its scan leaves only
what it has heard, and in both cases the others go on as if it had ended. -/
theorem withstands_of_reaches (c : Chain ρ) {w : World (Shared ρ)}
    (start : w.state.chain = .initial) {s : Calls ρ}
    (reaches : Crowd.Reaches c.getToken c.Around (.empty w) s) : c.Withstands s := by
  have sound : Sound c w.state.chain := sound_of_initial start
  have holds : c.modestPact.Holds s :=
    Pact.holds_of_reaches c.modestPact_kept (Pact.holds_empty sound) reaches
  have led := fun {id : Nat} {x : Call ρ} (hx : s.callers id = some x) =>
      Crowd.leads_of_reaches reaches hx
  have owned : c.Owned s := by
    refine owned_of_reaches_around (fun t ht => ?_) (Pact.holds_empty sound) reaches
    rw [show (Crowd.empty w : Calls ρ).world.state.chain = .initial from start] at ht
    cases ht
  refine ⟨fun _ pending => turnless_of_isPending pending,
    fun hx turnless => ⟨turnless.not_called, fun w w' mem => ?_, fun v ended => ?_⟩,
    fun hx turnless => untouched_of_cutsOff holds.of_also hx turnless, ?_, fun cut step => ?_⟩
  · exact untouched_of_turnless (led hx) turnless mem
  · exact cutShort_of_turnless (ended ▸ led hx) turnless
  · intro m s' id t x hx loop cut step
    obtain ⟨began, since, modest⟩ := (holds.caller hx).2 loop
    rw [(release_of_cutsOff holds.of_also cut step).chain]
    exact ⟨began, since, modest.leave t⟩
  · have releases := release_of_cutsOff holds.of_also cut step
    exact ⟨releases, succeeds_of_holds (Pact.holds_of_step c.pact_kept holds.of_also step)
      (owned_of_reaches_around owned holds.of_also (.single ⟨_, step⟩)) _⟩

/-- The chain while its first scan waits for the first source, and another call waits for its
turn. -/
def lateCrowded : Calls Unit :=
  Crowd.play lateThenReady.getToken (.call 1 ⟨[], none, 1⟩ :: List.replicate 3 (.go 1)) lateAwaited

/-- The scan is dropped. -/
def lateDropped : Calls Unit := Crowd.play lateThenReady.getToken [.drop 0] lateCrowded

theorem withstands_of_reaches_lateCrowded :
    ∃ y z : Call Unit, ∃ s : Calls Unit,
      Crowd.Reaches lateThenReady.getToken lateThenReady.Around
        (.empty (.initial ⟨0⟩ (.ofCapacity 8) ⟨.initial, ()⟩)) lateCrowded ∧
      lateThenReady.Withstands lateCrowded ∧ lateThenReady.CutsOff (.drop 0) lateCrowded 0 0 ∧
      Crowd.Step lateThenReady.getToken lateThenReady.Around (.drop 0) lateCrowded lateDropped ∧
      lateDropped.callers 1 = some y ∧ lateThenReady.position y = .queued 1 ∧
      lateThenReady.Succeeds lateDropped 0 ∧
      Crowd.Reaches lateThenReady.getToken lateThenReady.Around lateDropped s ∧
      s.callers 1 = some z ∧ lateThenReady.position z = .admitted 1 := by
  have scans :
      Crowd.play? lateThenReady.getToken (.call 0 ⟨[], none, 0⟩ :: List.replicate 6 (.go 0))
      (.empty (.initial ⟨0⟩ (.ofCapacity 8) ⟨.initial, ()⟩)) = some lateAwaited := rfl
  have waits :
      Crowd.play? lateThenReady.getToken (.call 1 ⟨[], none, 1⟩ :: List.replicate 3 (.go 1))
        lateAwaited = some lateCrowded := rfl
  have goesOn : Crowd.play? lateThenReady.getToken [.go 1] lateDropped = some _ := rfl
  have reaches : Crowd.Reaches lateThenReady.getToken lateThenReady.Around
      (.empty (.initial ⟨0⟩ (.ofCapacity 8) ⟨.initial, ()⟩)) lateCrowded :=
    (Crowd.reaches_of_play? scans).trans (Crowd.reaches_of_play? waits)
  have withstands := withstands_of_reaches lateThenReady rfl reaches
  have cut : lateThenReady.CutsOff (.drop 0) lateCrowded 0 0 := ⟨_, rfl, .inr (.inl ⟨rfl, rfl⟩)⟩
  have step : Crowd.Step lateThenReady.getToken lateThenReady.Around
      (.drop 0) lateCrowded lateDropped :=
    Crowd.step_of_move? rfl
  exact ⟨_, _, _, reaches, withstands, cut, step, rfl, rfl, (withstands.releases cut step).2,
    Crowd.reaches_of_play? goesOn, rfl, rfl⟩

end TokenChain.Chain
