import TokenChain.Proofs.Schedule.Chronicle
import TokenChain.Proofs.Source.Limits

/-! # The attempts of a call

A call of a chain, or of one of its members, sends every message in an attempt of a member that is
over in time (`attends_of_calls`), for all that a chain does besides is to look after its own state.
In a schedule, where the clock does not run beyond an alarm, this says of each message that is sent
on behalf of a call, whoever else is at work: its attempt has ended in time; or it lasts still, is
not late, and something can still happen; or the call was aborted in time
(`Schedule.timely_of_chronicle`). -/

namespace TokenChain

open TokenChain.Task TokenChain.Shared TokenChain.Chain

variable {ms : List Member} {r : Request} {past : History Surroundings}

/-- What is laid down for the attempts of a call of several members. -/
def Member.anyTerms (ms : List Member) (r : Request) : Terms :=
  fun past msg a b late => ∃ m ∈ ms, m.terms r past msg a b late

/-- A call of a chain of the members, or of one of them. -/
inductive Member.Calls (ms : List Member) (r : Request) :
    Task (Shared Surroundings) (Except Error Token) → Prop
  | chain : Calls ms r (getToken ⟨ms.map source⟩ r)
  | direct {m : Member} (mem : m ∈ ms) : Calls ms r (Shared.lift (m.source.getToken r))

namespace Chain

/-- What a chain does by itself sends nothing. -/
theorem attends_of_beside {α : Type} {A : Terms} {t : Task (Shared Surroundings) α}
    (beside : t.Spends (fun _ a b => b.sources = a.sources) 0) : t.Attends Shared.sources A :=
  attends_of_spends (fun _ => rfl) (fun same => by rw [same]) beside

theorem attends_lift {m : Member} (mem : m ∈ ms) (r : Request) (past : History Surroundings) :
    (Shared.lift (m.source.getToken r)).Attends Shared.sources
      ((Member.anyTerms ms r).after past) :=
  ((m.attends_getToken r past).zoom (fun _ => rfl) fun _ _ => rfl).mono
    fun begins => ⟨m, mem, begins⟩

theorem attends_step {α : Type} {f : Shared Surroundings → Shared Surroundings}
    {k : Shared Surroundings → Task (Shared Surroundings) α}
    (beside : ∀ s, (f s).sources = s.sources)
    (rest : ∀ s past, (k s).Attends Shared.sources ((Member.anyTerms ms r).after past)) :
    (Task.step f k).Attends Shared.sources ((Member.anyTerms ms r).after past) := by
  refine .of_next fun {w w' u} next => ?_
  cases next
  refine ⟨congrArg (fun a : Surroundings => a.wire.sent) (beside w.state), ?_⟩
  rw [Terms.after_after]
  exact rest w.state _

theorem attends_bind {α β : Type} {t : Task (Shared Surroundings) α}
    {g : α → Task (Shared Surroundings) β}
    (attends : t.Attends Shared.sources ((Member.anyTerms ms r).after past))
    (rest : ∀ a past, (g a).Attends Shared.sources ((Member.anyTerms ms r).after past)) :
    (t.bind g).Attends Shared.sources ((Member.anyTerms ms r).after past) := by
  refine attends.bind fun {a h} _ => ?_
  rw [Terms.after_after]
  exact rest a _

/-- **A scan** of some of the members. -/
theorem attends_scanFrom :
    ∀ {left : List Member} {i : Nat} {f : Findings} {past : History Surroundings},
      (∀ m ∈ left, m ∈ ms) →
    (scanFrom r (left.map Member.source) i f).Attends Shared.sources
      ((Member.anyTerms ms r).after past)
  | [], i, f, past, _ => attends_of_beside ⟨0, Nat.le_refl 0, fun _ => rfl, fun _ => trivial⟩
  | m :: left, i, f, past, mem => by
    have others : ∀ m ∈ left, m ∈ ms := fun m' mem' => mem m' (List.mem_cons_of_mem m mem')
    rw [List.map_cons, scanFrom]
    refine attends_step (fun _ => rfl) fun s past => ?_
    cases s.chain.reason? i with
    | some reason =>
      refine .of_next fun {w w' u} next => ?_
      cases next
      refine ⟨rfl, ?_⟩
      rw [Terms.after_after]
      exact attends_scanFrom others
    | none =>
      refine attends_bind (attends_lift (mem m List.mem_cons_self) r past) fun x past => ?_
      cases x with
      | ok token => exact attends_of_beside ⟨0, Nat.le_refl 0, fun _ => rfl, fun _ => trivial⟩
      | error e => exact attends_step (fun _ => rfl) fun _ _ => attends_scanFrom others

theorem attends_ask (i : Nat) :
    (ask ⟨ms.map Member.source⟩ r i).Attends Shared.sources
      ((Member.anyTerms ms r).after past) := by
  rw [ask, List.getElem?_map]
  cases here : ms[i]? with
  | none => exact attends_of_beside trivial
  | some m => exact attends_lift (List.mem_of_getElem? here) r past

/-- **A call** attends to its attempts. -/
theorem attends_of_calls {task : Task (Shared Surroundings) (Except Error Token)}
    (calls : Member.Calls ms r task) :
    task.Attends Shared.sources ((Member.anyTerms ms r).after past) := by
  cases calls with
  | direct mem => exact attends_lift mem r past
  | chain =>
    refine attends_step (fun _ => rfl) fun s past => ?_
    cases s.chain.selected with
    | some i => exact attends_ask i
    | none =>
      have waits :
          (waitTurn r : Task (Shared Surroundings) (Except Error Nat)).Spends
            (fun _ a b => b.sources = a.sources) 0 := by
        refine Spends.within ?_ r credential none
        exact ⟨0, Nat.le_refl 0, fun _ => rfl, fun _ => ⟨fun _ => rfl, fun _ => trivial⟩⟩
      refine attends_bind (attends_of_beside waits) fun turn past => ?_
      cases turn with
      | error e => exact attends_of_beside trivial
      | ok ticket =>
        refine attends_step (fun _ => rfl) fun s past => ?_
        dsimp only
        cases s.chain.selected with
        | some i => exact attends_step (fun _ => rfl) fun _ _ => attends_ask i
        | none =>
          have scans :
              ((scanFrom r (ms.map Member.source) 0 .empty).onLoss
                (Shared.onChain (ChainState.leave ticket))).Attends
              Shared.sources ((Member.anyTerms ms r).after past) :=
            (attends_scanFrom fun _ mem => mem).onLoss fun _ => rfl
          exact attends_bind scans fun _ _ => attends_of_beside ⟨0, Nat.le_refl 0,
            fun _ => rfl, fun _ => trivial⟩

end Chain

namespace Schedule

variable {s s' : Schedule (Shared Surroundings) (Except Error Token)} {id : Nat}
  {h : History (Shared Surroundings)}

/-- **The attempts of a call in a schedule are over in time.** -/
theorem timely_of_chronicle {task : Task (Shared Surroundings) (Except Error Token)}
    (calls : Member.Calls ms r task) (free : s.Free id) {abortAt : Option Instant}
    (chronicle : Chronicle id (s.add (.ofTask id abortAt task)) h s') :
    ∃ e, (s'.Ended id e ∨ (s'.Runs id ∧ s'.world.now = e)) ∧
      Timely (Member.anyTerms ms r) (h.focus Shared.sources) e fun _ => s'.Ended id e ∨
      ∃ who s'', Turn who s' s'' := by
  have begins :
      (Job.ofTask id abortAt task).rest.Attends Shared.sources (Member.anyTerms ms r) := by
    refine .of_next fun {w w' u} next => ?_
    have woken : (w, task) = (w', u) := Option.some.inj next
    cases woken
    exact ⟨rfl, attends_of_calls calls⟩
  cases follows_of_chronicle chronicle (free.follows abortAt task) with
  | @runs job only _ lives =>
    have mem := mem_own.mp (show job ∈ s'.own id from only ▸ List.mem_cons_self)
    refine ⟨_, .inr ⟨⟨job, mem⟩, rfl⟩,
      (begins lives).mono (fun _ begun => begun) fun rings => .inr ?_⟩
    obtain ⟨d, -, alarm⟩ := rings
    exact exists_turn_of_wait mem.1 alarm
  | ended _ ended _ lives =>
    exact ⟨_, .inl ended, (begins lives).mono (fun _ begun => begun) fun _ => .inl ended⟩

/-! ### Attempts that last longer than the attempt timeout -/

/-- A world without an outcome for the first message. -/
def muteWorld : World (Shared Surroundings) :=
  .initial ⟨0⟩ (.ofCapacity 8)
    ⟨.initial, default, ⟨[⟨⟨0⟩, none⟩], []⟩, [], default, fun _ => .untested, fun _ => []⟩

/-- A request without a deadline. -/
def patient : Request := ⟨["a"], none, 0⟩

/-- A call of a chain of one member. -/
def lone (m : Member) : Job (Shared Surroundings) (Except Error Token) :=
  .ofTask 0 none (getToken ⟨[m].map Member.source⟩ patient)

/-- The call joins a schedule without other jobs. -/
def joined (m : Member) : Schedule (Shared Surroundings) (Except Error Token) :=
  ({ world := muteWorld } : Schedule (Shared Surroundings) (Except Error Token)).add (lone m)

/-- The call has gone on as far as it can. -/
def stuck (m : Member) : Schedule (Shared Surroundings) (Except Error Token) :=
  (({ joined m with queue := [] }).resume (lone m)).rouse

/-- A metadata service whose probe may take a second, and other attempts ten milliseconds. -/
def slowProbe : Member :=
  .managedIdentity ⟨.imds default, none, ⟨0, ⟨0⟩, ⟨0⟩, .ofMillis 10⟩, .ofSeconds 1, "", 0⟩

/-- An app service of which attempts may take half a millisecond. -/
def briefService : Member :=
  .managedIdentity ⟨.appService default "secret", none, ⟨0, ⟨0⟩, ⟨0⟩, ⟨500000⟩⟩,
    .ofSeconds 1, "", 0⟩

theorem chronicle_stuck (m : Member) {t : Instant} (idle : (stuck m).queue = [])
    (asleep : (stuck m).cancelDue.queue = []) (alarm : (stuck m).cancelDue.nextAlarm = some t) :
    Chronicle 0 (joined m) ((lone m).rest.trail muteWorld) ((stuck m).cancelDue.setClock t) :=
  .beside (@Chronicle.goes _ _ 0 (joined m) [] (joined m) [] [] (lone m) .begin rfl rfl)
    (.tick idle asleep alarm) nofun

theorem timely_of_chronicle_slowProbe : ∃ s' h, Chronicle 0 (joined slowProbe) h s' ∧ s'.Runs 0 ∧
    s'.world.now = ⟨1000000000⟩ ∧ ∃ e, (s'.Ended 0 e ∨ (s'.Runs 0 ∧ s'.world.now = e)) ∧
      Timely (Member.anyTerms [slowProbe] patient) (h.focus Shared.sources) e fun _ =>
        s'.Ended 0 e ∨ ∃ who s'', Turn who s' s'' := by
  have chronicle := chronicle_stuck slowProbe (t := ⟨1000000000⟩) rfl rfl rfl
  have free : ({ world := muteWorld } : Schedule (Shared Surroundings)
      (Except Error Token)).Free 0 := ⟨nofun, nofun⟩
  exact ⟨_, _, chronicle, ⟨_, List.mem_cons_self, rfl⟩, rfl,
    timely_of_chronicle .chain free chronicle⟩

/-- What would be laid down if all attempts were over when the attempt timeout of the policy has
passed. -/
def promisedTerms (ms : List Member) (r : Request) : Terms := fun past msg a b late =>
  ∃ m ∈ ms, m.Attempts r past msg a ∧ late = b + m.policy.attemptTimeout

/-- An attempt without an outcome lasts on: it waits once it has sent its message and looked at the
clock. -/
theorem not_timely_of_hang {h h₁ : History Surroundings} {w w' : World Surroundings}
    {p : World Surroundings × World Surroundings} {msg : Message} {e : Instant}
    {still : Instant → Prop} (last : h.reverse = p :: (w, w') :: h₁)
    (sends : w.state.wire.Sends msg w'.state.wire) (hangs : w.state.wire.nextReply.value = none)
    (late : ∀ m ∈ ms, ¬ e ≤ w.now + m.policy.attemptTimeout) :
    ¬ Timely (promisedTerms ms r) h e still := by
  intro timely
  have split : h = h₁.reverse ++ [(w, w'), p] := by simpa using congrArg List.reverse last
  obtain ⟨past, a₁, a₂, later, attempt, _, -, steps, ⟨m, mem, ⟨family, rfl⟩, rfl⟩, confined⟩ :=
    timely split sends
  cases confined with
  | lasts _ _ inTime => exact late m mem inTime
  | @ended v _ lives isOver =>
    obtain ⟨-, -, -, x, y, rest⟩ := Endpoint.of_lives_attempt lives rfl sends
    rw [Surroundings.onWire_receive_bind] at rest
    rcases rest.of_look with ⟨-, rfl, -⟩ | ⟨w₀, h', rfl, -, rest⟩
    · rcases isOver with broken | ⟨_, ended⟩
      · cases broken
      · cases ended
    · obtain ⟨-, rfl, rfl⟩ : p = (w₀, w₀) ∧ h' = [] ∧ later = [] := by simpa using steps
      dsimp only at rest
      rw [Delayed.await_of_pends (.inl hangs)] at rest
      rcases rest.of_wait with ⟨-, rfl⟩ | ⟨_, _, _, none, -⟩
      · rcases isOver with broken | ⟨_, ended⟩
        · cases broken
        · cases ended
      · cases none

/-- A call lasts on although its attempt was to be over. -/
def Overdue (m : Member) : Prop := ∃ s' h, Chronicle 0 (joined m) h s' ∧ s'.Runs 0 ∧
  ¬ Timely (promisedTerms [m] patient) (h.focus Shared.sources) s'.world.now fun _ => True

/-- A probe lasts as long as its own limit lets it, and an attempt lasts until a timer rings. -/
theorem overdue_slowProbe_and_briefService : Overdue slowProbe ∧ Overdue briefService := by
  have late : ∀ {m : Member} {e : Instant}, ¬ e ≤ (⟨0⟩ : Instant) + m.policy.attemptTimeout →
      ∀ m' ∈ [m], ¬ e ≤ (⟨0⟩ : Instant) + m'.policy.attemptTimeout := by simp
  refine ⟨⟨_, _, chronicle_stuck slowProbe (t := ⟨1000000000⟩) rfl rfl rfl,
    ⟨_, List.mem_cons_self, rfl⟩, ?_⟩,
    ⟨_, _, chronicle_stuck briefService (t := ⟨1000000⟩) rfl rfl rfl,
      ⟨_, List.mem_cons_self, rfl⟩, ?_⟩⟩
  · exact not_timely_of_hang rfl rfl rfl (late (by decide))
  · exact not_timely_of_hang rfl rfl rfl (late (by decide))

end Schedule

end TokenChain
