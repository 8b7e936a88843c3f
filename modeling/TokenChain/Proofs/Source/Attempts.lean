import TokenChain.Proofs.Identity.Neighbours
import TokenChain.Proofs.Source.Account
import TokenChain.Proofs.Task.Timing

/-! # Attempts and their limits

Whoever sends a message does so in an attempt: a request to an endpoint, within a limit. `Timely`
says of the steps of a call that each message among them belongs to an attempt that is over in time:
it has ended before anything else happened in the call, or it lasts still, and is not late. Which
attempts may send messages, and when they are to be over, is laid down by `Terms`, in view of the
steps before the attempt.

`Task.Attends` says so of all that a task may live through. It is inherited by what is built from
such tasks, with the steps of one as the past of the next (`Attends.bind`, `Attends.onLoss`,
`Attends.zoom`), and an attempt attends to itself (`attends_attempt`). So does an execution
(`attends_execute`), and every member of a chain (`Member.attends_getToken`): the attempts of an
execution have the limit of its policy, and the attempt of a probe has one of its own
(`Member.limitAfter`). -/

namespace TokenChain

open TokenChain.Task TokenChain.Surroundings

variable {σ τ α β : Type}

theorem Instant.isWhole_ceilMilli (t : Instant) : t.ceilMilli.IsWhole := by
  simp only [IsWhole, ceilMilli, Instant.mk.injEq]
  omega

/-- A message is sent. -/
def Wire.Sends (msg : Message) (a b : Wire) : Prop := b.sent = a.sent ++ [msg]

theorem Wire.not_sends {msg : Message} {a b : Wire} (silent : b.sent = a.sent) : ¬ a.Sends msg b :=
    fun sends => by
  rw [Sends, silent] at sends
  exact absurd sends.symm (by simp)

/-- What is laid down for attempts: after some steps, which message an attempt may send that begins
at one instant and is to be over by another. -/
abbrev Terms :=
  History Surroundings → Message → Task Surroundings (Except Error Token) → Instant → Instant → Prop

/-- The terms for what is done after some steps. -/
def Terms.after (A : Terms) (past : History Surroundings) : Terms := fun h => A (past ++ h)

theorem Terms.after_after (A : Terms) (h h' : History Surroundings) :
    (A.after h).after h' = A.after (h ++ h') := by
  funext past
  rw [after, after, after, List.append_assoc]

namespace Task

/-- A task is over. -/
def IsOver (t : Task σ α) : Prop := t = crash ∨ ∃ a, t = done a

/-- A task can go on, or waits for an instant that is not late. -/
def Rings (late : Instant) : Task σ α → Prop
  | done _ | crash => False
  | look _ | note .. | step .. => True
  | wait v _ => ∃ d ≤ late, v.due = some d ∨ v.deadline = some d

theorem Heeds.over_or_rings {late : Instant} {t : Task σ α} (h : t.Heeds (fun _ => none) late) :
    t.IsOver ∨ t.Rings late := by
  cases t with
  | done a => exact .inl (.inr ⟨a, rfl⟩)
  | crash => exact .inl (.inl rfl)
  | look | note | step => exact .inr trivial
  | wait v k =>
    obtain ⟨⟨d, le, alarm⟩, -⟩ := h
    refine .inr ⟨d, le, ?_⟩
    rcases alarm with due | deadline | cancelled
    · exact .inl due
    · exact .inr deadline
    · obtain ⟨key, -, none⟩ := Option.bind_eq_some_iff.mp cancelled
      cases none

theorem Rings.bind {late : Instant} {t : Task σ α} {g : α → Task σ β} (h : t.Rings late) :
    (t.bind g).Rings late := by
  cases t with
  | done | crash => cases h
  | look | note | step => trivial
  | wait => exact h

theorem Rings.onLoss {late : Instant} {t : Task σ α} {release : σ → σ} (h : t.Rings late) :
    (t.onLoss release).Rings late := by
  cases t with
  | done | crash => cases h
  | look | note | step => trivial
  | wait => exact h

theorem Rings.zoom {late : Instant} {part : τ → σ} {put : σ → τ → τ} {t : Task σ α}
    (h : t.Rings late) : (t.zoom part put).Rings late := by
  cases t with
  | done | crash => cases h
  | look | note | step => trivial
  | wait => exact h

/-- **A part of a task is over in time**, or lasts still. -/
inductive Confined (part : Task σ α) (b : Instant) (h later : History σ) (late e : Instant)
    (awaited : Prop) : Prop
  | ended {v : Task σ α} {stop : Instant} (lives : part.Lives b h v stop) (isOver : v.IsOver)
      (inTime : stop ≤ late)
  /-- It lives up to the end, nothing else has been done since, and it is to go on. -/
  | lasts {v : Task σ α} (last : later = []) (lives : part.Lives b h v e)
      (inTime : e ≤ late) (awaited : awaited)

end Task

/-- **Every message among some steps** belongs to an attempt that is over in time, or lasts still at
the end of the steps. -/
def Timely (A : Terms) (h : History Surroundings) (e : Instant) (still : Instant → Prop) : Prop :=
  ∀ ⦃h₁ h₂ w w' msg⦄, h = h₁ ++ (w, w') :: h₂ → w.state.wire.Sends msg w'.state.wire →
    ∃ past a₁ a₂ later attempt late, h₁ = past ++ a₁ ∧ h₂ = a₂ ++ later ∧
    A past msg attempt w.now late ∧
      attempt.Confined w.now (a₁ ++ (w, w') :: a₂) later late e (still late)

section
variable {A A' : Terms} {h h' : History Surroundings} {c e : Instant}
  {still still' : Instant → Prop}

theorem Timely.mono (timely : Timely A h e still)
    (terms : ∀ {past rest msg t b late}, h = past ++ rest → A past msg t b late →
      A' past msg t b late)
    (le : ∀ {late}, still late → still' late) : Timely A' h e still' := by
  intro h₁ h₂ w w' msg split sends
  obtain ⟨past, a₁, a₂, later, attempt, late, rfl, rfl, begins, confined⟩ := timely split sends
  refine ⟨past, a₁, a₂, later, attempt, late, rfl, rfl,
    terms (by rw [split, List.append_assoc]) begins, ?_⟩
  cases confined with
  | ended lives isOver inTime => exact .ended lives isOver inTime
  | lasts last lives inTime awaited => exact .lasts last lives inTime (le awaited)

/-- **One after another**: if nothing of the first part lasts, its attempts are over, and it is the
past of the second part. -/
theorem Timely.append (first : Timely A h c fun _ => False)
    (second : Timely (A.after h) h' e still) : Timely A (h ++ h') e still := by
  intro h₁ h₂ w w' msg split sends
  rcases History.of_append split with ⟨h₂', rfl⟩ | ⟨h₁', rfl, rfl⟩
  · obtain ⟨past, a₁, a₂, later, attempt, late, rfl, rfl, begins, confined⟩ := first rfl sends
    cases confined with
    | ended lives isOver inTime =>
      refine ⟨past, a₁, a₂, later ++ h', attempt, late, rfl, ?_, begins, .ended lives isOver inTime⟩
      simpa using split.symm
    | lasts _ _ _ awaited => cases awaited
  · obtain ⟨past, a₁, a₂, later, attempt, late, rfl, rfl, begins, confined⟩ := second rfl sends
    exact ⟨h ++ past, a₁, a₂, later, attempt, late, (List.append_assoc ..).symm,
      rfl, begins, confined⟩

theorem timely_of_silence (silence : ∀ p ∈ h, p.2.state.wire.sent = p.1.state.wire.sent) :
    Timely A h e still := by
  intro h₁ h₂ w w' msg split sends
  exact absurd sends
    (Wire.not_sends (silence (w, w') (split ▸ List.mem_append_right _ List.mem_cons_self)))

end

/-! ### Tasks that attend to their attempts -/

namespace Task

variable {view : σ → Surroundings} {A A' : Terms}

/-- **A task attends to its attempts**, whatever it lives through. -/
def Attends (view : σ → Surroundings) (A : Terms) (t : Task σ α) : Prop :=
  ∀ ⦃b h u e⦄, t.Lives b h u e → Timely A (h.focus view) e fun late => u.Rings late

theorem Attends.mono {t : Task σ α} (attends : t.Attends view A)
    (terms : ∀ {past msg a b late}, A past msg a b late → A' past msg a b late) :
    t.Attends view A' := fun _ _ _ _ lives => (attends lives).mono (fun _ => terms) id

theorem Attends.along {t : Task Surroundings α}
    {Keeps : World Surroundings × World Surroundings → Prop} (attends : t.Attends id A)
    (keeps : ∀ {h u}, t.Leads h u → ∀ p ∈ h, Keeps p) :
    t.Attends id fun past msg a b late => A past msg a b late ∧ ∀ p ∈ past, Keeps p := by
  intro b h u e lives
  have same : h.focus id = h := List.map_id _
  have timely := attends lives
  rw [same] at *
  exact timely.mono (fun split begins =>
    ⟨begins, fun p mem => keeps lives.leads p (split ▸ List.mem_append_left _ mem)⟩) id

/-- **The steps of a sequence.** -/
theorem Attends.bind {t : Task σ α} {g : α → Task σ β} (attends : t.Attends view A)
    (later : ∀ {a h}, t.Leads h (done a) → (g a).Attends view (A.after (h.focus view))) :
    (t.bind g).Attends view A := by
  intro b h u e lives
  rcases lives.of_bind with ⟨v, first, rfl⟩ | ⟨a, h₁, h₂, c, rfl, first, second⟩
  · exact (attends first).mono (fun _ => id) Rings.bind
  · rw [History.focus, List.map_append]
    exact ((attends first).mono (fun _ => id) id).append (later first.leads second)

theorem Spends.of_mem {R : Nat → σ → σ → Prop} (free : ∀ s, R 0 s s) {t u : Task σ α}
    {h : History σ} (spends : t.Spends R 0) (leads : t.Leads h u) :
    ∀ p ∈ h, R 0 p.1.state p.2.state := by
  induction leads with
  | refl => exact nofun
  | step next _ ih =>
    obtain ⟨m, le, step, rest⟩ := spends.next free next
    rw [Nat.le_zero.mp le] at step rest
    exact List.forall_mem_cons.mpr ⟨step, ih rest⟩

theorem attends_of_spends {R : Nat → σ → σ → Prop} (free : ∀ s, R 0 s s)
    (keeps : ∀ {a b}, R 0 a b → (view b).wire.sent = (view a).wire.sent) {t : Task σ α}
    (spends : t.Spends R 0) : t.Attends view A := by
  intro b h u e lives
  refine timely_of_silence fun p mem => ?_
  obtain ⟨step, taken, rfl⟩ := List.mem_map.mp mem
  exact keeps (spends.of_mem free lives.leads step taken)

theorem Attends.onLoss {t : Task σ α} {release : σ → σ} (attends : t.Attends view A)
    (silent : ∀ s, (view (release s)).wire.sent = (view s).wire.sent) :
    (t.onLoss release).Attends view A := by
  intro b h u e lives
  rcases lives.of_onLoss with ⟨v, first, rfl⟩ | ⟨h', w, rfl, first, rfl⟩
  · exact (attends first).mono (fun _ => id) Rings.onLoss
  · rw [History.focus, List.map_append]
    refine ((attends first).mono (fun _ => id) id).append (timely_of_silence fun p mem => ?_)
    cases List.mem_singleton.mp mem
    exact silent w.state

theorem Attends.zoom {part : τ → σ} {put : σ → τ → τ} (same : ∀ s, put (part s) s = s)
    (seen : ∀ s t, part (put s t) = s) {t : Task σ α} (attends : t.Attends view A) :
    (t.zoom part put).Attends (view ∘ part) A := by
  intro b h u e lives
  obtain ⟨v, inside, rfl⟩ := lives.of_zoom same seen
  have focus : (h.focus part).focus view = h.focus (view ∘ part) := List.map_map ..
  rw [← focus]
  exact (attends inside).mono (fun _ => id) Rings.zoom

theorem Attends.of_next {t : Task σ α}
    (first : ∀ {w w' u}, t.next? w = some (w', u) →
      (view w'.state).wire.sent = (view w.state).wire.sent ∧
      u.Attends view (A.after (History.focus view [(w, w')]))) : t.Attends view A := by
  intro b h u e lives
  rcases lives.cases_next with ⟨rfl, -, -⟩ | ⟨w, w', t', h', rfl, -, next, rest⟩
  · exact timely_of_silence nofun
  · obtain ⟨silent, attends⟩ := first next
    have silence : ∀ p ∈ History.focus view [(w, w')], p.2.state.wire.sent = p.1.state.wire.sent :=
        fun p mem => by
      cases List.mem_singleton.mp mem
      exact silent
    exact Timely.append (c := b) (timely_of_silence silence) (attends rest)

end Task

/-! ### Attempts -/

namespace Endpoint

/-- An attempt to get a token from an endpoint: a request within a limit. -/
def attempt (r : Request) (name : String) (family : Family) (msg : Message) (limit : Duration) :
    Task Surroundings (Except Error Token) :=
  r.within name (some limit) (call name family r.scopes msg)

variable {r : Request} {name : String} {family : Family} {msg msg' : Message}
  {limit : Duration} {b e : Instant}
  {h h₁ h₂ : History Surroundings} {u : Task Surroundings (Except Error Token)}
  {w w' : World Surroundings}

theorem later_of_silent {v v' : World Surroundings}
    (silent : v'.state.wire.sent = v.state.wire.sent) (split : (v, v') :: h = h₁ ++ (w, w') :: h₂)
    (sends : w.state.wire.Sends msg' w'.state.wire) :
    ∃ h₁', h₁ = (v, v') :: h₁' ∧ h = h₁' ++ (w, w') :: h₂ := by
  rcases List.cons_eq_append_iff.mp split with ⟨-, same⟩ | same
  · cases same
    exact absurd sends (Wire.not_sends silent)
  · exact same

theorem silent_receive {key : CancelKey} {deadline : Option Instant} {x y : Except Error Token}
    {reply : Reply}
    (leads : (((onWire (Wire.receive reply)).bind (readOutcome name family r.scopes)).giveUp key
      deadline x y).Leads h u)
    (mem : (w, w') ∈ h) : w'.state.wire.sent = w.state.wire.sent := by
  have awaits : ((onWire (Wire.receive reply)).bind (readOutcome name family r.scopes)).Spends
      (PostsBeside 0) 0 :=
    (spends_onWire 0 (Wire.spends_receive reply)).bind_free fun _ => spends_readOutcome ..
  have bounded := awaits.giveUp key deadline x y
  exact (Spends.of_mem (postsBeside_free 0) bounded leads (w, w') mem).2.eq

/-- A request that sends a message does so with its first step. -/
theorem of_lives_call {key : CancelKey} {deadline : Option Instant} {x y : Except Error Token}
    (lives : ((call name family r.scopes msg).giveUp key deadline x y).Lives b h u e)
    (split : h = h₁ ++ (w, w') :: h₂) (sends : w.state.wire.Sends msg' w'.state.wire) :
    msg' = msg ∧ w.now = b ∧ h₁ = [] ∧
      (((onWire (Wire.receive w.state.wire.nextReply)).bind
        (readOutcome name family r.scopes)).giveUp key deadline x y).Lives b h₂ u e := by
  have taken : [] ≠ h₁ ++ (w, w') :: h₂ := by simp
  have request :
      call name family r.scopes msg =
        (onWire (Wire.exchange msg)).bind (readOutcome name family r.scopes) := rfl
  rw [request, Wire.exchange] at lives
  split at lives
  · rcases lives.of_step with ⟨none, -⟩ | ⟨w₁, h', sent, now, rest⟩
    · exact absurd (none.symm.trans split) taken
    · rw [sent] at split
      cases h₁ with
      | nil =>
        cases split
        have same : w.state.wire.sent ++ [msg] = w.state.wire.sent ++ [msg'] := sends
        exact ⟨(List.singleton_inj.mp (List.append_cancel_left same)).symm, now, rfl, rest⟩
      | cons p h₁ =>
        cases split
        exact absurd sends
          (Wire.not_sends (silent_receive rest.leads (List.mem_append_right _ List.mem_cons_self)))
  · exact absurd (lives.of_done.1.symm.trans split) taken

/-- **What an attempt lives through** that sends a message: it looks at the clock, sends its message
at the instant at which it begins, and has the rest of the time for the outcome. -/
theorem of_lives_attempt (lives : (attempt r name family msg limit).Lives b h u e)
    (split : h = h₁ ++ (w, w') :: h₂) (sends : w.state.wire.Sends msg' w'.state.wire) :
    msg' = msg ∧ w.now = b ∧ (∃ w₀, h₁ = [(w₀, w₀)]) ∧ ∃ x y,
      (((onWire (Wire.receive w.state.wire.nextReply)).bind
        (readOutcome name family r.scopes)).giveUp r.cancel
          (Instant.earliest r.deadline (some (b + limit))) x y).Lives b h₂ u e := by
  have taken : ∀ {h₁ : History Surroundings}, [] ≠ h₁ ++ (w, w') :: h₂ := by simp
  unfold attempt Request.within at lives
  rcases lives.of_look with ⟨rfl, -⟩ | ⟨w₀, h', rfl, now, rest⟩
  · exact absurd split taken
  obtain ⟨h₁', rfl, split'⟩ := later_of_silent rfl split sends
  cases cancelled : w₀.cancelled r.cancel with
  | true =>
    rw [if_pos cancelled] at rest
    exact absurd (rest.of_done.1.symm.trans split') taken
  | false =>
    rw [if_neg (Bool.eq_false_iff.mp cancelled)] at rest
    cases ends : w₀.now.after? limit with
    | none =>
      simp only [Request.limitEnd?, ends, Option.map_none] at rest
      exact absurd (rest.of_crash.1.symm.trans split') taken
    | some limitEnd =>
      cases Instant.after?_eq_some ends
      simp only [Request.limitEnd?, ends, Option.map_some] at rest
      obtain ⟨same, now', rfl, outcome⟩ := of_lives_call rest split' sends
      exact ⟨same, now', ⟨w₀, rfl⟩, _, _, now ▸ outcome⟩

variable (r name family msg limit) in
/-- **An attempt attends to itself**: it sends one message, and lasts no longer than its limit,
which the timer counts in whole milliseconds. -/
theorem attends_attempt : (attempt r name family msg limit).Attends id fun past msg' a b late =>
    past = [] ∧ msg' = msg ∧ a = attempt r name family msg limit ∧
    late = (b + limit).ceilMilli := by
  intro b h u e lives h₁ h₂ w w' msg' split sends
  have same : h.focus id = h := List.map_id _
  rw [same] at split
  obtain ⟨rfl, rfl, ⟨w₀, rfl⟩, x, y, rest⟩ := of_lives_attempt lives split sends
  refine ⟨[], [(w₀, w₀)], h₂, [], _, _, rfl, (List.append_nil h₂).symm, ⟨rfl, rfl, rfl, rfl⟩, ?_⟩
  obtain ⟨t, before, first⟩ := earliest_le (d := r.deadline) (w.now + limit).le_ceilMilli
  have heeds : Heeds (fun _ => none) (w.now + limit).ceilMilli
      (((onWire (Wire.receive w.state.wire.nextReply)).bind
        (readOutcome name family r.scopes)).giveUp r.cancel
          (Instant.earliest r.deadline (some (w.now + limit))) x y) :=
    heeds_giveUp _ x y ⟨t, before, .inl ((earliest_comm ..).trans first)⟩
  have begins : w.now ≤ (w.now + limit).ceilMilli :=
    Int.le_trans (Int.le_add_of_nonneg_right (Int.natCast_nonneg _)) (w.now + limit).le_ceilMilli
  obtain ⟨inTime, heeds'⟩ := rest.le_of_heeds (Instant.isWhole_ceilMilli _) heeds begins
  rw [split] at lives
  rcases heeds'.over_or_rings with isOver | rings
  · exact .ended lives isOver inTime
  · exact .lasts rfl lives inTime rings

end Endpoint

/-! ### Executions -/

/-- What is laid down for the attempts of an execution: each has the same limit. -/
def Terms.limited (r : Request) (name : String) (limit : Duration) : Terms := fun _ msg a b late =>
  ∃ family, a = Endpoint.attempt r name family msg limit ∧ late = (b + limit).ceilMilli

variable {A : Terms} {r : Request} {name : String}

theorem Task.attends_of_posts {t : Task Surroundings α} (posts : t.Spends Posts 0) :
    t.Attends id A :=
  attends_of_spends posts_free Posts.eq posts

theorem Source.attends_reported {work : Task Surroundings (Except Error Token)}
    (attends : ∀ w, work.Attends id (A.after [(w, w)])) : (reported name work).Attends id A := by
  refine .of_next fun {w w' u} next => ?_
  cases next
  refine ⟨rfl, (attends w).bind fun _ => ?_⟩
  exact attends_of_posts fun _ => trivial

namespace RetryPolicy

variable {p : RetryPolicy} {operation : Nat → Task Surroundings (Except Error Token)}

/-- **The loop of an execution** attends to its attempts if each of them does. -/
theorem attends_executeFrom {limit : Duration} {begins : Nat → Task Surroundings Unit}
    (each : ∀ k, (p.attempt r name begins operation k).Attends id (.limited r name limit)) :
    ∀ left k, (p.executeFrom r name begins operation left k).Attends id (.limited r name limit)
  | 0, k => by
    refine (each k).bind fun {x _} _ => ?_
    cases x with
    | ok a => exact attends_of_posts trivial
    | error e => exact attends_of_posts (spends_surrender name k e)
  | left + 1, k => by
    refine (each k).bind fun {x _} _ => ?_
    cases x with
    | ok a => exact attends_of_posts trivial
    | error e =>
      dsimp only
      split_ifs
      · rw [backOff]
        refine .of_next fun {w w' u} next => ?_
        cases next
        refine ⟨rfl, (attends_of_posts (spends_pause posts_free r _)).bind fun {reason? _} _ => ?_⟩
        cases reason? with
        | some reason => exact attends_of_posts trivial
        | none => exact attends_executeFrom each left (k + 1)
      · exact attends_of_posts (spends_surrender name k e)

/-- **An execution** of requests to an endpoint attends to its attempts, which have the limit of the
policy. -/
theorem attends_execute
    (requests : ∀ k, (∃ family msg, operation k = Endpoint.call name family r.scopes msg) ∨
      ∃ x, operation k = .done x) :
    (p.execute r name (fun _ => .done ()) operation).Attends id
      (.limited r name p.attemptTimeout) := by
  refine attends_executeFrom (fun k => ?_) p.maxRetries.toNat 0
  show (r.within name (some p.attemptTimeout) (operation k)).Attends id _
  rcases requests k with ⟨family, msg, request⟩ | ⟨x, nothing⟩
  · rw [request]
    refine (Endpoint.attends_attempt r name family msg p.attemptTimeout).mono ?_
    rintro past msg' a b late ⟨-, rfl, rfl, rfl⟩
    exact ⟨family, rfl, rfl⟩
  · rw [nothing]
    have posts : (Task.done x : Task Surroundings (Except Error Token)).Spends Posts 0 := trivial
    exact attends_of_posts (posts.within r name _)

end RetryPolicy

end TokenChain
