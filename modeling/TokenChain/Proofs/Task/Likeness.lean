import TokenChain.Retry.Execution

/-! # Tasks that differ in what nobody sees

Two tasks are alike (`Task.Alike`) if they do the same as long as they find states that are alike:
they look at the same time, write the same to the log, wait for the same things, leave states that
are alike, and end with values that are alike. What counts as alike is given by a relation on states
and one on values; where these say nothing about a part, the tasks may treat it as they like, but
they cannot let anything else depend on it.

Alike tasks stay alike when they are put together (`Alike.bind`, `Alike.zoom`, `Alike.within`,
`Alike.execute`), and run alike (`Alike.run`). -/

namespace TokenChain

variable {σ τ α β : Type} {S : σ → σ → Prop} {A : α → α → Prop} {B : β → β → Prop}

/-- Two results are the same error or alike in what they hold. -/
inductive ResultAlike (A : α → α → Prop) : Except Error α → Except Error α → Prop
  | error (e : Error) : ResultAlike A (.error e) (.error e)
  | ok {a b : α} (alike : A a b) : ResultAlike A (.ok a) (.ok b)

theorem ResultAlike.refl (h : ∀ a, A a a) (x : Except Error α) : ResultAlike A x x := by
  cases x with
  | error e => exact .error e
  | ok a => exact .ok (h a)

/-- Two waits for the same things. -/
structure Wait.Alike (S : σ → σ → Prop) (v v' : Wait σ) : Prop where
  ready : ∀ {s s'}, S s s' → v.ready s = v'.ready s'
  due : v.due = v'.due
  cancel : v.cancel = v'.cancel
  deadline : v.deadline = v'.deadline
  abandon : ∀ {s s'}, S s s' → S (v.abandon s) (v'.abandon s')

theorem Wait.Alike.plain (due : Option Instant) (cancel : Option CancelKey)
    (deadline : Option Instant) :
    Wait.Alike S { due, cancel, deadline } { due, cancel, deadline } :=
  ⟨fun _ => rfl, rfl, rfl, rfl, fun h => h⟩

/-- Two things that take the same time. -/
structure Delayed.Alike (A : α → α → Prop) (d d' : Delayed α) : Prop where
  delay : d.delay = d'.delay
  value : Option.Rel A d.value d'.value

namespace Task

/-- **Two tasks that are alike.** -/
inductive Alike (S : σ → σ → Prop) (A : α → α → Prop) : Task σ α → Task σ α → Prop
  | done {a b : α} (alike : A a b) : Alike S A (done a) (done b)
  | crash : Alike S A crash crash
  | look {k k' : Moment → Task σ α} (alike : ∀ m, Alike S A (k m) (k' m)) :
      Alike S A (look k) (look k')
  | note {n : Note} {t t' : Task σ α} (alike : Alike S A t t') : Alike S A (note n t) (note n t')
  | step {f f' : σ → σ} {k k' : σ → Task σ α} (steps : ∀ {s s'}, S s s' → S (f s) (f' s'))
      (alike : ∀ {s s'}, S s s' → Alike S A (k s) (k' s')) : Alike S A (step f k) (step f' k')
  | wait {v v' : Wait σ} {k k' : Wake → Task σ α} (waits : v.Alike S v')
      (alike : ∀ x, Alike S A (k x) (k' x)) : Alike S A (wait v k) (wait v' k')

/-! ### Tasks that are put together -/

theorem Alike.bind {t t' : Task σ α} {g g' : α → Task σ β} (h : t.Alike S A t')
    (hg : ∀ {a b}, A a b → (g a).Alike S B (g' b)) : (t.bind g).Alike S B (t'.bind g') := by
  induction h with
  | done alike => exact hg alike
  | crash => exact .crash
  | look _ ih => exact .look ih
  | note _ ih => exact .note ih
  | step steps _ ih => exact .step steps ih
  | wait waits _ ih => exact .wait waits ih

theorem Alike.onLoss {release release' : σ → σ}
    (hr : ∀ {s s'}, S s s' → S (release s) (release' s')) {t t' : Task σ α} (h : t.Alike S A t') :
    (t.onLoss release).Alike S A (t'.onLoss release') := by
  induction h with
  | done alike => exact .done alike
  | crash => exact .step hr fun _ => .crash
  | look _ ih => exact .look ih
  | note _ ih => exact .note ih
  | step steps _ ih => exact .step steps ih
  | wait waits _ ih => exact .wait { waits with abandon := fun h => hr (waits.abandon h) } ih

theorem Alike.zoom {T : τ → τ → Prop} {part : τ → σ} {put : σ → τ → τ}
    (parts : ∀ {t t'}, T t t' → S (part t) (part t'))
    (puts : ∀ {s s' t t'}, S s s' → T t t' → T (put s t) (put s' t')) {t t' : Task σ α}
    (h : t.Alike S A t') : (t.zoom part put).Alike T A (t'.zoom part put) := by
  induction h with
  | done alike => exact .done alike
  | crash => exact .crash
  | look _ ih => exact .look ih
  | note _ ih => exact .note ih
  | step steps _ ih => exact .step (fun h => puts (steps (parts h)) h) fun h => ih (parts h)
  | wait waits _ ih =>
    exact .wait ⟨fun h => waits.ready (parts h), waits.due, waits.cancel, waits.deadline,
      fun h => puts (waits.abandon (parts h)) h⟩ ih

theorem Alike.giveUp {t t' : Task σ α} (h : t.Alike S A t') (key : CancelKey)
    (deadline : Option Instant) {c c' e e' : α} (cancelled : A c c') (expired : A e e') :
    (t.giveUp key deadline c e).Alike S A (t'.giveUp key deadline c' e') := by
  induction h with
  | done alike => exact .done alike
  | crash => exact .crash
  | look _ ih => exact .look ih
  | note _ ih => exact .note ih
  | step steps _ ih => exact .step steps ih
  | wait waits _ ih =>
    refine .wait { waits with cancel := rfl, deadline := rfl } fun x => ?_
    cases x with
    | ready => exact ih .ready
    | cancelled => exact .step waits.abandon fun _ => .done cancelled
    | expired => exact .step waits.abandon fun _ => .done expired

theorem alike_await {d d' : Delayed α} (h : d.Alike A d') (start : Instant) :
    (d.await start : Task σ α).Alike S A (d'.await start) := by
  obtain ⟨delay, value⟩ := d
  obtain ⟨delay', value'⟩ := d'
  obtain ⟨rfl, values⟩ := h
  rw [Delayed.await, Delayed.await]
  cases values with
  | none => exact .wait (.plain ..) fun _ => .crash
  | some alike =>
    dsimp only
    split
    · exact .done alike
    · exact .wait (.plain ..) fun _ => .done alike

theorem Alike.within {t t' : Task σ (Except Error α)}
    (h : t.Alike S (ResultAlike A) t') (r : Request) (credential : String)
    (limit : Option Duration) :
    (r.within credential limit t).Alike S (ResultAlike A) (r.within credential limit t') := by
  refine .look fun m => ?_
  split
  · exact .done (.error _)
  · split
    · exact .crash
    · exact h.giveUp _ _ (.error _) (.error _)

theorem alike_pause (r : Request) (delay : Duration) :
    (r.pause delay : Task σ (Option String)).Alike S Eq (r.pause delay) := by
  refine .look fun m => ?_
  split
  · exact .done rfl
  · refine .wait (.plain ..) fun x => ?_
    cases x <;> exact .done rfl

theorem alike_surrender (credential : String) (spent : Nat) (e : Error) :
    (RetryPolicy.surrender credential spent e : Task σ (Except Error α)).Alike S (ResultAlike A)
      (RetryPolicy.surrender credential spent e) := by
  rw [RetryPolicy.surrender]
  split
  · exact .note (.done (.error e))
  · exact .done (.error e)

theorem Alike.executeFrom {p : RetryPolicy} {r : Request} {credential : String}
    {operation operation' : Nat → Task σ (Except Error α)}
    (h : ∀ n, (operation n).Alike S (ResultAlike A) (operation' n)) : ∀ left spent,
      (p.executeFrom r credential (fun _ => .done ()) operation left spent).Alike S (ResultAlike A)
        (p.executeFrom r credential (fun _ => .done ()) operation' left spent)
  | 0, spent => by
    refine Alike.bind ((h spent).within ..) fun alike => ?_
    cases alike with
    | error e => exact alike_surrender ..
    | ok alike => exact .done (.ok alike)
  | left + 1, spent => by
    refine Alike.bind ((h spent).within ..) fun alike => ?_
    cases alike with
    | ok alike => exact .done (.ok alike)
    | error e =>
      dsimp only
      split
      · refine .note ((alike_pause ..).bind fun same => ?_)
        cases same
        split
        · exact .done (.error _)
        · exact Alike.executeFrom h left (spent + 1)
      · exact alike_surrender ..

theorem Alike.execute (p : RetryPolicy) (r : Request) (credential : String)
    {operation operation' : Nat → Task σ (Except Error α)}
    (h : ∀ n, (operation n).Alike S (ResultAlike A) (operation' n)) :
    (p.execute r credential (fun _ => .done ()) operation).Alike S (ResultAlike A)
      (p.execute r credential (fun _ => .done ()) operation') :=
  Alike.executeFrom h p.maxRetries.toNat 0

end Task

/-! ### Tasks that run -/

/-- Two worlds that show the same time, log and cancellations, in states that are alike. -/
structure World.Alike (S : σ → σ → Prop) (w w' : World σ) : Prop where
  moment : w.toMoment = w'.toMoment
  cancelAt : w.cancelAt = w'.cancelAt
  log : w.log = w'.log
  state : S w.state w'.state

namespace World

theorem Alike.now {w w' : World σ} (h : w.Alike S w') : w.now = w'.now :=
  congrArg Moment.now h.moment

theorem Alike.cancelled {w w' : World σ} (h : w.Alike S w') : w.cancelled = w'.cancelled :=
  congrArg Moment.cancelled h.moment

theorem Alike.append {w w' : World σ} (h : w.Alike S w') (n : Note) :
    (w.append n).Alike S (w'.append n) :=
  ⟨h.moment, h.cancelAt, by rw [World.append, World.append, h.log, h.now], h.state⟩

theorem Alike.withState {w w' : World σ} (h : w.Alike S w') {s s' : σ} (state : S s s') :
    Alike S { w with state := s } { w' with state := s' } := ⟨h.moment, h.cancelAt, h.log, state⟩

theorem Alike.advance {w w' : World σ} (h : w.Alike S w') (t : Instant) :
    (w.advance t).Alike S (w'.advance t) :=
  ⟨by rw [World.advance, World.advance, h.cancelled, h.cancelAt], h.cancelAt, h.log, h.state⟩

theorem Alike.cancelDue {w w' : World σ} (h : w.Alike S w') : w.cancelDue.Alike S w'.cancelDue :=
  ⟨by rw [World.cancelDue, World.cancelDue, h.cancelled, h.cancelAt,
    h.now], h.cancelAt, h.log, h.state⟩

end World

theorem Wait.Alike.wake? {v v' : Wait σ} (h : v.Alike S v') {w w' : World σ}
    (worlds : w.Alike S w') : v.wake? w = v'.wake? w' := by
  rw [Wait.wake?, Wait.wake?, h.ready worlds.state, h.due, h.cancel, h.deadline,
    worlds.now, worlds.cancelled]

theorem Wait.Alike.alarms {v v' : Wait σ} (h : v.Alike S v') {w w' : World σ}
    (worlds : w.Alike S w') : v.alarms w = v'.alarms w' := by
  rw [Wait.alarms, Wait.alarms, h.due, h.cancel, h.deadline, worlds.cancelAt]

/-- Two tasks that have come equally far. -/
inductive Pause.Alike (S : σ → σ → Prop) (A : α → α → Prop) : Pause σ α → Pause σ α → Prop
  | done {a b : α} (alike : A a b) : Alike S A (.done a) (.done b)
  | crashed : Alike S A .crashed .crashed
  | waiting {v v' : Wait σ} {k k' : Wake → Task σ α} (waits : v.Alike S v')
      (alike : ∀ x, (k x).Alike S A (k' x)) : Alike S A (.waiting v k) (.waiting v' k')

/-- **Alike tasks run alike.** -/
theorem Task.Alike.run {t t' : Task σ α} (h : t.Alike S A t') {w w' : World σ}
    (worlds : w.Alike S w') :
    (t.run w).1.Alike S (t'.run w').1 ∧ (t.run w).2.Alike S A (t'.run w').2 := by
  induction h generalizing w w' with
  | done alike => exact ⟨worlds, .done alike⟩
  | crash => exact ⟨worlds, .crashed⟩
  | look _ ih =>
    rw [Task.run, Task.run, worlds.moment]
    exact ih _ worlds
  | note _ ih => exact ih (worlds.append _)
  | step steps _ ih => exact ih worlds.state (worlds.withState (steps worlds.state))
  | wait waits alike ih =>
    rw [Task.run, Task.run, waits.wake? worlds]
    split
    · exact ih _ worlds
    · exact ⟨worlds, .waiting waits alike⟩

end TokenChain
