import Mathlib.Tactic.SplitIfs
import TokenChain.Retry.Execution

/-! # How tasks wait

All that a call waits for, it waits for in the service of its request: within `Request.within`, or
in a pause between two attempts. Four things can then be said of the waits of a task, whatever the
world does in between:

* `Task.Waits`: there are no more than so many of them, and what is undone at a wait is quiet;
* `Task.Heeds`: as long as the clock has not passed a certain instant, each of them is over by then,
  given when requests are cancelled;
* `Task.Hushed`: once the request has been cancelled, there are none, and all that is still done is
  quiet;
* `Task.Listens`: each of them ends with a cancellation of the request, after which the task is
  hushed.

A property of tasks that is kept by all the ways in which tasks are built on behalf of a request is
a `Service`. The four above are (`service_waits`, `service_heeds`, `service_serves`); so what is
built in these ways has them all at once, as an operation that is attempted again and again
(`Service.execute`). -/

namespace TokenChain

/-- A clock can show the instant. -/
def Instant.IsShown (t : Instant) : Prop := t.nanos / 1000000000 ≤ Instant.lastSecond

/-- The deadline of a request comes by the given instant, or its cancellation does, given when
cancellations are to take place. -/
def Request.EndsBy (r : Request) (cancelAt : CancelKey → Option Instant) (late : Instant) : Prop :=
  (late.IsShown ∧ ∃ d ≤ late, r.deadline = some d) ∨ ∃ c ≤ late, cancelAt r.cancel = some c

namespace Task

variable {σ τ α β : Type}

/-- A task waits no more than so often, and what is undone when it is dropped is quiet. -/
def Waits (Quiet : σ → σ → Prop) : Task σ α → Nat → Prop
  | done _, _ | crash, _ => True
  | look k, n => ∀ m, Waits Quiet (k m) n
  | note _ k, n => Waits Quiet k n
  | step _ k, n => ∀ s, Waits Quiet (k s) n
  | wait v k, n => (∀ s, Quiet s (v.abandon s)) ∧ ∃ m < n, ∀ x, Waits Quiet (k x) m

/-- As long as the clock has not passed the given instant, no wait of a task lasts beyond it. -/
def Heeds (cancelAt : CancelKey → Option Instant) (late : Instant) : Task σ α → Prop
  | done _ | crash => True
  | look k => ∀ m, m.now ≤ late → Heeds cancelAt late (k m)
  | note _ k => Heeds cancelAt late k
  | step _ k => ∀ s, Heeds cancelAt late (k s)
  | wait v k =>
    (∃ t ≤ late, v.due = some t ∨ v.deadline = some t ∨ v.cancel.bind cancelAt = some t) ∧
    ∀ x, Heeds cancelAt late (k x)

/-- Once a request has been cancelled, all that a task does is quiet, and it does not wait any
more. -/
def Hushed (key : CancelKey) (Quiet : σ → σ → Prop) : Task σ α → Prop
  | done _ | crash => True
  | look k => ∀ m, m.cancelled key = true → Hushed key Quiet (k m)
  | note _ k => Hushed key Quiet k
  | step f k => (∀ s, Quiet s (f s)) ∧ ∀ s, Hushed key Quiet (k s)
  | wait v k => v.cancel = some key ∧ Hushed key Quiet (k .cancelled)

/-- Wherever a task waits, a cancellation of the request ends the wait, and the task is hushed from
then on. -/
def Listens (key : CancelKey) (Quiet : σ → σ → Prop) : Task σ α → Prop
  | done _ | crash => True
  | look k => ∀ m, Listens key Quiet (k m)
  | note _ k => Listens key Quiet k
  | step _ k => ∀ s, Listens key Quiet (k s)
  | wait v k =>
    (v.cancel = some key ∧ (∀ s, Quiet s (v.abandon s)) ∧ Hushed key Quiet (k .cancelled)) ∧
    ∀ x, Listens key Quiet (k x)

/-- What a request that is cancelled, before or at a wait, makes of a task. -/
structure Serves (key : CancelKey) (Quiet : σ → σ → Prop) (t : Task σ α) : Prop where
  hushed : t.Hushed key Quiet
  listens : t.Listens key Quiet

/-- **What is kept** by all the ways in which tasks are built on behalf of a request. -/
structure Service (r : Request) (Quiet : σ → σ → Prop) (C : ∀ α : Type, Task σ α → Nat → Prop) :
    Prop where
  done : ∀ {α : Type} (a : α) (n : Nat), C α (.done a) n
  crash : ∀ {α : Type} (n : Nat), C α .crash n
  mono : ∀ {α : Type} {t : Task σ α} {n n' : Nat}, C α t n → n ≤ n' → C α t n'
  look : ∀ {α : Type} {k : Moment → Task σ α} {n : Nat}, (∀ m, C α (k m) n) → C α (.look k) n
  note : ∀ {α : Type} {e : Note} {t : Task σ α} {n : Nat}, C α t n → C α (.note e t) n
  step : ∀ {α : Type} {f : σ → σ} {k : σ → Task σ α} {n : Nat}, (∀ s, Quiet s (f s)) →
    (∀ s, C α (k s) n) → C α (.step f k) n
  bind : ∀ {α β : Type} {t : Task σ α} {g : α → Task σ β} {n k : Nat}, C α t n →
    (∀ a, C β (g a) k) → C β (t.bind g) (n + k)
  onLoss : ∀ {α : Type} {release : σ → σ} {t : Task σ α} {n : Nat},
    (∀ s, Quiet s (release s)) → C α t n → C α (t.onLoss release) n
  within : ∀ {α : Type} {work : Task σ (Except Error α)} {n : Nat} (credential : String)
    (limit : Option Duration), work.Waits Quiet n →
    C (Except Error α) (r.within credential limit work) n
  pause : ∀ delay : Duration, C (Option String) (r.pause delay) 1

/-! ### Waits -/

section Waits
variable {Quiet : σ → σ → Prop}

theorem Waits.mono {t : Task σ α} {n n' : Nat} (h : t.Waits Quiet n) (le : n ≤ n') :
    t.Waits Quiet n' := by
  induction t generalizing n n' with
  | done a => trivial
  | crash => trivial
  | look k ih => exact fun m => ih m (h m) le
  | note e k ih => exact ih h le
  | step f k ih => exact fun s => ih s (h s) le
  | wait v k =>
    obtain ⟨quiet, m, hm, hk⟩ := h
    exact ⟨quiet, m, Nat.lt_of_lt_of_le hm le, hk⟩

theorem Waits.weaken {Quiet' : σ → σ → Prop} (le : ∀ {a b}, Quiet a b → Quiet' a b)
    {t : Task σ α} {n : Nat} (h : t.Waits Quiet n) : t.Waits Quiet' n := by
  induction t generalizing n with
  | done a => trivial
  | crash => trivial
  | look k ih => exact fun m => ih m (h m)
  | note e k ih => exact ih h
  | step f k ih => exact fun s => ih s (h s)
  | wait v k ih =>
    obtain ⟨quiet, m, hm, hk⟩ := h
    exact ⟨fun s => le (quiet s), m, hm, fun x => ih x (hk x)⟩

theorem Waits.bind {t : Task σ α} {g : α → Task σ β} {n k : Nat} (h : t.Waits Quiet n)
    (hg : ∀ a, (g a).Waits Quiet k) : (t.bind g).Waits Quiet (n + k) := by
  induction t generalizing n with
  | done a => exact (hg a).mono (Nat.le_add_left k n)
  | crash => trivial
  | look q ih => exact fun m => ih m (h m)
  | note e q ih => exact ih h
  | step f q ih => exact fun s => ih s (h s)
  | wait v q ih =>
    obtain ⟨quiet, m, hm, hq⟩ := h
    exact ⟨quiet, m + k, Nat.add_lt_add_right hm k, fun x => ih x (hq x)⟩

theorem Waits.onLoss {t : Task σ α} {n : Nat} {release : σ → σ}
    (trans : ∀ {a b c}, Quiet a b → Quiet b c → Quiet a c) (hr : ∀ s, Quiet s (release s))
    (h : t.Waits Quiet n) : (t.onLoss release).Waits Quiet n := by
  induction t generalizing n with
  | done a => trivial
  | crash => exact fun _ => trivial
  | look k ih => exact fun m => ih m (h m)
  | note e k ih => exact ih h
  | step f k ih => exact fun s => ih s (h s)
  | wait v k ih =>
    obtain ⟨quiet, m, hm, hk⟩ := h
    exact ⟨fun s => trans (quiet s) (hr _), m, hm, fun x => ih x (hk x)⟩

theorem Waits.zoom {Quiet' : τ → τ → Prop} (part : τ → σ) (put : σ → τ → τ)
    (lift : ∀ {s t}, Quiet (part t) s → Quiet' t (put s t)) {t : Task σ α} {n : Nat}
    (h : t.Waits Quiet n) : (t.zoom part put).Waits Quiet' n := by
  induction t generalizing n with
  | done a => trivial
  | crash => trivial
  | look k ih => exact fun m => ih m (h m)
  | note e k ih => exact ih h
  | step f k ih => exact fun s => ih _ (h _)
  | wait v k ih =>
    obtain ⟨quiet, m, hm, hk⟩ := h
    exact ⟨fun s => lift (quiet _), m, hm, fun x => ih x (hk x)⟩

theorem Waits.giveUp {t : Task σ α} {n : Nat} (h : t.Waits Quiet n) (key : CancelKey)
    (deadline : Option Instant) (a b : α) : (t.giveUp key deadline a b).Waits Quiet n := by
  induction t generalizing n with
  | done a => trivial
  | crash => trivial
  | look k ih => exact fun m => ih m (h m)
  | note e k ih => exact ih h
  | step f k ih => exact fun s => ih s (h s)
  | wait v k ih =>
    obtain ⟨quiet, m, hm, hk⟩ := h
    refine ⟨quiet, m, hm, fun x => ?_⟩
    cases x with
    | ready => exact ih .ready (hk .ready)
    | cancelled | expired => exact fun _ => trivial

theorem within_of_giveUp {C : Task σ (Except Error α) → Prop} {r : Request} {credential : String}
    {limit : Option Duration} {work : Task σ (Except Error α)} (m : Moment)
    (done : ∀ x, C (.done x)) (crash : C .crash)
    (giveUp : m.cancelled r.cancel = false → ∀ limitEnd a b,
      C (work.giveUp r.cancel (Instant.earliest r.deadline limitEnd) a b)) :
    C (if m.cancelled r.cancel then .done (.error (.timeout credential Request.cancelledMessage))
      else match Request.limitEnd? m.now limit with
        | none => .crash
        | some limitEnd => work.giveUp r.cancel (Instant.earliest r.deadline limitEnd)
            (.error (.timeout credential Request.cancelledMessage))
            (.error (.timeout credential (r.expiredMessage limit m.now)))) := by
  cases cancelled : m.cancelled r.cancel with
  | true => exact done _
  | false =>
    rw [if_neg Bool.false_ne_true]
    split
    · exact crash
    · exact giveUp cancelled ..

/-- **The number of waits** is bounded for what is built on behalf of a request. -/
theorem service_waits (r : Request) (refl : ∀ s, Quiet s s)
    (trans : ∀ {a b c}, Quiet a b → Quiet b c → Quiet a c) :
    Service r Quiet fun _ t n => t.Waits Quiet n where
  done _ _ := trivial
  crash _ := trivial
  mono h le := h.mono le
  look h := h
  note h := h
  step _ h := h
  bind h hg := h.bind hg
  onLoss hr h := h.onLoss trans hr
  within _ _ h :=
      fun m => within_of_giveUp (C := fun t => t.Waits Quiet _) m
          (fun _ => trivial) trivial fun _ _ _ _ =>
    h.giveUp ..
  pause delay := by
    intro m
    dsimp only
    split
    · trivial
    · refine ⟨refl, 0, Nat.zero_lt_one, fun x => ?_⟩
      cases x <;> trivial

end Waits

/-! ### Deadlines -/

section Heeds
variable {cancelAt : CancelKey → Option Instant} {late : Instant}

theorem Heeds.bind {t : Task σ α} {g : α → Task σ β} (h : t.Heeds cancelAt late)
    (hg : ∀ a, (g a).Heeds cancelAt late) : (t.bind g).Heeds cancelAt late := by
  induction t with
  | done a => exact hg a
  | crash => trivial
  | look k ih => exact fun m hm => ih m (h m hm)
  | note e k ih => exact ih h
  | step f k ih => exact fun s => ih s (h s)
  | wait v k ih => exact ⟨h.1, fun x => ih x (h.2 x)⟩

theorem Heeds.onLoss {t : Task σ α} (release : σ → σ) (h : t.Heeds cancelAt late) :
    (t.onLoss release).Heeds cancelAt late := by
  induction t with
  | done a => trivial
  | crash => exact fun _ => trivial
  | look k ih => exact fun m hm => ih m (h m hm)
  | note e k ih => exact ih h
  | step f k ih => exact fun s => ih s (h s)
  | wait v k ih => exact ⟨h.1, fun x => ih x (h.2 x)⟩

theorem Heeds.zoom {part : τ → σ} {put : σ → τ → τ} {t : Task σ α} (h : t.Heeds cancelAt late) :
    (t.zoom part put).Heeds cancelAt late := by
  induction t with
  | done a => trivial
  | crash => trivial
  | look k ih => exact fun m hm => ih m (h m hm)
  | note e k ih => exact ih h
  | step f k ih => exact fun s => ih _ (h _)
  | wait v k ih => exact ⟨h.1, fun x => ih x (h.2 x)⟩

theorem earliest_le {d : Option Instant} {a : Instant} (ha : a ≤ late) :
    ∃ t ≤ late, Instant.earliest (some a) d = some t := by
  cases d with
  | none => exact ⟨a, ha, rfl⟩
  | some b =>
    refine ⟨min a b, ?_, rfl⟩
    show min a.nanos b.nanos ≤ late.nanos
    have first : a.nanos ≤ late.nanos := ha
    omega

theorem earliest_comm : ∀ a b : Option Instant, Instant.earliest a b = Instant.earliest b a
  | some _, some _ => congrArg (some ∘ Instant.mk) (Int.min_comm ..)
  | some _, none | none, some _ | none, none => rfl

/-- A task that may be given up waits for nothing beyond the deadline or the cancellation. -/
theorem heeds_giveUp {key : CancelKey} {deadline : Option Instant} (t : Task σ α) (a b : α)
    (ends : ∃ c ≤ late, deadline = some c ∨ cancelAt key = some c) :
    (t.giveUp key deadline a b).Heeds cancelAt late := by
  induction t with
  | done a => trivial
  | crash => trivial
  | look k ih => exact fun m _ => ih m
  | note e k ih => exact ih
  | step f k ih => exact ih
  | wait v k ih =>
    refine ⟨?_, fun x => ?_⟩
    · obtain ⟨c, hc, alarm⟩ := ends
      exact ⟨c, hc, .inr alarm⟩
    · cases x with
      | ready => exact ih .ready
      | cancelled | expired => exact fun _ => trivial

theorem earliest_of_endsBy {r : Request} (ends : r.EndsBy cancelAt late)
    (limitEnd : Option Instant) :
    ∃ c ≤ late, Instant.earliest r.deadline limitEnd = some c ∨ cancelAt r.cancel = some c := by
  rcases ends with ⟨-, d, hd, deadline⟩ | ⟨c, hc, cancelled⟩
  · obtain ⟨t, ht, first⟩ := earliest_le (d := limitEnd) hd
    exact ⟨t, ht, .inl (deadline ▸ first)⟩
  · exact ⟨c, hc, .inr cancelled⟩

theorem heeds_pause {r : Request} (ends : r.EndsBy cancelAt late) (delay : Duration) :
    (r.pause delay : Task σ (Option String)).Heeds cancelAt late := by
  intro m hm
  dsimp only
  split_ifs with short
  · trivial
  · refine ⟨?_, fun x => by cases x <;> trivial⟩
    rcases ends with ⟨shown, d, hd, deadline⟩ | ⟨c, hc, cancelled⟩
    · have fits : m.now + delay ≤ late := by
        simp only [Request.remaining, deadline, Option.map_some, Option.any_some,
          decide_eq_true_eq, Duration.lt_iff, Instant.since, Instant.le_iff, Instant.add_nanos] at *
        omega
      have due : m.now.after? delay = some (m.now + delay) := by
        rw [Instant.after?, if_pos]
        simp only [Instant.IsShown, Instant.le_iff] at *
        omega
      rw [due]
      exact ⟨_, fits, .inl rfl⟩
    · exact ⟨c, hc, .inr (.inr cancelled)⟩

/-- **The end of a request is heeded** by what is built on its behalf. -/
theorem service_heeds {r : Request} (ends : r.EndsBy cancelAt late) (Quiet : σ → σ → Prop) :
    Service r Quiet fun _ t _ => t.Heeds cancelAt late where
  done _ _ := trivial
  crash _ := trivial
  mono h _ := h
  look h := fun m _ => h m
  note h := h
  step _ h := h
  bind h hg := h.bind hg
  onLoss _ h := h.onLoss _
  within _ _ _ :=
    fun m _ => within_of_giveUp (C := fun t => t.Heeds cancelAt late) m (fun _ => trivial) trivial
    fun _ limitEnd _ _ => heeds_giveUp _ _ _ (earliest_of_endsBy ends limitEnd)
  pause delay := heeds_pause ends delay

end Heeds

/-! ### Cancellations -/

section Serves
variable {key : CancelKey} {Quiet : σ → σ → Prop}

theorem Hushed.bind {t : Task σ α} {g : α → Task σ β} (h : t.Hushed key Quiet)
    (hg : ∀ a, (g a).Hushed key Quiet) : (t.bind g).Hushed key Quiet := by
  induction t with
  | done a => exact hg a
  | crash => trivial
  | look k ih => exact fun m hm => ih m (h m hm)
  | note e k ih => exact ih h
  | step f k ih => exact ⟨h.1, fun s => ih s (h.2 s)⟩
  | wait v k ih => exact ⟨h.1, ih .cancelled h.2⟩

theorem Listens.bind {t : Task σ α} {g : α → Task σ β} (h : t.Listens key Quiet)
    (hg : ∀ a, (g a).Serves key Quiet) : (t.bind g).Listens key Quiet := by
  induction t with
  | done a => exact (hg a).listens
  | crash => trivial
  | look k ih => exact fun m => ih m (h m)
  | note e k ih => exact ih h
  | step f k ih => exact fun s => ih s (h s)
  | wait v k ih =>
    obtain ⟨⟨listens, quiet, hushed⟩, hk⟩ := h
    exact ⟨⟨listens, quiet, hushed.bind fun a => (hg a).hushed⟩, fun x => ih x (hk x)⟩

theorem Hushed.onLoss {t : Task σ α} {release : σ → σ} (hr : ∀ s, Quiet s (release s))
    (h : t.Hushed key Quiet) : (t.onLoss release).Hushed key Quiet := by
  induction t with
  | done a => trivial
  | crash => exact ⟨hr, fun _ => trivial⟩
  | look k ih => exact fun m hm => ih m (h m hm)
  | note e k ih => exact ih h
  | step f k ih => exact ⟨h.1, fun s => ih s (h.2 s)⟩
  | wait v k ih => exact ⟨h.1, ih .cancelled h.2⟩

theorem Listens.onLoss {t : Task σ α} {release : σ → σ}
    (trans : ∀ {a b c}, Quiet a b → Quiet b c → Quiet a c) (hr : ∀ s, Quiet s (release s))
    (h : t.Listens key Quiet) : (t.onLoss release).Listens key Quiet := by
  induction t with
  | done a => trivial
  | crash => exact fun _ => trivial
  | look k ih => exact fun m => ih m (h m)
  | note e k ih => exact ih h
  | step f k ih => exact fun s => ih s (h s)
  | wait v k ih =>
    obtain ⟨⟨listens, quiet, hushed⟩, hk⟩ := h
    exact ⟨⟨listens, fun s => trans (quiet s) (hr _), hushed.onLoss hr⟩, fun x => ih x (hk x)⟩

section Zoom
variable {Quiet' : τ → τ → Prop} {part : τ → σ} {put : σ → τ → τ}

theorem Hushed.zoom (lift : ∀ {s t}, Quiet (part t) s → Quiet' t (put s t)) {t : Task σ α}
    (h : t.Hushed key Quiet) : (t.zoom part put).Hushed key Quiet' := by
  induction t with
  | done a => trivial
  | crash => trivial
  | look k ih => exact fun m hm => ih m (h m hm)
  | note e k ih => exact ih h
  | step f k ih => exact ⟨fun s => lift (h.1 _), fun s => ih _ (h.2 _)⟩
  | wait v k ih => exact ⟨h.1, ih .cancelled h.2⟩

theorem Serves.zoom (part : τ → σ) (put : σ → τ → τ)
    (lift : ∀ {s t}, Quiet (part t) s → Quiet' t (put s t)) {t : Task σ α}
    (h : t.Serves key Quiet) : (t.zoom part put).Serves key Quiet' := by
  refine ⟨h.hushed.zoom lift, ?_⟩
  have listens := h.listens
  clear h
  induction t with
  | done a => trivial
  | crash => trivial
  | look k ih => exact fun m => ih m (listens m)
  | note e k ih => exact ih listens
  | step f k ih => exact fun s => ih _ (listens _)
  | wait v k ih =>
    obtain ⟨⟨cancels, quiet, hushed⟩, hk⟩ := listens
    exact ⟨⟨cancels, fun s => lift (quiet _), hushed.zoom lift⟩, fun x => ih x (hk x)⟩

end Zoom

theorem Waits.listens_giveUp {t : Task σ α} {n : Nat} (h : t.Waits Quiet n)
    (deadline : Option Instant) (a b : α) : (t.giveUp key deadline a b).Listens key Quiet := by
  induction t generalizing n with
  | done a => trivial
  | crash => trivial
  | look k ih => exact fun m => ih m (h m)
  | note e k ih => exact ih h
  | step f k ih => exact fun s => ih s (h s)
  | wait v k ih =>
    obtain ⟨quiet, m, -, hk⟩ := h
    refine ⟨⟨rfl, quiet, quiet, fun _ => trivial⟩, fun x => ?_⟩
    cases x with
    | ready => exact ih .ready (hk .ready)
    | cancelled | expired => exact fun _ => trivial

/-- **Cancellations are listened to** by what is built on behalf of a request. -/
theorem service_serves (r : Request) (refl : ∀ s, Quiet s s)
    (trans : ∀ {a b c}, Quiet a b → Quiet b c → Quiet a c) :
    Service r Quiet fun _ t _ => t.Serves r.cancel Quiet where
  done _ _ := ⟨trivial, trivial⟩
  crash _ := ⟨trivial, trivial⟩
  mono h _ := h
  look h := ⟨fun m _ => (h m).hushed, fun m => (h m).listens⟩
  note h := ⟨h.hushed, h.listens⟩
  step quiet h := ⟨⟨quiet, fun s => (h s).hushed⟩, fun s => (h s).listens⟩
  bind h hg := ⟨h.hushed.bind fun a => (hg a).hushed, h.listens.bind hg⟩
  onLoss hr h := ⟨h.hushed.onLoss hr, h.listens.onLoss trans hr⟩
  within credential limit h := by
    refine ⟨fun m hm => ?_, fun m => ?_⟩
    · dsimp only
      rw [if_pos hm]
      trivial
    · exact within_of_giveUp (C := fun t => t.Listens r.cancel Quiet) m
          (fun _ => trivial) trivial fun _ _ _ _ =>
        h.listens_giveUp ..
  pause delay := by
    refine ⟨fun m _ => ?_, fun m => ?_⟩
    all_goals
      dsimp only
      split
      · trivial
    · exact ⟨rfl, trivial⟩
    · refine ⟨⟨rfl, refl, trivial⟩, fun x => ?_⟩
      cases x <;> trivial

end Serves

/-! ### Parts of the state -/

section Part
variable {part : τ → σ} {put : σ → τ → τ}

theorem zoom_giveUp (t : Task σ α) (key : CancelKey) (deadline : Option Instant) (a b : α) :
    (t.giveUp key deadline a b).zoom part put = (t.zoom part put).giveUp key deadline a b := by
  induction t with
  | done a => rfl
  | crash => rfl
  | look k ih => exact congrArg look (funext ih)
  | note e k ih => exact congrArg (note e) ih
  | step f k ih => exact congrArg (step _) (funext fun t => ih (part t))
  | wait v k ih =>
    refine congrArg (wait _) (funext fun x => ?_)
    cases x with
    | ready => exact ih .ready
    | cancelled | expired => rfl

/-- What is done on a part of the state within the bounds of a request is within these bounds on the
whole. -/
theorem zoom_within (r : Request) (credential : String) (limit : Option Duration)
    (work : Task σ (Except Error α)) :
    (r.within credential limit work).zoom part put =
      r.within credential limit (work.zoom part put) := by
  refine congrArg look (funext fun m => ?_)
  dsimp only
  split
  · rfl
  · split
    · rfl
    · exact zoom_giveUp ..

end Part

/-! ### Attempts -/

namespace Service

variable {r : Request} {Quiet : σ → σ → Prop} {C : ∀ α : Type, Task σ α → Nat → Prop}

theorem bind_after (s : Service r Quiet C) {t : Task σ α} {g : α → Task σ β} {n : Nat} (h : C α t 0)
    (hg : ∀ a, C β (g a) n) : C β (t.bind g) n := by
  have := s.bind h hg
  rwa [Nat.zero_add] at this

theorem surrender (s : Service r Quiet C) (credential : String) (spent : Nat) (e : Error) :
    C (Except Error α) (RetryPolicy.surrender credential spent e) 0 := by
  rw [RetryPolicy.surrender]
  split
  · exact s.note (s.done ..)
  · exact s.done ..

/-- **An operation that is attempted again and again** waits as often as it does at once, for each
attempt, and once between any two of them. -/
theorem executeFrom (s : Service r Quiet C) {p : RetryPolicy} {credential : String}
    {operation : Nat → Task σ (Except Error α)} {n : Nat} (h : ∀ k, (operation k).Waits Quiet n) :
    ∀ left spent,
      C (Except Error α) (p.executeFrom r credential (fun _ => .done ()) operation left spent)
        ((n + 1) * left + n)
  | 0, spent => by
    rw [RetryPolicy.executeFrom, Nat.mul_zero, Nat.zero_add]
    refine s.bind (k := 0) (s.bind_after (s.done ..) fun _ => s.within _ _ (h spent)) fun x => ?_
    cases x with
    | ok a => exact s.done ..
    | error e => exact s.surrender ..
  | left + 1, spent => by
    have budget : (n + 1) * (left + 1) + n = n + (1 + ((n + 1) * left + n)) := by
      rw [Nat.mul_add]
      omega
    rw [RetryPolicy.executeFrom, budget]
    refine s.bind (s.bind_after (s.done ..) fun _ => s.within _ _ (h spent)) fun x => ?_
    cases x with
    | ok a => exact s.done ..
    | error e =>
      dsimp only
      split
      · refine s.note (s.bind (s.pause _) fun x => ?_)
        cases x with
        | some reason => exact s.done ..
        | none => exact s.executeFrom h left (spent + 1)
      · exact s.mono (s.surrender ..) (Nat.zero_le _)

theorem execute (s : Service r Quiet C) (p : RetryPolicy) (credential : String)
    {operation : Nat → Task σ (Except Error α)} {n : Nat} (h : ∀ k, (operation k).Waits Quiet n) :
    C (Except Error α) (p.execute r credential (fun _ => .done ()) operation) (p.patience n) :=
  s.executeFrom h p.maxRetries.toNat 0

end Service

end Task

end TokenChain
