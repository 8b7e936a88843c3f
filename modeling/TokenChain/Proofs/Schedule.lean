import Mathlib.Data.List.Nodup
import Mathlib.Data.List.Perm.Basic
import TokenChain.Proofs.Task.Crowd
import TokenChain.Session

/-! # Schedules are crowds

A schedule lets its jobs go on in an order of its own. Each job is a caller of a crowd that does
what the job does (`Schedule.Mirrors`), and all that a schedule does is done by moves of this crowd:
a job that goes on takes one step after another (`Crowd.reaches_run`), one that is aborted is
dropped, and the clock moves around the callers. So what holds wherever a crowd gets holds wherever
a schedule stops (`Schedule.reaches_runTo`), and so after the calls of a session
(`Session.reaches_runCalls`). -/

namespace TokenChain

variable {ι σ α : Type}

/-- What is left of a task that has come to a pause. -/
def Pause.rest : Pause σ α → Task σ α
  | .done a => .done a
  | .crashed => .crash
  | .waiting v k => .wait v k

/-- The second task waits, without anything to undo, until it is the first one. -/
inductive Task.Delays (t : Task σ α) : Task σ α → Prop
  | now : Delays t t
  | wait {v : Wait σ} {k : Wake → Task σ α} (harmless : ∀ s, v.abandon s = s)
      (rest : ∀ x, Delays t (k x)) : Delays t (.wait v k)

namespace Crowd

variable {begins : ι → Task σ α} {Around : World σ → World σ → Prop}

@[simp] theorem put_put (g : Crowd ι σ α) (w w' : World σ) (id : Nat)
    (c c' : Option (Caller ι σ α)) : (g.put w id c).put w' id c' = g.put w' id c' := by
  simp [put]

theorem put_self {g : Crowd ι σ α} {id : Nat} {c : Option (Caller ι σ α)}
    (here : g.callers id = c) : g.put g.world id c = g := by
  simp [put, ← here]

@[simp] theorem callers_put_self (g : Crowd ι σ α) (w : World σ) (id : Nat)
    (c : Option (Caller ι σ α)) : (g.put w id c).callers id = c := by
  simp [put]

theorem callers_put_of_ne {g : Crowd ι σ α} {i j : Nat} (hne : j ≠ i) (w : World σ)
    (c : Option (Caller ι σ α)) : (g.put w i c).callers j = g.callers j := by
  simp [put, hne]

theorem reaches_of_next {g : Crowd ι σ α} {id : Nat} {c : Caller ι σ α}
    {w₁ w : World σ} {u t : Task σ α} (here : g.callers id = some c)
    (next : c.rest.next? g.world = some (w₁, u))
    (later : ∃ c', Reaches begins Around (g.put w₁ id (some (c.after g.world w₁ u)))
      ((g.put w₁ id (some (c.after g.world w₁ u))).put w id (some c')) ∧ c'.rest = t) :
    ∃ c', Reaches begins Around g (g.put w id (some c')) ∧ c'.rest = t := by
  obtain ⟨c', reaches, rest⟩ := later
  rw [put_put] at reaches
  exact ⟨c', .head ⟨_, .go here next⟩ reaches, rest⟩

variable (begins Around) in
/-- **A caller that goes on** until its next pause does so step by step. -/
theorem reaches_run {t : Task σ α} {g : Crowd ι σ α} {id : Nat} {c : Caller ι σ α}
    {w : World σ} {p : Pause σ α} (here : g.callers id = some c) (rest : c.rest = t)
    (run : t.run g.world = (w, p)) :
    ∃ c', Reaches begins Around g (g.put w id (some c')) ∧ c'.rest = p.rest := by
  induction t generalizing g c with
  | done a =>
    cases run
    exact ⟨c, by rw [put_self here], rest⟩
  | crash =>
    cases run
    exact ⟨c, by rw [put_self here], rest⟩
  | look k ih =>
    have next : c.rest.next? g.world = some (g.world, k g.world.toMoment) := by
      rw [rest, Task.next?]
    exact reaches_of_next here next (ih _ (callers_put_self ..) rfl run)
  | note n k ih =>
    have next : c.rest.next? g.world = some (g.world.append n, k) := by rw [rest, Task.next?]
    exact reaches_of_next here next (ih (callers_put_self ..) rfl run)
  | step f k ih =>
    have next : c.rest.next? g.world =
        some ({ g.world with state := f g.world.state }, k g.world.state) := by
      rw [rest, Task.next?]
    exact reaches_of_next here next (ih _ (callers_put_self ..) rfl run)
  | wait v k ih =>
    rw [Task.run] at run
    cases wakes : v.wake? g.world with
    | none =>
      rw [wakes] at run
      cases run
      exact ⟨c, by rw [put_self here], rest⟩
    | some x =>
      rw [wakes] at run
      have next : c.rest.next? g.world = some (g.world, k x) := by
        rw [rest, Task.next?, wakes, Option.map_some]
      exact reaches_of_next here next (ih x (callers_put_self ..) rfl run)

/-- Somebody or nobody in a crowd stands for a task: a caller that has it left to do, or nobody, as
long as the task only waits until a caller begins. -/
inductive Stands (begins : ι → Task σ α) : Option (Caller ι σ α) → Task σ α → Prop
  | pending {order : ι} {v : Wait σ} {k : Wake → Task σ α} (harmless : ∀ s, v.abandon s = s)
      (delays : ∀ x, (begins order).Delays (k x)) : Stands begins none (.wait v k)
  | begun {c : Caller ι σ α} {t : Task σ α} (rest : c.rest = t) : Stands begins (some c) t

/-- A task that may have to wait until a caller begins goes on until its next pause. -/
theorem reaches_delayed {order : ι} {t : Task σ α} {g : Crowd ι σ α} {id : Nat}
    {w : World σ} {p : Pause σ α} (delays : (begins order).Delays t) (free : g.callers id = none)
    (run : t.run g.world = (w, p)) :
    ∃ c, Reaches begins Around g (g.put w id c) ∧ Stands begins c p.rest := by
  induction delays with
  | now =>
    have called :
        (g.put g.world id (some (.new begins order))).callers id = some (.new begins order) :=
      callers_put_self ..
    obtain ⟨c, reaches, rest⟩ := reaches_run begins Around called rfl run
    rw [put_put] at reaches
    exact ⟨some c, .head ⟨_, .call free⟩ reaches, .begun rest⟩
  | @wait v k harmless delays ih =>
    rw [Task.run] at run
    cases wakes : v.wake? g.world with
    | none =>
      rw [wakes] at run
      cases run
      exact ⟨none, by rw [put_self free], .pending harmless delays⟩
    | some x =>
      rw [wakes] at run
      exact ih x run

variable (Around) in
/-- **A task that wakes** goes on until its next pause. -/
theorem reaches_resume {v : Wait σ} {k : Wake → Task σ α} {x : Wake} {g : Crowd ι σ α}
    {id : Nat} {w : World σ} {p : Pause σ α} (stands : Stands begins (g.callers id) (.wait v k))
    (wakes : v.wake? g.world = some x) (run : (k x).run g.world = (w, p)) :
    ∃ c, Reaches begins Around g (g.put w id c) ∧ Stands begins c p.rest := by
  generalize here : g.callers id = c at stands
  cases stands with
  | pending harmless delays => exact reaches_delayed (delays x) here run
  | @begun c _ rest =>
    have woken : (Task.wait v k).run g.world = (w, p) := by rw [Task.run, wakes, ← run]
    obtain ⟨c', reaches, rest'⟩ := reaches_run begins Around here rest woken
    exact ⟨some c', reaches, .begun rest'⟩

variable (Around) in
/-- **A task that is dropped** at its wait. -/
theorem reaches_drop {v : Wait σ} {k : Wake → Task σ α} {g : Crowd ι σ α} {id : Nat}
    (stands : Stands begins (g.callers id) (.wait v k)) :
    Reaches begins Around g (g.put { g.world with state := v.abandon g.world.state } id none) := by
  generalize here : g.callers id = c at stands
  cases stands with
  | pending harmless delays =>
    rw [harmless, put_self here]
  | @begun c _ rest =>
    have dropped :
        c.rest.drop? g.world = some { g.world with state := v.abandon g.world.state } := by
      rw [rest, Task.drop?]
    exact .single ⟨_, .drop here dropped⟩

end Crowd

namespace Schedule

open Crowd

variable {begins : ι → Task σ α} {Around : World σ → World σ → Prop}

/-- A crowd has come as far as some jobs and those that are over: every job is a caller or will be
one, and the callers of jobs that ended with a value have ended with it. -/
structure Along (begins : ι → Task σ α) (jobs : List (Job σ α)) (finished : List (Finish α))
    (callers : Nat → Option (Caller ι σ α)) : Prop where
  stands : ∀ job ∈ jobs, Stands begins (callers job.id) (.wait job.wait job.resume)
  distinct : (jobs.map Job.id).Nodup
  values : ∀ f ∈ finished, ∀ a, f.ending = .value a → ∃ c, callers f.id = some c ∧ c.rest = .done a
  gone : ∀ f ∈ finished, f.id ∉ jobs.map Job.id

theorem Along.perm {jobs jobs' : List (Job σ α)} {finished : List (Finish α)}
    {callers : Nat → Option (Caller ι σ α)} (h : Along begins jobs finished callers)
    (perm : jobs'.Perm jobs) : Along begins jobs' finished callers where
  stands job hjob := h.stands job (perm.mem_iff.mp hjob)
  distinct := (perm.map Job.id).nodup_iff.mpr h.distinct
  values := h.values
  gone f hf hid := h.gone f hf ((perm.map Job.id).mem_iff.mp hid)

theorem Along.stands_put {job : Job σ α} {jobs : List (Job σ α)}
    {finished : List (Finish α)} {g : Crowd ι σ α}
    (h : Along begins (job :: jobs) finished g.callers) (w : World σ) (c : Option (Caller ι σ α)) :
    ∀ other ∈ jobs, Stands begins ((g.put w job.id c).callers other.id)
      (.wait other.wait other.resume) := by
  intro other hother
  have hne : other.id ≠ job.id := fun he =>
    (List.nodup_cons.mp h.distinct).1 (he ▸ List.mem_map_of_mem hother)
  rw [callers_put_of_ne hne]
  exact h.stands other (List.mem_cons_of_mem job hother)

theorem Along.values_put {job : Job σ α} {jobs : List (Job σ α)}
    {finished : List (Finish α)} {g : Crowd ι σ α}
    (h : Along begins (job :: jobs) finished g.callers) (w : World σ) (c : Option (Caller ι σ α)) :
    ∀ f ∈ finished, ∀ a, f.ending = .value a → ∃ d, (g.put w job.id c).callers f.id =
      some d ∧ d.rest = .done a := by
  intro f hf a ha
  have hne : f.id ≠ job.id := fun he => h.gone f hf (he ▸ List.mem_cons_self)
  rw [callers_put_of_ne hne]
  exact h.values f hf a ha

theorem Along.wait {job : Job σ α} {jobs : List (Job σ α)} {finished : List (Finish α)}
    {g : Crowd ι σ α} {w : World σ} {c : Option (Caller ι σ α)} {v : Wait σ} {k : Wake → Task σ α}
    (h : Along begins (job :: jobs) finished g.callers) (stands : Stands begins c (.wait v k)) :
    Along begins ({ job with wait := v, resume := k } :: jobs) finished
      (g.put w job.id c).callers where
  stands other hother := by
    rcases List.mem_cons.mp hother with rfl | hother
    · rw [callers_put_self]
      exact stands
    · exact h.stands_put w c other hother
  distinct := h.distinct
  values := h.values_put w c
  gone := h.gone

theorem Along.finish {job : Job σ α} {jobs : List (Job σ α)}
    {finished : List (Finish α)} {g : Crowd ι σ α} {w : World σ} {c : Option (Caller ι σ α)}
    {ending : Ending α} {time : Instant} (h : Along begins (job :: jobs) finished g.callers)
    (value : ∀ a, ending = .value a → ∃ d, c = some d ∧ d.rest = .done a) :
    Along begins jobs (finished ++ [⟨job.id, ending, time⟩]) (g.put w job.id c).callers where
  stands := h.stands_put w c
  distinct := (List.nodup_cons.mp h.distinct).2
  values f hf a ha := by
    rcases List.mem_append.mp hf with hf | hf
    · exact h.values_put w c f hf a ha
    · cases List.mem_singleton.mp hf
      rw [callers_put_self]
      exact value a ha
  gone f hf hid := by
    rcases List.mem_append.mp hf with hf | hf
    · exact h.gone f hf (List.mem_cons_of_mem _ hid)
    · cases List.mem_singleton.mp hf
      exact (List.nodup_cons.mp h.distinct).1 hid

/-- **A schedule and a crowd** in the same world that have come equally far. -/
structure Mirrors (begins : ι → Task σ α) (s : Schedule σ α) (g : Crowd ι σ α) : Prop where
  world : g.world = s.world
  along : Along begins (s.queue ++ s.blocked) s.finished g.callers

variable (Around) in
theorem reaches_park {s : Schedule σ α} {job : Job σ α} {g : Crowd ι σ α}
    (world : g.world = s.world)
    (along : Along begins (job :: (s.queue ++ s.blocked)) s.finished g.callers) :
    ∃ g', Reaches begins Around g g' ∧ Mirrors begins (s.park job) g' := by
  rw [park]
  split_ifs with late
  · have dropped := reaches_drop Around (along.stands job List.mem_cons_self)
    exact ⟨_, dropped, by rw [put_world, world]; rfl, along.finish nofun⟩
  · refine ⟨g, .refl, world, along.perm ?_⟩
    rw [← List.append_assoc]
    exact List.perm_append_singleton job (s.queue ++ s.blocked)

variable (Around) in
/-- **A job that goes on** does so by moves of the crowd. -/
theorem reaches_resumed {s : Schedule σ α} {job : Job σ α} {g : Crowd ι σ α}
    (world : g.world = s.world)
    (along : Along begins (job :: (s.queue ++ s.blocked)) s.finished g.callers) :
    ∃ g', Reaches begins Around g g' ∧ Mirrors begins (s.resume job) g' := by
  rw [resume]
  cases wakes : job.wait.wake? s.world with
  | none => exact reaches_park Around world along
  | some x =>
    rcases run : (job.resume x).run s.world with ⟨w, p⟩
    simp only [run]
    rw [← world] at wakes run
    obtain ⟨c, reaches, stands⟩ :=
      reaches_resume Around (along.stands job List.mem_cons_self) wakes run
    cases p with
    | done a =>
      cases stands with
      | begun rest =>
        refine ⟨_, reaches, rfl, along.finish ?_⟩
        rintro b ⟨⟩
        exact ⟨_, rfl, rest⟩
    | crashed => exact ⟨_, reaches, rfl, along.finish nofun⟩
    | waiting v k =>
      obtain ⟨g', parks, mirrors⟩ := reaches_park Around
        (s := { s with world := w }) (g := g.put w job.id c) rfl (along.wait stands)
      exact ⟨g', reaches.trans parks, mirrors⟩

theorem Mirrors.rouse {s : Schedule σ α} {g : Crowd ι σ α} (h : Mirrors begins s g) :
    Mirrors begins s.rouse g where
  world := h.world
  along := by
    have split := List.filter_append_perm (fun job : Job σ α => job.isAwake s.world) s.blocked
    refine h.along.perm ?_
    rw [Schedule.rouse, List.append_assoc]
    exact split.append_left s.queue

variable (Around) in
theorem Mirrors.resume {s : Schedule σ α} {g : Crowd ι σ α} {job : Job σ α} {rest : List (Job σ α)}
    (h : Mirrors begins s g) (queue : s.queue = job :: rest) :
    ∃ g', Reaches begins Around g g' ∧
      Mirrors begins (({ s with queue := rest }).resume job).rouse g' := by
  have along := h.along
  rw [queue] at along
  obtain ⟨g', reaches, mirrors⟩ :=
    reaches_resumed Around (s := { s with queue := rest }) h.world along
  exact ⟨g', reaches, mirrors.rouse⟩

theorem Mirrors.around {s : Schedule σ α} {g : Crowd ι σ α} {w : World σ} (h : Mirrors begins s g)
    (around : Around s.world w) :
    ∃ g', Reaches begins Around g g' ∧ Mirrors begins ({ s with world := w }).rouse g' := by
  rw [← h.world] at around
  have mirrors : Mirrors begins { s with world := w } { g with world := w } := ⟨rfl, h.along⟩
  exact ⟨_, .single ⟨_, .around around⟩, mirrors.rouse⟩

/-- **Jobs that go on** as long as they can do so by moves of the crowd. -/
theorem reaches_drain : ∀ (turns : Nat) {s : Schedule σ α} {g : Crowd ι σ α}, Mirrors begins s g →
    ∃ g', Reaches begins Around g g' ∧ Mirrors begins (s.drain turns) g'
  | 0, s, g, h => ⟨g, .refl, h⟩
  | turns + 1, s, g, h => by
    rw [drain]
    cases queue : s.queue with
    | nil => exact ⟨g, .refl, h⟩
    | cons job rest =>
      obtain ⟨g₁, reaches, h₁⟩ := h.resume Around queue
      obtain ⟨g', reaches', h'⟩ := reaches_drain turns h₁
      exact ⟨g', reaches.trans reaches', h'⟩

/-- **Schedules are crowds**: all that a schedule does is done by moves of a crowd, in which the
clock moves and cancellations take place around the callers. -/
theorem reaches_runTo (passes : ∀ {w w' : World σ}, w'.state = w.state → Around w w')
    (until? : Option Instant) :
    ∀ (turns : Nat) {s : Schedule σ α} {g : Crowd ι σ α}, Mirrors begins s g →
      ∃ g', Reaches begins Around g g' ∧ Mirrors begins (s.runTo until? turns) g'
  | 0, s, g, h => ⟨g, .refl, h⟩
  | turns + 1, s, g, h => by
    rw [runTo]
    cases queue : s.queue with
    | cons job rest =>
      obtain ⟨g₁, reaches, h₁⟩ := h.resume Around queue
      obtain ⟨g', reaches', h'⟩ := reaches_runTo passes until? turns h₁
      exact ⟨g', reaches.trans reaches', h'⟩
    | nil =>
      obtain ⟨g₁, reaches, h₁⟩ := h.around (w := s.world.cancelDue) (passes rfl)
      dsimp only
      split_ifs with idle
      · cases alarm : s.cancelDue.nextAlarm with
        | none => exact ⟨g₁, reaches, h₁⟩
        | some t =>
          obtain ⟨g₂, reaches₂, h₂⟩ := h₁.around (w := s.cancelDue.world.advance t) (passes rfl)
          dsimp only
          split_ifs with early
          · obtain ⟨g', reaches', h'⟩ := reaches_runTo passes until? turns h₂
            exact ⟨g', (reaches.trans reaches₂).trans reaches', h'⟩
          · exact ⟨g₁, reaches, h₁⟩
      · obtain ⟨g', reaches', h'⟩ := reaches_runTo passes until? turns h₁
        exact ⟨g', reaches.trans reaches', h'⟩

end Schedule

/-! ### Sessions -/

namespace Session

open Crowd Schedule

/-- Calls with the numbers under which they run. -/
def keyed (s : Session) (calls : List Call) : List (Call × CancelKey) :=
  calls.zipIdx.map fun p => (p.1, s.nextKey + p.2)

/-- The world in which calls begin. -/
def arranged (s : Session) (calls : List Call) : World (Shared Surroundings) :=
  (s.keyed calls).foldl (fun w p => s.arrange p.1 p.2 w) s.world

/-- What calls do, in the order in which they begin. -/
def start (s : Session) (calls : List Call) : Schedule (Shared Surroundings) (Except Error Token) :=
  { world := s.arranged calls, queue := (s.keyed calls).map fun p => s.job p.1 p.2 }

theorem arranged_state (s : Session) (calls : List Call) :
    (s.arranged calls).state = s.world.state := by
  rw [arranged]
  generalize s.world = w
  induction s.keyed calls generalizing w with
  | nil => rfl
  | cons p keyed ih =>
    have same : (s.arrange p.1 p.2 w).state = w.state := by
      rw [arrange]
      split
      · rfl
      · split <;> rfl
    rw [List.foldl_cons, ih, same]

theorem runCalls_eq (s : Session) (calls : List Call) :
    s.runCalls calls = ({ s with
        world := ((s.start calls).runTo none (s.turns calls)).world
        nextKey := s.nextKey + calls.length },
      (s.keyed calls).map fun p =>
        (((s.start calls).runTo none (s.turns calls)).finished.find? fun f =>
          f.id == p.2).map fun f => ⟨f.ending, f.time⟩) := rfl

/-- A call has a value only if its job has ended with it. -/
theorem mem_runCalls {s : Session} {calls : List Call} {x : Except Error Token} {time : Instant}
    (h : some ⟨.value x, time⟩ ∈ (s.runCalls calls).2) :
    ∃ f ∈ ((s.start calls).runTo none (s.turns calls)).finished, f.ending = .value x := by
  obtain ⟨p, -, hp⟩ := List.mem_map.mp h
  obtain ⟨f, hf, he⟩ := Option.map_eq_some_iff.mp hp
  exact ⟨f, List.mem_of_find?_eq_some hf, congrArg CallResult.ending he⟩

theorem nodup_keys (s : Session) (calls : List Call) : ((s.keyed calls).map Prod.snd).Nodup := by
  have keys : (s.keyed calls).map Prod.snd = (List.range calls.length).map (s.nextKey + ·) := by
    rw [keyed, List.map_map, List.range_eq_range', ← List.zipIdx_map_snd 0 calls, List.map_map]
    rfl
  rw [keys]
  exact List.nodup_range.map fun _ _ h => Nat.add_left_cancel h

theorem delays_job (s : Session) (c : Call) (key : CancelKey) (x : Wake) :
    (s.work c key).Delays ((s.job c key).resume x) := by
  show (s.work c key).Delays (if c.start.nanos = 0 then _ else _)
  split_ifs with now
  · exact .now
  · exact .wait (fun _ => rfl) fun _ => .now

/-- **The calls of a session** are the callers of a crowd, which leaves the same world behind; what
a call ends with is what some caller has ended with. -/
theorem reaches_runCalls {begins : ι → Task (Shared Surroundings) (Except Error Token)}
    {Around : World (Shared Surroundings) → World (Shared Surroundings) → Prop}
    (s : Session) (calls : List Call)
    (works : ∀ p ∈ s.keyed calls, ∃ order, begins order = s.work p.1 p.2)
    (passes : ∀ {w w' : World (Shared Surroundings)}, w'.state = w.state → Around w w') :
    ∃ g, Reaches begins Around (.empty (s.arranged calls)) g ∧
      g.world = (s.runCalls calls).1.world ∧ ∀ x time, some ⟨.value x, time⟩ ∈
        (s.runCalls calls).2 → ∃ id c, g.callers id = some c ∧ c.rest = .done x := by
  have begun : Mirrors begins (s.start calls) (.empty (s.arranged calls)) := by
    refine ⟨rfl, fun job hjob => ?_, ?_, nofun, nofun⟩
    · rw [start, List.append_nil] at hjob
      obtain ⟨p, hp, rfl⟩ := List.mem_map.mp hjob
      obtain ⟨order, horder⟩ := works p hp
      refine .pending (fun _ => rfl) fun x => (?_ : (begins order).Delays _)
      rw [horder]
      exact s.delays_job p.1 p.2 x
    · rw [start, List.append_nil, List.map_map]
      exact s.nodup_keys calls
  obtain ⟨g, reaches, mirrors⟩ := reaches_runTo passes none (s.turns calls) begun
  refine ⟨g, reaches, mirrors.world, fun x time h => ?_⟩
  obtain ⟨f, hf, hx⟩ := mem_runCalls h
  obtain ⟨c, here, rest⟩ := mirrors.along.values f hf x hx
  exact ⟨f.id, c, here, rest⟩

end Session

end TokenChain
