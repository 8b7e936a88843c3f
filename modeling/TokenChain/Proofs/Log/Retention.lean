import Mathlib.Data.List.DropRight
import TokenChain.Log.Handles

/-! # What a log retains

A log retains the last entries of all that were written to it since it was cleared, as many as it
has room for (`Log.Retains`). Writing keeps this, although a full log is recognized by its size
being its capacity exactly: a log never holds more than that, for there is room for one entry at
least (`Log.Retains.append`). A log with room for some more entries holds them behind all the others
(`Log.entries_foldl_append`).

In a logbook, the calls that reach a log come through the handles that lead to it at the time
(`Logbook.reaching`). Whatever else happens, the log retains what these calls have written
(`Logbook.retains_steps`), so each handle of it gives that to read, and what has been read stays as
it is (`Logbook.shows_of_steps`). -/

namespace TokenChain

namespace Log

variable {log : Log} {e : Entry} {es : List Entry}

/-! ### Room for more entries -/

theorem capacity_append (log : Log) (e : Entry) : (log.append e).capacity = log.capacity := by
  rw [append]
  split <;> rfl

theorem getLast?_append (log : Log) (e : Entry) : (log.append e).entries.getLast? = some e := by
  rw [append]
  split <;> exact List.getLast?_concat

theorem entries_append_of_lt (h : log.size < log.capacity) :
    (log.append e).entries = log.entries ++ [e] := by
  rw [append, if_neg (Nat.ne_of_lt h)]

theorem size_append_of_lt (h : log.size < log.capacity) : (log.append e).size = log.size + 1 := by
  rw [size, entries_append_of_lt h, List.length_append]
  rfl

theorem full_append (e : Entry) (h : log.capacity ≤ log.size) :
    (log.append e).capacity ≤ (log.append e).size := by
  rw [capacity_append, append]
  split <;> simp only [size, List.length_append, List.length_drop, List.length_singleton] at * <;>
    omega

/-- **A log with room** for more entries holds them behind all the others. -/
theorem entries_foldl_append (room : log.size + es.length ≤ log.capacity) :
    (es.foldl append log).entries = log.entries ++ es := by
  induction es generalizing log with
  | nil => exact (List.append_nil _).symm
  | cons e es ih =>
    rw [List.length_cons] at room
    have free : log.size < log.capacity := by omega
    rw [List.foldl_cons, ih, entries_append_of_lt free, List.append_assoc, List.singleton_append]
    rw [size_append_of_lt free, capacity_append]
    omega

/-- **A log that is not full** behind some entries had room for them. -/
theorem room_of_foldl_append (h : (es.foldl append log).size < (es.foldl append log).capacity) :
    log.size + es.length ≤ log.capacity := by
  have stays : ∀ (es : List Entry) {log : Log}, log.capacity ≤ log.size →
      (es.foldl append log).capacity ≤ (es.foldl append log).size := by
    intro es
    induction es with
    | nil => exact fun full => full
    | cons e es ih => exact fun full => ih (full_append e full)
  induction es generalizing log with
  | nil => exact Nat.le_of_lt h
  | cons e es ih =>
    rw [List.foldl_cons] at h
    have room := ih h
    rcases Nat.lt_or_ge log.size log.capacity with free | full
    · rw [size_append_of_lt free, capacity_append] at room
      rw [List.length_cons]
      omega
    · exact absurd (stays es (full_append e full)) (Nat.not_le.mpr h)

/-! ### The last entries -/

theorem length_rtake {α : Type} (xs : List α) (n : Nat) :
    (xs.rtake n).length = min xs.length n := by
  rw [List.rtake, List.length_drop]
  omega

theorem rtake_rtake_append {α : Type} (xs ys : List α) (n : Nat) :
    (xs.rtake n ++ ys).rtake n = (xs ++ ys).rtake n := by
  simp only [List.rtake, List.length_append, List.length_drop, List.drop_append, List.drop_drop]
  congr 2 <;> omega

/-- **What a log retains** of all that was written to it: the last entries, as many as there is room
for. -/
structure Retains (log : Log) (room : Nat) (written : List Entry) : Prop where
  capacity_eq : log.capacity = room
  entries_eq : log.entries = written.rtake room

namespace Retains

variable {room : Nat} {written : List Entry}

theorem size_eq (retains : log.Retains room written) : log.size = min written.length room := by
  rw [size, retains.entries_eq, length_rtake]

/-- A new entry pushes out the oldest one if the log is full, and none otherwise. -/
theorem append (retains : log.Retains room written) (positive : 0 < room) (e : Entry) :
    (log.append e).Retains room (written ++ [e]) := by
  have capacity := retains.capacity_eq
  have bounded : log.size ≤ room := retains.size_eq ▸ Nat.min_le_right ..
  refine ⟨(capacity_append log e).trans capacity, ?_⟩
  rw [← rtake_rtake_append, ← retains.entries_eq, List.rtake, List.length_append,
    List.length_singleton]
  unfold size at bounded
  by_cases full : log.size = log.capacity
  · rw [Log.append, if_pos full]
    unfold size at full
    rw [List.drop_append_of_le_length (by omega), show log.entries.length + 1 - room = 1 by omega]
  · rw [Log.append, if_neg full]
    unfold size at full
    rw [show log.entries.length + 1 - room = 0 by omega, List.drop_zero]

theorem clear (retains : log.Retains room written) : log.clear.Retains room [] :=
  ⟨retains.capacity_eq, (List.rtake_nil _).symm⟩

end Retains

theorem retains_of_ofCapacity? {capacity : Nat} (h : ofCapacity? capacity = some log) :
    log.Retains (max capacity 1) [] := by
  unfold ofCapacity? at h
  split at h
  · cases h
    exact ⟨rfl, (List.rtake_nil _).symm⟩
  · cases h

end Log

/-! ### Calls -/

/-- The entry that a call writes, if it writes one. -/
def LogCall.written? (now : Instant) : LogCall → Option Entry
  | .append context message => some { level := .info, context, message, time := now }
  | .appendWithLevel level context message => some { level, context, message, time := now }
  | .clear | .size | .snapshot => none

/-- **All that was written since the log was cleared** last, by the calls that have reached it. -/
def Log.sinceCleared (calls : List (Instant × LogCall)) : List Entry :=
  (calls.rtakeWhile fun c => c.2 != .clear).filterMap fun c => c.2.written? c.1

namespace Log

variable {log : Log} {room : Nat} {calls : List (Instant × LogCall)}

theorem sinceCleared_append_clear (now : Instant) :
    sinceCleared (calls ++ [(now, .clear)]) = [] := by
  rw [sinceCleared, List.rtakeWhile_concat_neg _ _ _ (by simp)]
  rfl

theorem sinceCleared_append {now : Instant} {call : LogCall} (goesOn : call ≠ .clear) :
    sinceCleared (calls ++ [(now, call)]) = sinceCleared calls ++ (call.written? now).toList := by
  rw [sinceCleared, List.rtakeWhile_concat_pos _ _ _ (by simpa using goesOn), List.filterMap_append]
  cases call <;> rfl

/-- **One call**: the log goes on to retain what has been written. -/
theorem retains_perform (retains : log.Retains room (sinceCleared calls))
    (positive : 0 < room) (now : Instant) (call : LogCall) :
    (log.perform now call).1.Retains room (sinceCleared (calls ++ [(now, call)])) := by
  cases call with
  | append context message =>
    rw [sinceCleared_append (by simp)]
    exact retains.append positive _
  | appendWithLevel level context message =>
    rw [sinceCleared_append (by simp)]
    exact retains.append positive _
  | clear =>
    rw [sinceCleared_append_clear]
    exact retains.clear
  | size | snapshot =>
    rw [sinceCleared_append (by simp), LogCall.written?, Option.toList_none, List.append_nil]
    exact retains

end Log

/-! ### Logbooks -/

namespace Logbook

/-- The call that a step makes to a log, with its time. -/
def reached (b : Logbook) (i : Nat) : LogStep → List (Instant × LogCall)
  | .calls handle call => if b.handles[handle]? = some i then [(b.now, call)] else []
  | _ => []

/-- **The calls that reach a log** in the course of some steps, through whatever handles. -/
def reaching (b : Logbook) (i : Nat) : List LogStep → List (Instant × LogCall)
  | [] => []
  | s :: ss => b.reached i s ++ (b.step s).reaching i ss

variable {b : Logbook} {i room : Nat} {log : Log} {calls : List (Instant × LogCall)}

theorem step_calls {handle : Nat} (leads : b.handles[handle]? = some i)
    (found : b.logs[i]? = some log) (call : LogCall) : b.step (.calls handle call) =
      { b with logs := b.logs.set i (log.perform b.now call).1,
               answers := b.answers ++ [(log.perform b.now call).2] } := by
  rw [step]
  simp only [leads, found]

/-- **One step**: a log goes on to retain what has been written, also if another log is
concerned. -/
theorem retains_step (positive : 0 < room) (found : b.logs[i]? = some log)
    (retains : log.Retains room (Log.sinceCleared calls)) (s : LogStep) :
    ∃ log', (b.step s).logs[i]? = some log' ∧
      log'.Retains room (Log.sinceCleared (calls ++ b.reached i s)) := by
  have inside : i < b.logs.length := (List.getElem?_eq_some_iff.mp found).1
  have idle : b.reached i s = [] → Log.sinceCleared (calls ++ b.reached i s) =
      Log.sinceCleared calls := fun none => by
    rw [none, List.append_nil]
  cases s with
  | opens capacity =>
    rw [idle rfl, step]
    split
    · exact ⟨log, by rw [List.getElem?_append_left inside]; exact found, retains⟩
    · exact ⟨log, found, retains⟩
  | copies handle =>
    rw [idle rfl, step]
    split <;> exact ⟨log, found, retains⟩
  | waits time => exact ⟨log, found, by rwa [idle rfl]⟩
  | calls handle call =>
    by_cases leads : b.handles[handle]? = some i
    · have reached : b.reached i (.calls handle call) = [(b.now, call)] := by
        rw [Logbook.reached, if_pos leads]
      rw [reached, step_calls leads found]
      exact ⟨_, List.getElem?_set_self inside, Log.retains_perform retains positive b.now call⟩
    · rw [idle (by rw [Logbook.reached, if_neg leads]), step]
      split
      · next j other =>
        split
        · have apart : j ≠ i := fun same => leads (same ▸ other)
          exact ⟨log, by rw [List.getElem?_set_ne apart]; exact found, retains⟩
        · exact ⟨log, found, retains⟩
      · exact ⟨log, found, retains⟩

/-- **A run**: a log retains what the calls that reach it write. -/
theorem retains_steps (positive : 0 < room) (found : b.logs[i]? = some log)
    (retains : log.Retains room (Log.sinceCleared calls)) (ss : List LogStep) :
    ∃ log', (b.steps ss).logs[i]? = some log' ∧
      log'.Retains room (Log.sinceCleared (calls ++ b.reaching i ss)) := by
  induction ss generalizing b log calls with
  | nil => exact ⟨log, found, by rwa [reaching, List.append_nil]⟩
  | cons s ss ih =>
    obtain ⟨next, found, retains⟩ := retains_step positive found retains s
    obtain ⟨last, found, retains⟩ := ih found retains
    exact ⟨last, found, by rwa [reaching, ← List.append_assoc]⟩

/-- What a call was answered with is never taken back. -/
theorem answers_steps (b : Logbook) (ss : List LogStep) : b.answers <+: (b.steps ss).answers := by
  have one : ∀ (b : Logbook) (s : LogStep), b.answers <+: (b.step s).answers := by
    intro b s
    cases s with
    | waits time => exact List.prefix_rfl
    | opens capacity | copies handle =>
      rw [step]
      split <;> exact List.prefix_rfl
    | calls handle call =>
      rw [step]
      split
      · split
        · exact List.prefix_append _ _
        · exact List.prefix_rfl
      · exact List.prefix_rfl
  induction ss generalizing b with
  | nil => exact List.prefix_rfl
  | cons s ss ih => exact (one b s).trans (ih (b.step s))

/-- **What a handle gives to read**: some entries, and how many there are. -/
structure Shows (b : Logbook) (handle : Nat) (kept : List Entry) : Prop where
  snapshot : (b.step (.calls handle .snapshot)).answers = b.answers ++ [.snapshot kept]
  size : (b.step (.calls handle .size)).answers = b.answers ++ [.size kept.length]

/-- **A log read through any of its handles**, whenever it was opened and whatever has happened
since to it and to others: of all the entries written to it since it was cleared last it shows the
last ones, as many as the capacity admits and one at least. What has been read is not changed by
what happens later. -/
theorem shows_of_steps (before : Logbook) {capacity : Nat}
    (possible : capacity ≤ Log.largestCapacity) (ss : List LogStep) {handle : Nat}
    (leads : ((before.step (.opens capacity)).steps ss).handles[handle]? =
      some before.logs.length) : let opened := before.step (.opens capacity)
    let written := Log.sinceCleared (opened.reaching before.logs.length ss)
    (opened.steps ss).Shows handle (written.rtake (max capacity 1)) ∧
      (written.rtake (max capacity 1)).length = min written.length (max capacity 1) ∧
      ∀ later, (opened.steps ss).answers <+: (opened.steps (ss ++ later)).answers := by
  intro opened written
  have new : Log.ofCapacity? capacity = some (.ofCapacity capacity) := if_pos possible
  have found : opened.logs[before.logs.length]? = some (.ofCapacity capacity) := by
    simp only [opened, step, new, List.getElem?_concat_length]
  have positive : 0 < max capacity 1 := by omega
  have empty : (Log.ofCapacity capacity).Retains (max capacity 1) (Log.sinceCleared []) :=
    Log.retains_of_ofCapacity? new
  obtain ⟨log, found, retains⟩ := retains_steps positive found empty ss
  rw [List.nil_append] at retains
  refine ⟨⟨?_, ?_⟩, Log.length_rtake _ _, fun later => ?_⟩
  · rw [step_calls leads found, Log.perform, retains.entries_eq]
  · rw [step_calls leads found, Log.perform, Log.size, retains.entries_eq]
  · rw [steps, steps, List.foldl_append]
    exact answers_steps _ later

/-- Three entries through two handles of a log for two, with a snapshot in between; the second
handle shows the last two. -/
theorem shows_of_steps_copied :
    let opened := (Logbook.initial ⟨0⟩).step (.opens 2)
    let ss : List LogStep :=
      [.calls 0 (.append "a" "1"), .copies 0, .waits ⟨5⟩,
        .calls 1 (.appendWithLevel .error "b" "2"), .calls 0 .snapshot,
        .calls 1 (.append "a" "3")]
    (opened.steps ss).Shows 1 [⟨⟨.error, "b", "2"⟩, ⟨5⟩⟩, ⟨⟨.info, "a", "3"⟩, ⟨5⟩⟩] :=
  have possible : 2 ≤ Log.largestCapacity := by decide
  (shows_of_steps (.initial ⟨0⟩) possible [.calls 0 (.append "a" "1"), .copies 0, .waits ⟨5⟩,
    .calls 1 (.appendWithLevel .error "b" "2"), .calls 0 .snapshot,
    .calls 1 (.append "a" "3")] rfl).1

end Logbook

end TokenChain
