import TokenChain.Proofs.Identity.Messages
import TokenChain.Proofs.Retry.Timeline

/-! # Replies as attempts

A reply comes in two parts, and who sends a message waits for one after the other. Together they
take as long as the two of them (`Delayed.bind`), so a reply makes an attempt of a request that ends
with the outcome when the body is there, or never (`Reply.attempt`).

Within a limit what takes its time comes, or is missed when the timer of the limit rings
(`Delayed.Within`). The body is due from when the head was due, whatever the clock showed when the
head was seen; so a wait for the two of them, one after the other, ends as a wait for the whole
would (`Delayed.exists_within_bind`). -/

namespace TokenChain

open TokenChain.Task

variable {σ α β γ : Type}

namespace Instant

theorem add_add (t : Instant) (a b : Duration) :
    t + a + b = t + (⟨a.nanos + b.nanos⟩ : Duration) := by
  rw [mk.injEq]
  simp only [add_nanos]
  omega

theorem le_add (t : Instant) (d : Duration) : t ≤ t + d := by
  simp only [le_iff, add_nanos]
  omega

/-- A timer that is set when another one rings rings as if it had been set before, unless it is to
ring earlier. -/
theorem ring_ring {now a b : Instant} (h : a ≤ now.ring b) : (now.ring a).ring b = now.ring b := by
  have first : now.ring a ≤ now.ring b := (ring_le_ring_iff ..).mpr h
  rcases Int.lt_or_le (now.ring a).nanos b.nanos with later | past
  · rw [ring_of_lt later, ring_of_lt (Int.lt_of_le_of_lt (now_le_ring now a) later)]
  · have second : now.ring b ≤ now.ring a := (ring_le_ring_iff ..).mpr past
    rw [ring_of_le past]
    exact congrArg mk (Int.le_antisymm first second)

end Instant

/-! ### One after the other -/

namespace Delayed

variable {d : Delayed α} {f : α → Delayed β} {start limitEnd : Instant}

/-- What takes its time, and then what follows it. -/
def bind (d : Delayed α) (f : α → Delayed β) : Delayed β :=
  ⟨⟨d.delay.nanos + (d.value.elim 0 fun a => (f a).delay.nanos)⟩, d.value.bind fun a => (f a).value⟩

theorem value_bind {a : α} (here : d.value = some a) : (d.bind f).value = (f a).value := by
  rw [bind, here, Option.bind_some]

theorem add_delay_bind {a : α} (here : d.value = some a) (t : Instant) :
    t + (d.bind f).delay = t + d.delay + (f a).delay := by
  rw [Instant.add_add, bind, here, Option.elim_some]

theorem exists_due_of_bind {due : Instant} (h : (d.bind f).due? start = some due) :
    ∃ a, d.value = some a ∧ d.due? start = some (start + d.delay) ∧
      (f a).due? (start + d.delay) = some due := by
  obtain ⟨b, there, rfl⟩ := Option.map_eq_some_iff.mp h
  obtain ⟨a, here, follows⟩ := Option.bind_eq_some_iff.mp there
  refine ⟨a, here, by rw [due?, here, Option.map_some], ?_⟩
  rw [due?, follows, Option.map_some, add_delay_bind here]

/-- What takes its time, as an attempt. -/
def attempt (d : Delayed α) : Attempt α := d.value.elim .hangs fun a => .ends d.delay (.ok a)

/-! ### Waits within a limit -/

/-- **How a wait within a limit ends**, given what is left if it is missed and how the task goes on
if it comes. -/
inductive Within (d : Delayed α) (start limitEnd now now' : Instant) (left : Task σ γ)
    (goesOn : α → Task σ γ) : Task σ γ → Prop
  | comes {a : α} (there : d.value = some a) (rings : now' = now.ring (start + d.delay))
      (inTime : start + d.delay ≤ now.ring limitEnd) :
      Within d start limitEnd now now' left goesOn (goesOn a)
  | missed (rings : now' = now.ring limitEnd)
      (late : ∀ due, d.due? start = some due → now.ring limitEnd < due) :
      Within d start limitEnd now now' left goesOn left

variable {key : CancelKey} {w : World σ}

/-- A wait that no cancellation cuts short. -/
theorem exists_within (spared : w.Spares key) (begun : start ≤ w.now) (d : Delayed α)
    (g : α → Task σ β) (limitEnd : Instant) (a b : β) :
    ∃ n u w', (((d.await start).bind g).giveUp key (some limitEnd) a b).Comes n w u w' ∧ n ≤ 2 ∧
      w.Elapses w' ∧ d.Within start limitEnd w.now w'.now (.done b)
        (fun x => (g x).giveUp key (some limitEnd) a b) u := by
  by_cases pends : d.Pends
  · have notYet := World.pending_of_not spared.cancelled
    obtain ⟨n, x, w', comes, passes, turns, tells, -⟩ := exists_afterWake key
      (Option.some_ne_none limitEnd) (d.due? start) a b
      (fun _ => (d.value.elim crash done : Task σ α).bind g) w
    have still := spared.elapses passes
    have notYet' := World.pending_of_not still.cancelled
    rw [await_of_pends pends]
    refine ⟨n, _, w', comes, by omega, passes, ?_⟩
    cases tells with
    | cancelled off =>
      rw [still.cancelled] at off
      cases off
    | ready _ appointed rings first =>
      obtain ⟨x, there, rfl⟩ := Option.map_eq_some_iff.mp appointed
      have goesOn : afterWake key (some limitEnd) a b
          (fun _ => (d.value.elim crash done : Task σ α).bind g) .ready =
            (g x).giveUp key (some limitEnd) a b := by
        rw [there]
        rfl
      rw [goesOn]
      exact .comes there rings ((Instant.ring_le_ring_iff ..).mp (first limitEnd rfl))
    | expired _ appointed rings first =>
      cases appointed
      refine .missed rings fun due hd => Int.not_le.mp fun inTime => ?_
      exact Int.not_le.mpr (first due hd) ((Instant.ring_le_ring_iff ..).mpr inTime)
  · obtain ⟨x, there, here⟩ := await_of_not_pends (σ := σ) pends start
    have atOnce : d.delay.nanos = 0 := Decidable.not_not.mp (not_or.mp pends).2
    have come : start + d.delay ≤ w.now := by
      rw [Instant.le_iff, Instant.add_nanos, atOnce]
      exact Int.le_trans (Int.le_of_eq (Int.add_zero _)) begun
    rw [here]
    refine ⟨0, _, w, .refl .., by omega, .refl w, .comes there (Instant.ring_of_le come).symm ?_⟩
    exact Int.le_trans come (Instant.now_le_ring ..)

/-- **One after the other**: a wait for two things ends as a wait for the whole would. -/
theorem exists_within_bind (spared : w.Spares key) (begun : start ≤ w.now) (d : Delayed α)
    (f : α → Delayed β) (g : β → Task σ γ) (limitEnd : Instant) (a b : γ) :
    ∃ n u w', (((d.await start).bind fun x => ((f x).await (start + d.delay)).bind g).giveUp key
        (some limitEnd) a b).Comes n w u w' ∧ n ≤ 4 ∧ w.Elapses w' ∧
      (d.bind f).Within start limitEnd w.now w'.now (.done b)
        (fun x => (g x).giveUp key (some limitEnd) a b) u := by
  obtain ⟨m, u, w₁, comes, turns, passes, within⟩ := exists_within spared begun d
    (fun x => ((f x).await (start + d.delay)).bind g) limitEnd a b
  cases within with
  | missed rings late =>
    refine ⟨m, _, w₁, comes, by omega, passes, .missed rings fun due hd => ?_⟩
    obtain ⟨x, -, due₁, due₂⟩ := exists_due_of_bind hd
    obtain ⟨y, -, rfl⟩ := Option.map_eq_some_iff.mp due₂
    exact Int.lt_of_lt_of_le (late _ due₁) (Instant.le_add ..)
  | @comes x there rings inTime =>
    have seen : start + d.delay ≤ w₁.now := rings ▸ Instant.le_ring ..
    have limit : w₁.now.ring limitEnd = w.now.ring limitEnd := by
      rw [rings, Instant.ring_ring inTime]
    obtain ⟨n, u, w', goesOn, turns', passes', within'⟩ :=
      exists_within (spared.elapses passes) seen (f x) g limitEnd a b
    refine ⟨m + n, u, w', comes.trans goesOn, by omega, passes.trans passes', ?_⟩
    cases within' with
    | missed rings' late' =>
      refine .missed (rings'.trans limit) fun due hd => ?_
      obtain ⟨x', there', -, due₂⟩ := exists_due_of_bind hd
      cases there.symm.trans there'
      rw [← limit]
      exact late' due due₂
    | @comes y there' rings' inTime' =>
      have order : start + d.delay ≤ w.now.ring (start + d.delay + (f x).delay) :=
        Int.le_trans (Instant.le_add ..) (Instant.le_ring ..)
      refine .comes ((value_bind there).trans there') ?_ ?_
      · rw [rings', rings, add_delay_bind there, Instant.ring_ring order]
      · rw [add_delay_bind there, ← limit]
        exact inTime'

/-- What takes its time comes out as an attempt does that ends with it. -/
theorem Within.outcome_attempt (credential : String) {limit : Duration} {now now' : Instant}
    (shown : now.after? limit = some limitEnd) {left u : Task σ β} {goesOn : α → Task σ β}
    (within : d.Within now limitEnd now now' left goesOn u) :
    (∃ a, d.attempt.outcome credential limit now = ⟨now', some (.ok a)⟩ ∧ u = goesOn a) ∨
      d.attempt.outcome credential limit now =
        ⟨now', some (.error (Attempt.noResponse credential limit))⟩ ∧ u = left := by
  unfold attempt
  cases within with
  | @comes a there rings inTime =>
    rw [there, rings]
    exact .inl ⟨a, Attempt.outcome_of_le credential shown inTime _, rfl⟩
  | missed rings late =>
    rw [rings]
    cases there : d.value with
    | none => exact .inr ⟨Attempt.outcome_of_hangs credential shown, rfl⟩
    | some a =>
      have due : d.due? now = some (now + d.delay) := by rw [due?, there, Option.map_some]
      exact .inr ⟨Attempt.outcome_of_lt credential shown (late _ due) _, rfl⟩

end Delayed

/-! ### Replies -/

namespace Reply

/-- The attempt that the reply makes of a request. -/
def attempt (reply : Reply) : Attempt Outcome := (reply.bind Head.rest).attempt

/-- No error comes of a reply itself: there is an outcome within the limit, or none. -/
theorem eq_noResponse {reply : Reply} {credential : String} {limit : Duration} {now : Instant}
    {e : Error}
    (h : (reply.attempt.outcome credential limit now).result = some (.error e)) :
    e = Attempt.noResponse credential limit := by
  unfold attempt Delayed.attempt Attempt.outcome at h
  cases shown : now.after? limit with
  | none =>
    simp only [shown] at h
    cases h
  | some limitEnd =>
    cases there : (reply.bind Head.rest).value with
    | none =>
      simp only [shown, there, Option.elim_none, Option.some.injEq, Except.error.injEq] at h
      exact h.symm
    | some outcome =>
      simp only [shown, there, Option.elim_some] at h
      split_ifs at h
      · cases h
      · cases h
        rfl

end Reply

namespace Wire

/-- The reply when none is left. -/
def noReply : Reply := ⟨⟨0⟩, some (.unreachable "no scripted response")⟩

/-- The attempts that the replies to come make of requests. -/
def attempts (w : Wire) : List (Attempt Outcome) := (w.replies ++ [noReply]).map Reply.attempt

/-- The reply to a request is the next one when as many have been used up as there were requests
before. -/
theorem nth_attempts (w : Wire) (n : Nat) (sent : List Message) :
    Attempt.nth w.attempts n = (nextReply ⟨w.replies.drop n, sent⟩).attempt := by
  unfold attempts Attempt.nth nextReply
  by_cases left : n < w.replies.length
  · have here : (w.replies ++ [noReply])[n]? = some w.replies[n] := by
      rw [List.getElem?_append_left left, List.getElem?_eq_getElem left]
    rw [List.getElem?_map, here, List.drop_eq_getElem_cons left]
    rfl
  · have last : ((w.replies ++ [noReply]).map Reply.attempt)[n]?.or
        ((w.replies ++ [noReply]).map Reply.attempt).getLast? = some noReply.attempt := by
      rw [List.map_append, List.map_singleton, List.getLast?_concat]
      by_cases next : n = w.replies.length
      · rw [next, ← List.length_map Reply.attempt, List.getElem?_concat_length]
        rfl
      · rw [List.getElem?_eq_none (by simp; omega)]
        rfl
    rw [last, List.drop_eq_nil_of_le (Nat.not_lt.mp left)]
    rfl

end Wire

end TokenChain
