import TokenChain.Proofs.Schedule.Cancellation
import TokenChain.Proofs.Session.Punctuality

/-! # Calls that are cancelled

Once the request of a call has been cancelled, a chain of own members sends no message and starts no
tool on its behalf any more, wherever the cancellation finds the call, and the call is over at the
instant of the cancellation, or at once if it was made later (`Member.obedient_of_own`). -/

namespace TokenChain

open TokenChain.Task

/-- A cancellation has taken place, or will by the given instant. -/
def World.FiresBy {σ : Type} (w : World σ) (key : CancelKey) (late : Instant) : Prop :=
  w.cancelled key = true ∨ ∃ c ≤ late, w.cancelAt key = some c

theorem World.FiresBy.exists_cancels {σ : Type} {w : World σ} {key : CancelKey} {late : Instant}
    (h : w.FiresBy key late) :
    ∃ cancelAt, w.Cancels cancelAt ∧ ∃ c ≤ late, cancelAt key = some c := by
  rcases h with cancelled | ⟨c, hc, appointed⟩
  · -- what has been cancelled is cancelled at any appointed time
    refine ⟨fun k => if k = key then some late else none, fun k t ht => .inr ?_, late,
      Int.le_refl _, if_pos rfl⟩
    by_cases same : k = key
    · rw [same]
      exact cancelled
    · cases (if_neg same).symm.trans ht
  · exact ⟨w.cancelAt, fun _ _ => .inl, c, hc, appointed⟩

namespace Session

open Schedule

/-! ### Cancellations that calls arrange -/

theorem arrange_other (s : Session) {c : Call} {key other : CancelKey} (ne : other ≠ key)
    {w : World (Shared Surroundings)} {late : Instant} (h : w.FiresBy other late) :
    (s.arrange c key w).FiresBy other late := by
  rw [arrange]
  split
  · exact h.imp_left fun cancelled => Bool.or_eq_true_iff.mpr (.inr cancelled)
  · split
    · refine h.imp_right fun fires => ?_
      obtain ⟨t, ht, appointed⟩ := fires
      exact ⟨t, ht, (if_neg ne).trans appointed⟩
    · exact h

theorem foldl_arrange_other (s : Session) {key : CancelKey} {late : Instant}
    {calls : List (Call × CancelKey)} (ne : key ∉ calls.map Prod.snd)
    {w : World (Shared Surroundings)} (h : w.FiresBy key late) :
    (calls.foldl (fun w p => s.arrange p.1 p.2 w) w).FiresBy key late := by
  induction calls generalizing w with
  | nil => exact h
  | cons p calls ih =>
    rw [List.map_cons, List.mem_cons, not_or] at ne
    exact ih ne.2 (s.arrange_other ne.1 h)

/-- **The cancellation of a call** has taken place before the calls, or will when the call says. -/
theorem firesBy_arranged (s : Session) {calls : List Call} {p : Call × CancelKey}
    (mem : p ∈ s.keyed calls) {late : Instant}
    (fires : p.1.cancelled = true ∨ ∃ d, p.1.cancelAfter = some d ∧ s.begins p.1 + d ≤ late) :
    (s.arranged calls).FiresBy p.2 late := by
  have distinct := s.nodup_keys calls
  rw [arranged]
  obtain ⟨before, after, split⟩ := List.append_of_mem mem
  rw [split] at distinct ⊢
  rw [List.foldl_append, List.foldl_cons]
  refine s.foldl_arrange_other ?_ ?_
  · rw [List.map_append, List.map_cons] at distinct
    exact (List.nodup_cons.mp (List.nodup_append.mp distinct).2.1).1
  · rw [arrange]
    cases cancelled : p.1.cancelled with
    | true => exact .inl (by simp [World.cancel])
    | false =>
      obtain ⟨d, after, hd⟩ := fires.resolve_left (by rw [cancelled]; exact Bool.false_ne_true)
      rw [after]
      exact .inr ⟨_, hd, if_pos rfl⟩

/-! ### Calls that serve their requests -/

theorem cancel_of_request? {s : Session} {c : Call} {key : CancelKey} {r : Request}
    (made : s.request? c key = some r) : r.cancel = key := by
  rw [request?] at made
  cases timeout : c.timeout with
  | none =>
    rw [timeout] at made
    cases made
    rfl
  | some d =>
    rw [timeout] at made
    obtain ⟨t, -, rfl⟩ := Option.map_eq_some_iff.mp made
    rfl

theorem devotes_start (s : Session) (own : ∀ m ∈ s.chainMembers, m.IsOwn) {calls : List Call}
    {p : Call × CancelKey} (mem : p ∈ s.keyed calls) (via : p.1.via = none) :
    (s.start calls).Devotes p.2 p.2 (Shared.Outside Surroundings.Still) := by
  intro job hjob hid
  rw [jobs_start] at hjob
  obtain ⟨q, hq, rfl⟩ := List.mem_map.mp hjob
  cases List.inj_on_of_nodup_map (s.nodup_keys calls) hq mem hid
  refine .begins (t := s.work p.1 p.2) ?_ (fun _ => rfl) (s.delays_job p.1 p.2)
  rw [work, via]
  cases made : s.request? p.1 p.2 with
  | none => exact ⟨trivial, trivial⟩
  | some r =>
    rw [← cancel_of_request? made]
    exact Member.serves_chain own r

end Session

/-! ### Cancelled calls -/

namespace Member

open Schedule

/-- **Calls of a chain of the members obey** the cancellation of their requests. -/
structure Obedient (members : List Member) : Prop where
  /-- Wherever a schedule gets that a call joins: once the request has been cancelled, whatever the
  call does when it goes on, it sends no message and starts no tool. -/
  quiet : ∀ {s s' s'' : Schedule (Shared Surroundings) (Except Error Token)}
    {id : Nat} {r : Request} {abortAt : Option Instant}, s.Free id →
    ComesTo
      (s.add (.ofTask id abortAt ((⟨members.map source⟩ : Chain Surroundings).getToken r))) s' →
    s'.world.cancelled r.cancel = true → Turn (some id) s' s'' →
    s'.world.state.sources.Still s''.world.state.sources
  /-- If the request has been cancelled before, or is cancelled by a certain instant: the call is
  over by then, or the instant has not passed and something can still happen. -/
  inTime : ∀ {s s' : Schedule (Shared Surroundings) (Except Error Token)} {id : Nat} {r : Request}
    {abortAt : Option Instant} {late : Instant}, s.Free id → s.world.now ≤ late → late.IsWhole →
    s.world.FiresBy r.cancel late →
    ComesTo
      (s.add (.ofTask id abortAt ((⟨members.map source⟩ : Chain Surroundings).getToken r))) s' →
    s'.InTime id late
  /-- If the other jobs wait only so often, something happens only so often: however the schedule
  goes on, the call is over in the end. -/
  ended : ∀ {s : Schedule (Shared Surroundings) (Except Error Token)} {id : Nat} {r : Request}
    {abortAt : Option Instant} {late : Instant}, s.Free id → s.world.now ≤ late → late.IsWhole →
    s.world.FiresBy r.cancel late → s.Settled → (∃ n, Weighs s.jobs n) →
    ∀ run, run 0 =
      s.add (.ofTask id abortAt ((⟨members.map source⟩ : Chain Surroundings).getToken r)) →
      IsTireless run → ∃ i, ∃ t ≤ late, (run i).Ended id t
  /-- In a session, too, a call is quiet once its request has been cancelled. -/
  quietInSession : ∀ {s : Session} {calls : List Call} {i : Nat} {c : Call}
    {s' s'' : Schedule (Shared Surroundings) (Except Error Token)}, s.chainMembers = members →
    calls[i]? = some c → c.via = none → ComesTo (s.start calls) s' →
    s'.world.cancelled (s.nextKey + i) = true → Turn (some (s.nextKey + i)) s' s'' →
    s'.world.state.sources.Still s''.world.state.sources
  /-- A call that is made after its request has been cancelled is over when it begins. -/
  cancelledBefore : ∀ {s : Session} {calls : List Call} {i : Nat} {c : Call},
    s.chainMembers = members →
    calls[i]? = some c → c.via = none → c.cancelled = true → (s.begins c).IsWhole →
    ∃ result, (s.runCalls calls).2[i]? = some (some result) ∧ result.time ≤ s.begins c
  /-- A call whose request is cancelled some time after it began is over by then. -/
  cancelledAfter : ∀ {s : Session} {calls : List Call} {i : Nat} {c : Call} {d : Duration},
    s.chainMembers = members →
    calls[i]? = some c → c.via = none → c.cancelAfter = some d → (s.begins c + d).IsWhole →
    ∃ result, (s.runCalls calls).2[i]? = some (some result) ∧ result.time ≤ s.begins c + d

/-- A call of a session that is cancelled by an instant is over by then. -/
theorem exists_result_of_fires {s : Session} (own : ∀ m ∈ s.chainMembers, m.IsOwn)
    {calls : List Call} {i : Nat} {c : Call} (at_i : calls[i]? = some c) (via : c.via = none)
    {late : Instant} (begins : s.begins c ≤ late) (whole : late.IsWhole)
    (fires : c.cancelled = true ∨ ∃ d, c.cancelAfter = some d ∧ s.begins c + d ≤ late) :
    ∃ result, (s.runCalls calls).2[i]? = some (some result) ∧ result.time ≤ late := by
  have mem := List.mem_of_getElem? (s.getElem?_keyed at_i)
  obtain ⟨cancelAt, cancels, appointed⟩ := (s.firesBy_arranged mem fires).exists_cancels
  refine s.exists_result at_i whole
    (s.onTime_start mem begins cancels (s.heeds_job own via begins fun r made => ?_))
  rw [← Session.cancel_of_request? made] at appointed
  exact .inr appointed

/-- **Own members are obedient.** -/
theorem obedient_of_own {members : List Member} (own : ∀ m ∈ members, m.IsOwn) :
    Obedient members where
  quiet {s s' s'' id r abortAt} free comes cancelled turn :=
    ((free.devotes abortAt (serves_chain own r)).comesTo comes).quiet
      (fun s => .refl s.sources) .trans cancelled turn
  inTime {s s' id r abortAt late} free now whole fires comes := by
    obtain ⟨cancelAt, cancels, appointed⟩ := fires.exists_cancels
    exact (onTime_add own free now cancels (.inr appointed) abortAt).inTime whole
      (s.runs_add _) comes
  ended {s id r abortAt late} free now whole fires settled weighs run start tireless := by
    obtain ⟨cancelAt, cancels, appointed⟩ := fires.exists_cancels
    exact exists_ended_of_onTime (onTime_add own free now cancels (.inr appointed) abortAt) whole
      settled weighs start tireless
  quietInSession {s calls i c s' s''} chain at_i via comes cancelled turn := by
    subst chain
    exact ((s.devotes_start own (List.mem_of_getElem? (s.getElem?_keyed at_i)) via).comesTo
      comes).quiet (fun s => .refl s.sources) .trans cancelled turn
  cancelledBefore {s calls i c} chain at_i via cancelled whole := by
    subst chain
    exact exists_result_of_fires own at_i via (Int.le_refl _) whole (.inl cancelled)
  cancelledAfter {s calls i c d} chain at_i via cancel whole := by
    subst chain
    exact exists_result_of_fires own at_i via
      (Int.le_add_of_nonneg_right (Int.natCast_nonneg _)) whole (.inr ⟨d, cancel, Int.le_refl _⟩)

/-- A call that the tool keeps waiting until it is cancelled, and one that was cancelled before it
was made. -/
def recalled : List Call :=
  [⟨["scope"], none, false, some (.ofSeconds 1), none, ⟨0⟩, none⟩,
    ⟨["scope"], none, true, none, none, .ofMillis 1, none⟩]

theorem obedient_of_own_hanging :
    (∀ m ∈ hanging.chainMembers, m.IsOwn) ∧ Obedient hanging.chainMembers ∧
      (∃ result, (hanging.runCalls recalled).2[0]? = some (some result) ∧
        result.time ≤ ⟨1000000000⟩) ∧
      ∃ result, (hanging.runCalls recalled).2[1]? = some (some result) ∧
      result.time ≤ ⟨1000000⟩ := by
  have own : ∀ m ∈ hanging.chainMembers, m.IsOwn := fun m mem => by
    cases List.mem_singleton.mp mem
    trivial
  have obedient := obedient_of_own own
  have first : recalled[0]? = some ⟨["scope"], none, false, some (.ofSeconds 1), none, ⟨0⟩, none⟩ :=
    rfl
  have second : recalled[1]? = some ⟨["scope"], none, true, none, none, .ofMillis 1, none⟩ := rfl
  exact ⟨own, obedient, obedient.cancelledAfter (s := hanging) rfl first rfl rfl rfl,
    obedient.cancelledBefore (s := hanging) rfl second rfl rfl rfl⟩

end Member

end TokenChain
