import TokenChain.Proofs.Chain.Service
import TokenChain.Proofs.Schedule
import TokenChain.Proofs.Schedule.Punctuality
import TokenChain.Proofs.Schedule.Termination

/-! # Calls are over in time

A call of a chain of own members is over when the deadline of its request comes, or at once if it
was made later (`Member.punctual_of_own`): in any schedule, whatever the other jobs are and
whichever job in the queue goes on; and in a session, where calls take turns in the order in which
they are woken, and always take enough of them to be over (`Session.exists_atRest`). -/

namespace TokenChain

open TokenChain.Task

/-- The later of two instants. -/
instance : Max Instant := ⟨fun a b => ⟨max a.nanos b.nanos⟩⟩

namespace Instant

theorem le_max_left (a b : Instant) : a ≤ max a b := Int.le_max_left ..

theorem le_max_right (a b : Instant) : b ≤ max a b := Int.le_max_right ..

theorem max_rec {P : Instant → Prop} {a b : Instant} (ha : P a) (hb : P b) : P (max a b) := by
  show P ⟨max a.nanos b.nanos⟩
  rcases Int.le_total a.nanos b.nanos with le | le
  · rwa [Int.max_eq_right le]
  · rwa [Int.max_eq_left le]

theorem isShown_of_after? {t u : Instant} {d : Duration} (h : t.after? d = some u) : u.IsShown := by
  unfold after? at h
  split at h
  · cases h
    assumption
  · cases h

end Instant

/-! ### Sessions come to rest -/

namespace Session

open Schedule

/-- A call that has begun waits no more than so often. -/
theorem waits_work (s : Session) (c : Call) (key : CancelKey) :
    (s.work c key).Waits (fun _ _ => True) (s.patience + 1) := by
  have all : (s.members.map Member.patience).sum +
      (s.chainMembers.map Member.patience).sum = s.patience := by
    rw [patience, List.map_append, ← List.sum_append]
    exact List.sum_eq_foldr
  rw [work]
  split
  · trivial
  · exact ((Member.waits_chain s.chainMembers _).weaken fun _ => trivial).mono
      (by rw [Member.chainPatience]; omega)
  · split
    · rename_i m found
      have part : m.patience ≤ (s.members.map Member.patience).sum :=
        List.single_le_sum (fun _ _ => Nat.zero_le _) _
          (List.mem_map_of_mem (List.mem_of_getElem? found))
      exact ((m.waits_getToken _).lift.weaken fun _ => trivial).mono (by omega)
    · trivial

theorem isPatient_job (s : Session) (c : Call) (key : CancelKey) :
    (s.job c key).IsPatient (s.patience + 3) := by
  refine ⟨s.patience + 2, Nat.lt_succ_self _, fun x => ?_⟩
  show Waits _ (if c.start.nanos = 0 then _ else _) _
  split_ifs
  · exact (s.waits_work c key).mono (Nat.le_succ _)
  · exact ⟨fun _ => trivial, s.patience + 1, Nat.lt_succ_self _, fun _ => s.waits_work c key⟩

theorem jobs_start (s : Session) (calls : List Call) :
    (s.start calls).jobs = (s.keyed calls).map fun p => s.job p.1 p.2 := List.append_nil _

/-- **Calls come to rest** in a session. -/
theorem exists_atRest (s : Session) {calls : List Call} (some_call : calls ≠ []) :
    ∃ s', ComesTo (s.start calls) s' ∧ s'.AtRest ∧
      (s.start calls).runTo none (s.turns calls) = s'.cancelDue := by
  have length : (s.start calls).jobs.length = calls.length := by
    rw [jobs_start, keyed, List.length_map, List.length_map, List.length_zipIdx]
  have weighs : Weighs (s.start calls).jobs (calls.length * (s.patience + 3)) := by
    rw [← length]
    refine weighs_of_forall fun job hjob => ?_
    rw [jobs_start] at hjob
    obtain ⟨p, -, rfl⟩ := List.mem_map.mp hjob
    exact s.isPatient_job p.1 p.2
  have awake : (s.start calls).rank = 0 := by
    have queue : (s.start calls).queue = (s.keyed calls).map fun p => s.job p.1 p.2 := rfl
    have nonempty : ¬ (s.start calls).queue.isEmpty = true := by
      rw [List.isEmpty_iff, ← List.length_eq_zero_iff, ← List.append_nil (s.start calls).queue]
      exact fun h => some_call (List.length_eq_zero_iff.mp (length.symm.trans h))
    have all : ((s.start calls).queue.all fun job => job.isAwake (s.start calls).world) = true := by
      refine List.all_eq_true.mpr fun job hjob => ?_
      rw [queue] at hjob
      obtain ⟨p, -, rfl⟩ := List.mem_map.mp hjob
      rfl
    rw [rank, if_neg nonempty, if_pos all]
  refine runTo_atRest calls.length _ (fun _ hjob => (List.not_mem_nil hjob).elim) weighs
    (Nat.le_of_eq length) ?_
  rw [awake, turns]
  exact Nat.lt_succ_self _

/-! ### Calls that are over in time -/

theorem arranged_now (s : Session) (calls : List Call) : (s.arranged calls).now = s.world.now := by
  rw [arranged]
  generalize s.world = w
  induction s.keyed calls generalizing w with
  | nil => rfl
  | cons p keyed ih =>
    have same : (s.arrange p.1 p.2 w).now = w.now := by
      rw [arrange]
      split
      · rfl
      · split <;> rfl
    rw [List.foldl_cons, ih, same]

theorem getElem?_keyed (s : Session) {calls : List Call} {i : Nat} {c : Call}
    (at_i : calls[i]? = some c) : (s.keyed calls)[i]? = some (c, s.nextKey + i) := by
  rw [keyed, List.getElem?_map, List.getElem?_zipIdx, at_i, Nat.zero_add]
  rfl

variable {late : Instant} {cancelAt : CancelKey → Option Instant}

theorem heeds_job (s : Session) (own : ∀ m ∈ s.chainMembers, m.IsOwn) {c : Call} {key : CancelKey}
    (via : c.via = none) (begins : s.begins c ≤ late)
    (ends : ∀ r, s.request? c key = some r → r.EndsBy cancelAt late) :
    (s.job c key).Heeds cancelAt late := by
  have works : (s.work c key).Heeds cancelAt late := by
    rw [work, via]
    cases made : s.request? c key with
    | none => trivial
    | some r => exact Member.heeds_chain own (ends r made)
  refine ⟨.inl fun _ => rfl, fun x => ?_⟩
  show Heeds _ _ (if c.start.nanos = 0 then _ else _)
  split_ifs
  · exact works
  · exact ⟨⟨_, begins, .inl rfl⟩, fun _ => works⟩

theorem onTime_start (s : Session) {calls : List Call} {p : Call × CancelKey}
    (mem : p ∈ s.keyed calls) (begins : s.begins p.1 ≤ late)
    (cancels : (s.arranged calls).Cancels cancelAt) (heeds : (s.job p.1 p.2).Heeds cancelAt late) :
    (s.start calls).OnTime cancelAt p.2 late where
  cancels := cancels
  now _ := by
    show (s.arranged calls).now ≤ late
    rw [arranged_now]
    exact Int.le_trans (Int.le_add_of_nonneg_right (Int.natCast_nonneg _)) begins
  heeds job hjob hid := by
    rw [jobs_start] at hjob
    obtain ⟨q, hq, rfl⟩ := List.mem_map.mp hjob
    cases List.inj_on_of_nodup_map (s.nodup_keys calls) hq mem hid
    exact heeds
  ended t h := by
    obtain ⟨f, hf, -⟩ := h
    cases hf

/-- **The result of a call** that is on time. -/
theorem exists_result (s : Session) {calls : List Call} {i : Nat} {c : Call}
    (at_i : calls[i]? = some c) (whole : late.IsWhole)
    (onTime : (s.start calls).OnTime cancelAt (s.nextKey + i) late) :
    ∃ result, (s.runCalls calls).2[i]? = some (some result) ∧ result.time ≤ late := by
  have mem := List.mem_of_getElem? (s.getElem?_keyed at_i)
  have runs : (s.start calls).Runs (s.nextKey + i) :=
    ⟨s.job c (s.nextKey + i), (s.jobs_start calls).symm ▸ List.mem_map_of_mem mem, rfl⟩
  obtain ⟨s', comes, rest, stop⟩ := s.exists_atRest (List.ne_nil_of_mem (List.mem_of_getElem? at_i))
  obtain ⟨t, -, f, hf, hid, -⟩ := onTime.ended_of_atRest whole runs comes rest
  have found : (s'.finished.find? fun f => f.id == s.nextKey + i).isSome := by
    rw [List.find?_isSome]
    exact ⟨f, hf, beq_iff_eq.mpr hid⟩
  obtain ⟨g, hg⟩ := Option.isSome_iff_exists.mp found
  have same := List.find?_some hg
  refine ⟨⟨g.ending, g.time⟩, ?_, ?_⟩
  · have finished : s'.cancelDue.finished = s'.finished := rfl
    rw [runCalls_eq, List.getElem?_map, s.getElem?_keyed at_i, stop, finished, Option.map_some,
      hg, Option.map_some]
  · exact (onTime.comesTo whole comes).ended _ ⟨g, List.mem_of_find?_eq_some hg,
      beq_iff_eq.mp same, rfl⟩

end Session

/-! ### The deadline -/

namespace Member

open Schedule

/-- **Calls of a chain of the members are over in time**: at the deadline of the request, or at once
if they are made later. -/
structure Punctual (members : List Member) : Prop where
  /-- Wherever a schedule gets that a call joins: the call is over by then, or the instant has not
  passed and something can still happen. -/
  inTime : ∀ {s s' : Schedule (Shared Surroundings) (Except Error Token)} {id : Nat}
    {r : Request} {d : Instant} {abortAt : Option Instant}, s.Free id → s.world.now.IsWhole →
    s.world.now.IsShown → r.deadline = some d → d.IsWhole → d.IsShown →
    ComesTo (s.add (.ofTask id abortAt ((⟨members.map source⟩ : Chain Surroundings).getToken r)))
      s' → s'.InTime id (max s.world.now d)
  /-- If the other jobs wait only so often, something happens only so often: however the schedule
  goes on, the call is over in the end. -/
  ended : ∀ {s : Schedule (Shared Surroundings) (Except Error Token)} {id : Nat}
    {r : Request} {d : Instant} {abortAt : Option Instant}, s.Free id → s.world.now.IsWhole →
    s.world.now.IsShown → r.deadline = some d → d.IsWhole → d.IsShown → s.Settled →
    (∃ n, Weighs s.jobs n) → ∀ run, run 0 =
      s.add (.ofTask id abortAt ((⟨members.map source⟩ : Chain Surroundings).getToken r)) →
      IsTireless run → ∃ i, ∃ t ≤ max s.world.now d, (run i).Ended id t
  /-- In a session every call of the chain with a deadline has a result by then. -/
  session : ∀ {s : Session} {calls : List Call} {i : Nat} {c : Call} {timeout : Duration},
    s.chainMembers = members → calls[i]? = some c → c.via = none → c.timeout = some timeout →
    (s.begins c + timeout).IsWhole → ∃ result, (s.runCalls calls).2[i]? = some (some result) ∧
    result.time ≤ s.begins c + timeout

theorem onTime_add {members : List Member} (own : ∀ m ∈ members, m.IsOwn)
    {s : Schedule (Shared Surroundings) (Except Error Token)} {id : Nat} (free : s.Free id)
    {r : Request} {late : Instant} {cancelAt : CancelKey → Option Instant}
    (now : s.world.now ≤ late) (cancels : s.world.Cancels cancelAt) (ends : r.EndsBy cancelAt late)
    (abortAt : Option Instant) :
    (s.add (.ofTask id abortAt ((⟨members.map source⟩ : Chain Surroundings).getToken r))).OnTime
      cancelAt id late :=
  free.onTime now abortAt cancels (heeds_chain own ends)

/-- However the schedule goes on, a call that is on time is over in the end. -/
theorem exists_ended_of_onTime {members : List Member} {r : Request} {abortAt : Option Instant}
    {s : Schedule (Shared Surroundings) (Except Error Token)} {id : Nat} {late : Instant}
    {cancelAt : CancelKey → Option Instant}
    (h : (s.add (.ofTask id abortAt
      ((⟨members.map source⟩ : Chain Surroundings).getToken r))).OnTime cancelAt id late)
    (whole : late.IsWhole) (settled : s.Settled) (weighs : ∃ n, Weighs s.jobs n)
    {run : Nat → Schedule (Shared Surroundings) (Except Error Token)}
    (start : run 0 =
      s.add (.ofTask id abortAt ((⟨members.map source⟩ : Chain Surroundings).getToken r)))
    (tireless : IsTireless run) : ∃ i, ∃ t ≤ late, (run i).Ended id t := by
  obtain ⟨n, weighs⟩ := weighs
  have patient :
      Job.IsPatient (.ofTask id abortAt ((⟨members.map source⟩ : Chain Surroundings).getToken r))
      (chainPatience members + 1) :=
    ⟨_, Nat.lt_succ_self _, fun _ => (waits_chain members r).weaken fun _ => trivial⟩
  have weighs' : Weighs (run 0).jobs _ := start ▸ (weighs.cons patient).perm (jobs_add ..).symm
  obtain ⟨i, comes, rest⟩ := exists_atRest tireless (start ▸ settled) weighs'
  rw [start] at comes
  exact ⟨i, h.ended_of_atRest whole (s.runs_add _) comes rest⟩

/-- **Own members are punctual.** -/
theorem punctual_of_own {members : List Member} (own : ∀ m ∈ members, m.IsOwn) :
    Punctual members where
  inTime {s s' id r d abortAt} free whole shown deadline whole' shown' comes := by
    have ends : r.EndsBy (fun _ => none) (max s.world.now d) :=
      .inl ⟨Instant.max_rec shown shown', d, Instant.le_max_right .., deadline⟩
    exact (onTime_add own free (Instant.le_max_left ..) (World.cancels_none _) ends abortAt).inTime
      (Instant.max_rec whole whole') (s.runs_add _) comes
  ended {s id r d abortAt} free whole shown deadline whole' shown' settled
      weighs run start tireless := by
    have ends : r.EndsBy (fun _ => none) (max s.world.now d) :=
      .inl ⟨Instant.max_rec shown shown', d, Instant.le_max_right .., deadline⟩
    exact exists_ended_of_onTime (onTime_add own free (Instant.le_max_left ..)
      (World.cancels_none _) ends abortAt) (Instant.max_rec whole whole') settled
        weighs start tireless
  session {s calls i c timeout} chain at_i via deadline whole := by
    subst chain
    have begins : s.begins c ≤ s.begins c + timeout :=
      Int.le_add_of_nonneg_right (Int.natCast_nonneg _)
    have ends : ∀ r, s.request? c (s.nextKey + i) = some r →
        r.EndsBy (fun _ => none) (s.begins c + timeout) := by
      intro r made
      rw [Session.request?, deadline] at made
      obtain ⟨d, shown, rfl⟩ := Option.map_eq_some_iff.mp made
      cases Instant.after?_eq_some shown
      exact .inl ⟨Instant.isShown_of_after? shown, _, Int.le_refl _, rfl⟩
    exact s.exists_result at_i whole
      (s.onTime_start (List.mem_of_getElem? (s.getElem?_keyed at_i)) begins (World.cancels_none _)
        (s.heeds_job own via begins ends))

/-- A session with a developer tool that never ends. -/
def hanging : Session where
  members := []
  chainMembers := [.tool (.standard .az)]
  world := .initial ⟨0⟩ (.ofCapacity 8) ⟨.initial,
    ⟨.fixed 0, ⟨[], []⟩, .initial, ⟨[none], [], [], []⟩, fun _ => .untested, fun _ => []⟩⟩
  nextKey := 0

/-- A call that the tool keeps waiting, and one a millisecond later that waits for its turn for two
seconds. -/
def impatient : List Call :=
  [⟨["scope"], some (.ofSeconds 5), false, none, none, ⟨0⟩, none⟩,
    ⟨["scope"], some (.ofSeconds 2), false, none, none, .ofMillis 1, none⟩]

theorem punctual_of_own_hanging :
    (∀ m ∈ hanging.chainMembers, m.IsOwn) ∧ Punctual hanging.chainMembers ∧
      ∃ result, (hanging.runCalls impatient).2[1]? = some (some result) ∧
      result.time ≤ ⟨2001000000⟩ := by
  have own : ∀ m ∈ hanging.chainMembers, m.IsOwn := fun m mem => by
    cases List.mem_singleton.mp mem
    trivial
  have punctual := punctual_of_own own
  have called :
      impatient[1]? = some ⟨["scope"], some (.ofSeconds 2), false, none, none, .ofMillis 1, none⟩ :=
    rfl
  exact ⟨own, punctual, punctual.session (s := hanging) rfl called rfl rfl rfl⟩

end Member

end TokenChain
