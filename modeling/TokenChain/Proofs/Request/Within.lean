import TokenChain.Proofs.Task.GivingUp

/-! # Work on a request

Work on a request that is patient, whatever it does and however often it waits
(`Request.within_of_patient`). Where it has begun, it goes as `Request.Bounded` tells, by the
instants at which it would come out alone, at which it is given up (`Request.bound?`) and at which
the request is cancelled. Work that is given up is left at a wait: it takes no step after that
instant, and none of its steps up to then is missing. -/

namespace TokenChain

variable {σ α : Type}

namespace Request

/-- When work on a request is given up that begins now: at the request's deadline or at the end of
the limit, whichever comes first, but not before it begins. -/
def bound? (r : Request) (limit : Option Duration) (now : Instant) : Option Instant :=
  (Instant.earliest r.deadline (limit.map (now + ·))).map now.later

/-- **Work that has begun within bounds.** -/
structure Bounded (r : Request) (credential : String) (limit : Option Duration)
    (work : Task σ (Except Error α)) (w : World σ) : Prop where
  /-- Work that comes out by the bound and before the cancellation comes out as it would alone. -/
  own {ending : Ending (Except Error α)} {v : World σ} (alone : work.ComesOut w ending v)
    (inTime : ∀ stop, r.bound? limit w.now = some stop → v.now ≤ stop)
    (first : ∀ c, w.cancelAt r.cancel = some c →
      v.now < c) : (r.within credential limit work).ComesOut w ending v
  /-- A cancellation before the bound and before the work is over ends it. -/
  cancelled {c : Instant} (appointed : w.cancelAt r.cancel = some c) (ahead : w.now ≤ c)
    (first : ∀ stop, r.bound? limit w.now = some stop → c < stop)
    (early : ∀ ending v, work.ComesOut w ending v → c < v.now) :
    ∃ v, work.LeftAt w c v ∧
      (r.within credential limit work).ComesOut w
        (.value (.error (.timeout credential "request was cancelled"))) v
  /-- The end of the limit ends it, where the deadline does not come before it. -/
  limited {stop : Instant} {d : Duration} (bounded : r.bound? limit w.now = some stop)
    (first : ∀ c, w.cancelAt r.cancel = some c → stop < c) (early : ∀ ending v,
      work.ComesOut w ending v → stop < v.now)
    (given : limit = some d)
    (least : ∀ deadline, r.deadline = some deadline → w.now + d ≤ deadline) :
    ∃ v, work.LeftAt w stop v ∧ (r.within credential limit work).ComesOut w
      (.value (.error
        (.timeout credential ("no response within " ++ toString d.wholeMillis ++ "ms")))) v
  /-- The deadline ends it, where the limit does not end by then. -/
  overdue {stop : Instant} (bounded : r.bound? limit w.now = some stop)
    (first : ∀ c, w.cancelAt r.cancel = some c → stop < c) (early : ∀ ending v,
      work.ComesOut w ending v → stop < v.now)
    (least : ∀ d, limit = some d → ∃ deadline, r.deadline = some deadline ∧ deadline < w.now + d) :
    ∃ v, work.LeftAt w stop v ∧
      (r.within credential limit work).ComesOut w
        (.value (.error (.timeout credential "request deadline exceeded"))) v
  /-- Without a bound and a cancellation work that never comes out goes on for ever. -/
  endless (unbounded : r.bound? limit w.now = none) (spared : w.cancelAt r.cancel = none)
    (never : ∀ ending v, ¬ work.ComesOut w ending v) : (r.within credential limit work).Stalls w

variable {r : Request} {credential : String} {limit : Option Duration}
  {work : Task σ (Except Error α)} {w : World σ}

theorem limitEnd?_eq_some (now : Instant) (shown : ∀ d, limit = some d → now.after? d ≠ none) :
    limitEnd? now limit = some (limit.map (now + ·)) := by
  cases limit with
  | none => rfl
  | some d =>
    obtain ⟨limitEnd, shown⟩ := Option.ne_none_iff_exists'.mp (shown d rfl)
    rw [limitEnd?, shown, Instant.after?_eq_some shown]
    rfl

variable (credential work) in
theorem comes_within (on : w.cancelled r.cancel = false)
    (shown : ∀ d, limit = some d → w.now.after? d ≠ none) :
    (r.within credential limit work).Comes 0 w
      (work.giveUp r.cancel (Instant.earliest r.deadline (limit.map (w.now + ·)))
        (.error (.timeout credential cancelledMessage))
          (.error (.timeout credential (r.expiredMessage limit w.now)))) w := by
  refine .look ?_
  rw [on, if_neg Bool.false_ne_true, limitEnd?_eq_some w.now shown]
  exact .refl ..

theorem isWhole_earliest (deadline : ∀ d, r.deadline = some d → d.IsWhole)
    (limitEnd : ∀ d, limit = some d → (w.now + d).IsWhole) {d : Instant}
    (first : Instant.earliest r.deadline (limit.map (w.now + ·)) = some d) : d.IsWhole := by
  cases limit with
  | none =>
    refine deadline d ?_
    cases given : r.deadline with
    | none => rw [given] at first; cases first
    | some d => rwa [given] at first
  | some l =>
    obtain ⟨limited, -⟩ | ⟨d', given, -, overdue⟩ := Instant.earliest_cases r.deadline (w.now + l)
    · cases limited.symm.trans first
      exact limitEnd l rfl
    · cases overdue.symm.trans first
      exact deadline d given

theorem expiredMessage_limited (now : Instant) {d : Duration}
    (least : ∀ deadline, r.deadline = some deadline → now + d ≤ deadline) :
    r.expiredMessage (some d) now = "no response within " ++ toString d.wholeMillis ++ "ms" := by
  have notFirst : r.deadlineFirst (now + d) = false := by
    rw [deadlineFirst, Option.any_eq_false]
    exact fun deadline given => decide_eq_false (Int.not_lt.mpr (least deadline given))
  simp only [expiredMessage, notFirst, Bool.false_eq_true, if_false]

theorem expiredMessage_overdue (now : Instant)
    (least : ∀ d, limit = some d → ∃ deadline, r.deadline = some deadline ∧ deadline < now + d) :
    r.expiredMessage limit now = "request deadline exceeded" := by
  cases limit with
  | none => rfl
  | some d =>
    have first : r.deadlineFirst (now + d) = true := by
      obtain ⟨deadline, given, before⟩ := least d rfl
      rw [deadlineFirst, given]
      exact decide_eq_true before
    simp only [expiredMessage, first, if_true]

section Bounded

variable (fares : work.Fares r.cancel (Instant.earliest r.deadline (limit.map (w.now + ·)))
  (.error (.timeout credential cancelledMessage))
  (.error (.timeout credential (r.expiredMessage limit w.now))) w)
  (on : w.cancelled r.cancel = false) (shown : ∀ d, limit = some d → w.now.after? d ≠ none)
include fares on shown

theorem comesOut_own {ending : Ending (Except Error α)} {v : World σ}
    (alone : work.ComesOut w ending v)
    (inTime : ∀ stop, r.bound? limit w.now = some stop → v.now ≤ stop)
    (first : ∀ c, w.cancelAt r.cancel = some c → v.now < c) :
    (r.within credential limit work).ComesOut w ending v := by
  rw [(comes_within credential work on shown).comesOut_iff]
  cases fares with
  | own alone' within =>
    obtain ⟨rfl, now, log, state⟩ := alone.unique alone'
    exact within.congr now log state
  | cancelled appointed _ left =>
    have late := left.lt_of_comesOut alone
    exact absurd (Int.le_trans (Instant.le_later_right ..) (Int.le_of_lt late))
      (Int.not_le.mpr (first _ appointed))
  | expired bounded _ left =>
    have late := left.lt_of_comesOut alone
    exact absurd (inTime _ (congrArg (Option.map w.now.later) bounded)) (Int.not_le.mpr late)
  | endless _ _ stalls => exact absurd alone stalls.not_comesOut

theorem exists_cancelled {c : Instant}
    (appointed : w.cancelAt r.cancel = some c) (ahead : w.now ≤ c)
    (first : ∀ stop, r.bound? limit w.now = some stop → c < stop)
    (early : ∀ ending v, work.ComesOut w ending v → c < v.now) : ∃ v, work.LeftAt w c v ∧
      (r.within credential limit work).ComesOut w
        (.value (.error (.timeout credential cancelledMessage))) v := by
  have stop : w.now.later c = c := Instant.later_of_le_right ahead
  cases fares with
  | own alone _ _ first' =>
    have inTime := first' c appointed
    rw [stop] at inTime
    exact absurd inTime (Int.not_le.mpr (early _ _ alone))
  | cancelled appointed' _ left within =>
    cases appointed.symm.trans appointed'
    rw [stop] at left
    exact ⟨_, left, (comes_within credential work on shown).comesOut_iff.mpr within⟩
  | expired bounded first' =>
    have notFirst := first' c appointed
    rw [stop] at notFirst
    exact absurd notFirst (Int.not_le.mpr (first _ (congrArg (Option.map w.now.later) bounded)))
  | endless _ spared => exact nomatch appointed.symm.trans spared

theorem exists_expired {stop : Instant} (bounded : r.bound? limit w.now = some stop)
    (first : ∀ c, w.cancelAt r.cancel = some c → stop < c)
    (early : ∀ ending v, work.ComesOut w ending v → stop < v.now) :
    ∃ v, work.LeftAt w stop v ∧ (r.within credential limit work).ComesOut w
      (.value (.error (.timeout credential (r.expiredMessage limit w.now)))) v := by
  obtain ⟨d, earliest, rfl⟩ := Option.map_eq_some_iff.mp bounded
  cases fares with
  | own alone _ inTime => exact absurd (inTime d earliest) (Int.not_le.mpr (early _ _ alone))
  | cancelled appointed first' =>
    have before := Int.lt_of_le_of_lt (Instant.le_later_right ..) (first' d earliest)
    exact absurd (Int.le_of_lt before) (Int.not_le.mpr (first _ appointed))
  | expired bounded' _ left within =>
    cases earliest.symm.trans bounded'
    exact ⟨_, left, (comes_within credential work on shown).comesOut_iff.mpr within⟩
  | endless unbounded => exact nomatch earliest.symm.trans unbounded

theorem stalls_within (unbounded : r.bound? limit w.now = none)
    (spared : w.cancelAt r.cancel = none) (never : ∀ ending v, ¬ work.ComesOut w ending v) :
    (r.within credential limit work).Stalls w := by
  cases fares with
  | own alone => exact absurd alone (never _ _)
  | cancelled appointed => exact nomatch appointed.symm.trans spared
  | expired bounded => exact nomatch (Option.map_eq_none_iff.mp unbounded).symm.trans bounded
  | endless _ _ _ within => exact (comes_within credential work on shown).stalls within

theorem bounded_within : r.Bounded credential limit work w where
  own := comesOut_own fares on shown
  cancelled := exists_cancelled fares on shown
  limited bounded first early given least := by
    subst given
    rw [← expiredMessage_limited w.now least]
    exact exists_expired fares on shown bounded first early
  overdue bounded first early least := by
    rw [← expiredMessage_overdue w.now least]
    exact exists_expired fares on shown bounded first early
  endless := stalls_within fares on shown

end Bounded

/-- **Work within bounds.** A request that has been cancelled begins nothing; a limit whose end no
clock can show breaks the work down; and any other work goes as it is bounded. What patient work
waits for may be any instant, so bounds of its own that it keeps to are among them. -/
theorem within_of_patient (credential : String) (patient : work.Patient)
    (deadline : ∀ d, r.deadline = some d → d.IsWhole)
    (limitEnd : ∀ d, limit = some d → (w.now + d).IsWhole)
    (cancelAt : ∀ c, w.cancelAt r.cancel = some c → c.IsWhole) :
    (w.cancelled r.cancel = true →
      (r.within credential limit work).ComesOut w
        (.value (.error (.timeout credential "request was cancelled"))) w) ∧
    (w.cancelled r.cancel = false → (∃ d, limit = some d ∧ w.now.after? d = none) →
      (r.within credential limit work).ComesOut w .crashed w) ∧
    (w.cancelled r.cancel = false → (∀ d, limit = some d → w.now.after? d ≠ none) →
      r.Bounded credential limit work w) := by
  refine ⟨fun off => ?_, fun on overrun => ?_, fun on shown => ?_⟩
  · refine Task.Comes.comesOut_of_done (n := 0) (.look ?_)
    rw [if_pos off]
    exact .refl ..
  · obtain ⟨d, rfl, overrun⟩ := overrun
    refine Task.Comes.comesOut_of_crash (n := 0) (.look ?_)
    rw [on, if_neg Bool.false_ne_true, limitEnd?, overrun]
    exact .refl ..
  · exact bounded_within
      (patient.fares _ _ w on (fun _ => isWhole_earliest deadline limitEnd) cancelAt) on shown

/-- Work that takes three seconds, with a limit of one second, on a request with two seconds
left. -/
theorem within_of_patient_sleeper :
    let r : Request := ⟨[], some ⟨2000000000⟩, 0⟩
    let work : Task Unit (Except Error Unit) :=
      .wait { due := some ⟨3000000000⟩ } fun _ => .done (.ok ())
    let w : World Unit := .initial ⟨0⟩ (.ofCapacity 8) ()
    ∃ v, work.LeftAt w ⟨1000000000⟩ v ∧ (r.within "mi" (some (.ofSeconds 1)) work).ComesOut w
      (.value (.error (.timeout "mi" "no response within 1000ms"))) v := by
  intro r work w
  have patient : work.Patient := ⟨rfl, rfl, fun _ => trivial⟩
  have shown : ∀ d, some (Duration.ofSeconds 1) = some d → w.now.after? d ≠ none := by
    rintro _ ⟨⟩
    decide
  have within :=
    (within_of_patient (r := r) (w := w) "mi" patient (by rintro _ ⟨⟩; rfl)
      (by rintro _ ⟨⟩; rfl) nofun).2.2 rfl shown
  refine within.limited rfl nofun (fun ending v alone => ?_) rfl (by rintro _ ⟨⟩; decide)
  exact patient.lt_of_comesOut rfl (by rintro _ ⟨⟩; decide) alone

/-- A limit that is too long for the clock, on a request with a second left: the work would be over
at once, but it breaks down. -/
theorem within_overrun :
    let r : Request := ⟨[], some ⟨1000000000⟩, 0⟩
    let work : Task Unit (Except Error Nat) := .done (.ok 1)
    let w : World Unit := .initial ⟨0⟩ (.ofCapacity 8) ()
    work.ComesOut w (.value (.ok 1)) w ∧ w.cancelled r.cancel = false ∧
      ¬ ∃ v, (r.within "mi" (some .longest) work).ComesOut w (.value (.ok 1)) v := by
  intro r work w
  refine ⟨Task.Comes.comesOut_of_done (.refl ..), rfl, fun ⟨v, returns⟩ => ?_⟩
  have breaks : (r.within "mi" (some .longest) work).Comes 0 w .crash w := .look (.refl ..)
  cases (breaks.comesOut_of_crash.unique returns).1

end Request

end TokenChain
