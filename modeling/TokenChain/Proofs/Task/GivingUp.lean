import TokenChain.Proofs.Retry.Bounds
import TokenChain.Proofs.Schedule.Ending
import TokenChain.Proofs.Schedule.Punctuality

/-! # Patient work that is given up

What becomes of patient work that is given up at a bound or for a cancellation, by what becomes of
it alone (`Task.Patient.fares`): it comes out as it would alone, or is left where it waits when the
one or the other comes (`Task.LeftAt`), or rests for ever with nothing to end it. Of what comes at
one instant the work is before the bound, and the bound before the cancellation.

`Task.Fares` is kept by the steps that the work takes alone and given up alike (`Fares.of_comes`). A
wait (`fares_wait`) ends at once if something has come already (`fares_of_come`, `fares_of_passed`,
`fares_of_due`), or else when its first alarm rings (`Wait.FirstAlarm`, `fares_rung`). -/

namespace TokenChain

variable {σ α : Type}

namespace Instant

/-- The later of two instants. -/
def later (a b : Instant) : Instant := if b ≤ a then a else b

variable {a b c t : Instant}

theorem le_antisymm (h : a ≤ b) (h' : b ≤ a) : a = b := congrArg mk (Int.le_antisymm h h')

theorem later_of_le (h : b ≤ a) : a.later b = a := if_pos h

theorem later_of_lt (h : a < b) : a.later b = b := if_neg (Int.not_le.mpr h)

theorem le_later (a b : Instant) : a ≤ a.later b := by
  rw [later]
  split_ifs with h
  · exact Int.le_refl _
  · exact Int.le_of_lt (Int.not_le.mp h)

theorem le_later_right (a b : Instant) : b ≤ a.later b := by
  rw [later]
  split_ifs with h
  · exact h
  · exact Int.le_refl _

theorem later_of_le_right (h : a ≤ b) : a.later b = b := by
  rw [later]
  split_ifs with h'
  · exact le_antisymm h h'
  · rfl

theorem later_eq_of_le (ahead : a < b) (moved : t ≤ b) : t.later b = a.later b := by
  rw [later_of_lt ahead, later]
  split_ifs with h
  · exact le_antisymm moved h
  · rfl

theorem IsWhole.ceilMilli_le (whole : b.IsWhole) (h : a ≤ b) : a.ceilMilli ≤ b := by
  have mono := ceilMilli_mono h
  rwa [whole] at mono

end Instant

namespace Wait

variable {q : Wait σ} {key : CancelKey} {bound : Option Instant} {w : World σ}

/-- A wait that a cancellation and a deadline may end. -/
def bounded (q : Wait σ) (key : CancelKey) (bound : Option Instant) : Wait σ :=
  { q with cancel := some key, deadline := bound }

theorem wake?_bounded (q : Wait σ) (key : CancelKey) (bound : Option Instant) (w : World σ) :
    (q.bounded key bound).wake? w = if w.cancelled key then some .cancelled
      else if q.come w then some .ready else if bound.any fun t =>
        decide (t ≤ w.now) then some .expired else none := rfl

theorem bounded_cancelled (off : w.cancelled key = true) :
    (q.bounded key bound).wake? w = some .cancelled := by
  rw [wake?_bounded, if_pos off]

theorem bounded_ready (on : w.cancelled key = false) (come : q.come w = true) :
    (q.bounded key bound).wake? w = some .ready := by
  rw [wake?_bounded, on, if_neg Bool.false_ne_true, if_pos come]

theorem bounded_expired {b : Instant} (on : w.cancelled key = false) (rests : q.come w = false)
    (passed : b ≤ w.now) : (q.bounded key (some b)).wake? w = some .expired := by
  rw [wake?_bounded, on, if_neg Bool.false_ne_true, rests, if_neg Bool.false_ne_true]
  exact if_pos (decide_eq_true passed)

theorem bounded_asleep (on : w.cancelled key = false) (rests : q.come w = false)
    (ahead : ∀ b, bound = some b → w.now < b) : (q.bounded key bound).wake? w = none := by
  rw [wake?_bounded, on, if_neg Bool.false_ne_true, rests, if_neg Bool.false_ne_true]
  refine if_neg fun passed => ?_
  obtain ⟨b, rfl, le⟩ := (Option.any_eq_true ..).mp passed
  have lt : w.now < b := ahead b rfl
  have le : b ≤ w.now := of_decide_eq_true le
  exact Int.not_le.mpr lt le

/-- **A bounded wait that nothing has ended yet**, not even a cancellation that is due. -/
structure Dormant (q : Wait σ) (key : CancelKey) (bound : Option Instant) (w : World σ) : Prop where
  rests : q.come w = false
  ahead : ∀ d, bound = some d → w.now < d
  on : w.cancelDue.cancelled key = false

theorem Dormant.still (h : q.Dormant key bound w) :
    (q.bounded key bound).wake? w.cancelDue = none :=
  bounded_asleep (w := w.cancelDue) h.on h.rests h.ahead

theorem Dormant.asleep (h : q.Dormant key bound w) : (q.bounded key bound).wake? w = none :=
  bounded_asleep (Bool.or_eq_false_iff.mp h.on).1 h.rests h.ahead

theorem Dormant.lt_of_cancelAt (h : q.Dormant key bound w) {c : Instant}
    (appointed : w.cancelAt key = some c) : w.now < c :=
  Int.not_le.mp fun le => Bool.eq_false_iff.mp h.on
    ((w.cancelled_cancelDue_iff key).mpr (.inr ⟨c, appointed, le⟩))

theorem alarms_bounded (q : Wait σ) (key : CancelKey) (bound : Option Instant) (w : World σ) :
    (q.bounded key bound).alarms w.cancelDue = q.due.toList ++ bound.toList ++
      (w.cancelAt key).toList := rfl

/-- **The first alarm of a dormant wait**: what it rings for, and that it rings no later than
anything that is due. -/
structure FirstAlarm (q : Wait σ) (key : CancelKey) (bound : Option Instant) (w : World σ)
    (t : Instant) : Prop where
  dormant : q.Dormant key bound w
  alarm : (q.bounded key bound).alarm? w.cancelDue = some t.ceilMilli
  cause : q.due = some t ∨ bound = some t ∨ w.cancelAt key = some t
  beforeDue : ∀ d, q.due = some d → t ≤ d
  beforeBound : ∀ d, bound = some d → t.ceilMilli ≤ d
  beforeCancel : ∀ c, w.cancelAt key = some c → t.ceilMilli ≤ c

/-- Bounds and cancellations at whole milliseconds are not rung for too late. -/
theorem Dormant.firstAlarm (dormant : q.Dormant key bound w)
    (whole : ∀ d, bound = some d → d.IsWhole) (whole' : ∀ c, w.cancelAt key = some c → c.IsWhole)
    {t : Instant} (mem : t ∈ (q.bounded key bound).alarms w.cancelDue)
    (alarm : (q.bounded key bound).alarm? w.cancelDue = some t.ceilMilli)
    (first : ∀ d ∈ (q.bounded key bound).alarms w.cancelDue, t ≤ d) :
    q.FirstAlarm key bound w t := by
  rw [alarms_bounded] at mem first
  simp only [List.mem_append, Option.mem_toList] at mem first
  exact ⟨dormant, alarm, or_assoc.mp mem, fun d hd => first d (.inl (.inl hd)),
    fun d hd => (whole d hd).ceilMilli_le (first d (.inl (.inr hd))),
    fun c hc => (whole' c hc).ceilMilli_le (first c (.inr hc))⟩

section FirstAlarm

variable {t : Instant} (h : q.FirstAlarm key bound w t)
include h

theorem FirstAlarm.ahead : w.now < t := by
  obtain due | bounded | appointed := h.cause
  · exact (come_eq_false_iff.mp h.dormant.rests).2 t due
  · exact h.dormant.ahead t bounded
  · exact h.dormant.lt_of_cancelAt appointed

theorem FirstAlarm.passes : w.Elapses (w.cancelDue.advance t.ceilMilli) :=
  w.elapses_cancelDue.trans
    (w.cancelDue.elapses_advance (Int.le_of_lt (Int.lt_of_lt_of_le h.ahead t.le_ceilMilli)))

theorem FirstAlarm.on : (w.cancelDue.advance t.ceilMilli).cancelled key = false := by
  rw [Bool.eq_false_iff, ne_eq, World.cancelled_advance_iff]
  rintro (off | ⟨c, hc, before⟩)
  · exact Bool.eq_false_iff.mp h.dormant.on off
  · exact Int.not_le.mpr before (h.beforeCancel c hc)

theorem FirstAlarm.rests (early : ∀ d, q.due = some d → t.ceilMilli < d) :
    q.come (w.cancelDue.advance t.ceilMilli) = false :=
  come_eq_false_iff.mpr ⟨(come_eq_false_iff.mp h.dormant.rests).1, early⟩

theorem FirstAlarm.later_bound {d : Instant} (bounded : bound = some d) :
    t.ceilMilli.later d = w.now.later d :=
  Instant.later_eq_of_le (h.dormant.ahead d bounded) (h.beforeBound d bounded)

theorem FirstAlarm.later_cancelAt {c : Instant} (appointed : w.cancelAt key = some c) :
    t.ceilMilli.later c = w.now.later c :=
  Instant.later_eq_of_le (h.dormant.lt_of_cancelAt appointed) (h.beforeCancel c appointed)

end FirstAlarm

end Wait

namespace Task

/-- **Work that is left at an instant**: by then it has come to a wait, alone, and will go on only
later. What it has done stays, and what it waits for is undone. -/
inductive LeftAt (t : Task σ α) (w : World σ) (stop : Instant) (v : World σ) : Prop
  | mk {n : Nat} {q : Wait σ} {k : Wake → Task σ α} {w₁ : World σ}
      (comes : t.Comes n w (wait q k) w₁) (patient : (wait q k).Patient)
      (asleep : q.wake? w₁ = none) (reached : w₁.now ≤ stop)
      (ahead : ∀ due, q.due = some due → stop < due) (now : v.now = stop) (log : v.log = w₁.log)
      (state : v.state = q.abandon w₁.state)

variable {t t' : Task σ α} {w w₁ v : World σ} {key : CancelKey} {bound : Option Instant} {a b : α}
  {stop : Instant} {e : Ending α}

theorem LeftAt.lt_of_comesOut (left : t.LeftAt w stop v) (h : t.ComesOut w e w₁) :
    stop < w₁.now := by
  obtain ⟨comes, patient, asleep, -, ahead, -, -, -⟩ := left
  exact patient.lt_of_comesOut asleep ahead (comes.comesOut_iff.mp h)

/-- **What becomes of work** that is given up at a bound or for a cancellation, by what becomes of
it alone. -/
inductive Fares (t : Task σ α) (key : CancelKey) (bound : Option Instant) (a b : α) (w : World σ) :
    Prop
  | own {ending : Ending α} {v : World σ} (alone : t.ComesOut w ending v)
      (within : (t.giveUp key bound a b).ComesOut w ending v)
      (inTime : ∀ d, bound = some d → v.now ≤ w.now.later d)
      (first : ∀ c, w.cancelAt key = some c → v.now ≤ w.now.later c)
  | cancelled {c : Instant} {v : World σ} (appointed : w.cancelAt key = some c)
      (first : ∀ d, bound = some d → w.now.later c < w.now.later d)
      (left : t.LeftAt w (w.now.later c) v)
      (within : (t.giveUp key bound a b).ComesOut w (.value a) v)
  | expired {d : Instant} {v : World σ} (bounded : bound = some d)
      (first : ∀ c, w.cancelAt key = some c → w.now.later d ≤ w.now.later c)
      (left : t.LeftAt w (w.now.later d) v)
      (within : (t.giveUp key bound a b).ComesOut w (.value b) v)
  | endless (unbounded : bound = none) (spared : w.cancelAt key = none) (alone : t.Stalls w)
      (within : (t.giveUp key bound a b).Stalls w)

/-- What becomes of work is told by what becomes of the rest of it, in a world that is as far from
the bound and the cancellation. -/
theorem Fares.of_comes {m n : Nat} (rest : t'.Fares key bound a b w₁) (alone : t.Comes m w t' w₁)
    (within : (t.giveUp key bound a b).Comes n w (t'.giveUp key bound a b) w₁)
    (cancelAt : w₁.cancelAt = w.cancelAt)
    (bounds : ∀ d, bound = some d → w₁.now.later d = w.now.later d)
    (cancels : ∀ c, w.cancelAt key = some c → w₁.now.later c = w.now.later c) :
    t.Fares key bound a b w := by
  have left : ∀ {stop v}, t'.LeftAt w₁ stop v → t.LeftAt w stop v := by
    rintro stop v ⟨comes, patient, asleep, reached, ahead, now, log, state⟩
    exact ⟨alone.trans comes, patient, asleep, reached, ahead, now, log, state⟩
  cases rest with
  | own alone' within' inTime first =>
    refine .own (alone.comesOut_iff.mpr alone') (within.comesOut_iff.mpr within')
      (fun d hd => ?_) fun c hc => ?_
    · rw [← bounds d hd]
      exact inTime d hd
    · rw [← cancels c hc]
      exact first c (cancelAt ▸ hc)
  | @cancelled c _ appointed first left' within' =>
    have appointed : w.cancelAt key = some c := cancelAt ▸ appointed
    refine .cancelled appointed (fun d hd => ?_) (left ?_) (within.comesOut_iff.mpr within')
    · rw [← bounds d hd, ← cancels c appointed]
      exact first d hd
    · rwa [← cancels c appointed]
  | @expired d _ bounded first left' within' =>
    refine .expired bounded (fun c hc => ?_) (left ?_) (within.comesOut_iff.mpr within')
    · rw [← bounds d bounded, ← cancels c hc]
      exact first c (cancelAt ▸ hc)
    · rwa [← bounds d bounded]
  | endless unbounded spared alone' within' =>
    exact .endless unbounded (cancelAt ▸ spared) (alone.stalls alone') (within.stalls within')

/-! ### Waits that are given up -/

section Wait

variable {q : Wait σ} {k : Wake → Task σ α} {n : Nat}

/-- The world in which a wait has been given up. -/
def givenUp (q : Wait σ) (w : World σ) : World σ := { w with state := q.abandon w.state }

theorem comes_ready (key : CancelKey) (bound : Option Instant) (a b : α) (k : Wake → Task σ α)
    (ends : (q.bounded key bound).Over w n .ready w₁) :
    ((wait q k).giveUp key bound a b).Comes n w ((k .ready).giveUp key bound a b) w₁ :=
  .wait ends (.refl ..)

theorem comesOut_cancelled (bound : Option Instant) (a b : α) (k : Wake → Task σ α)
    (ends : (q.bounded key bound).Over w n .cancelled w₁) :
    ((wait q k).giveUp key bound a b).ComesOut w (.value a) (givenUp q w₁) :=
  Comes.comesOut_of_done (.wait ends (.step (f := q.abandon) (k := fun _ => done a) (.refl ..)))

theorem comesOut_expired (bound : Option Instant) (a b : α) (k : Wake → Task σ α)
    (ends : (q.bounded key bound).Over w n .expired w₁) :
    ((wait q k).giveUp key bound a b).ComesOut w (.value b) (givenUp q w₁) :=
  Comes.comesOut_of_done (.wait ends (.step (f := q.abandon) (k := fun _ => done b) (.refl ..)))

theorem leftAt_givenUp (patient : (wait q k).Patient) (rests : q.come w = false)
    (passes : w.Elapses w₁) (ahead : ∀ due, q.due = some due → w₁.now < due) :
    (wait q k).LeftAt w w₁.now (givenUp q w₁) :=
  .mk (.refl ..) patient (Wait.IsPatient.asleep ⟨patient.1, patient.2.1⟩ rests) passes.now
    ahead rfl passes.log (congrArg q.abandon passes.state)

variable {t : Instant} (a b)

theorem fares_ready (patient : (wait q k).Patient) (first : q.FirstAlarm key bound w t)
    {d : Instant} (due : q.due = some d) (reached : d ≤ t.ceilMilli)
    (rest : ∀ w₁, w₁.cancelled key = false → w₁.cancelAt = w.cancelAt →
      (k .ready).Fares key bound a b w₁) :
    (wait q k).Fares key bound a b w := by
  have waits : q.IsPatient := ⟨patient.1, patient.2.1⟩
  have same : d.ceilMilli = t.ceilMilli := by
    have low := Instant.ceilMilli_mono (first.beforeDue d due)
    simp only [Instant.ceilMilli, Instant.le_iff, Instant.mk.injEq] at low reached ⊢
    omega
  have come : q.come (w.cancelDue.advance t.ceilMilli) = true := by
    rw [Wait.come, due, Option.any_some]
    exact Bool.or_eq_true_iff.mpr (.inr (decide_eq_true reached))
  have own : q.Over w 2 .ready (w.cancelDue.advance t.ceilMilli) :=
    same ▸ waits.over_of_due first.dormant.rests due
  have within : (q.bounded key bound).Over w 2 .ready (w.cancelDue.advance t.ceilMilli) :=
    .rings first.dormant.asleep first.dormant.still first.alarm (Wait.bounded_ready first.on come)
  exact (rest _ first.on rfl).of_comes (.wait own (.refl ..))
    (comes_ready key bound a b k within) rfl (fun _ => first.later_bound) fun _ =>
      first.later_cancelAt

theorem fares_expired (patient : (wait q k).Patient) (first : q.FirstAlarm key bound w t)
    (early : ∀ d, q.due = some d → t.ceilMilli < d) {d : Instant} (bounded : bound = some d)
    (reached : d ≤ t.ceilMilli) : (wait q k).Fares key bound a b w := by
  have stop : w.now.later d = t.ceilMilli :=
    (first.later_bound bounded).symm.trans (Instant.later_of_le reached)
  subst bounded
  have within : (q.bounded key (some d)).Over w 2 .expired (w.cancelDue.advance t.ceilMilli) :=
    .rings first.dormant.asleep first.dormant.still first.alarm
      (Wait.bounded_expired first.on (first.rests early) reached)
  refine .expired rfl (fun c hc => ?_) ?_ (comesOut_expired (some d) a b k within)
  · rw [stop, ← first.later_cancelAt hc]
    exact Instant.le_later ..
  · rw [stop]
    exact leftAt_givenUp patient first.dormant.rests first.passes early

theorem fares_cancelled (patient : (wait q k).Patient) (first : q.FirstAlarm key bound w t)
    (early : ∀ d, q.due = some d → t.ceilMilli < d)
    (ahead : ∀ d, bound = some d → t.ceilMilli < d) : (wait q k).Fares key bound a b w := by
  have appointed : w.cancelAt key = some t := by
    obtain due | bounded | appointed := first.cause
    · exact absurd t.le_ceilMilli (Int.not_le.mpr (early t due))
    · exact absurd t.le_ceilMilli (Int.not_le.mpr (ahead t bounded))
    · exact appointed
  have stop : w.now.later t = t.ceilMilli :=
    (first.later_cancelAt appointed).symm.trans (Instant.later_of_le t.le_ceilMilli)
  have silent := Wait.bounded_asleep first.on (first.rests early) ahead
  have off : (w.cancelDue.advance t.ceilMilli).cancelDue.cancelled key = true :=
    (World.cancelled_cancelDue_iff _ key).mpr (.inr ⟨t, appointed, t.le_ceilMilli⟩)
  have within :
      (q.bounded key bound).Over w 3 .cancelled (w.cancelDue.advance t.ceilMilli).cancelDue :=
    .ringsIn first.dormant.asleep first.dormant.still first.alarm silent
      (Wait.bounded_cancelled off)
  refine .cancelled appointed (fun d hd => ?_) ?_ (comesOut_cancelled bound a b k within)
  · rw [stop, ← first.later_bound hd, Instant.later_of_lt (ahead d hd)]
    exact ahead d hd
  · rw [stop]
    exact leftAt_givenUp patient first.dormant.rests
      (first.passes.trans (World.elapses_cancelDue _)) early

/-- A wait whose first alarm rings: what is waited for comes, or else the bound, or else the
cancellation. -/
theorem fares_rung (patient : (wait q k).Patient) (first : q.FirstAlarm key bound w t)
    (rest : ∀ w₁, w₁.cancelled key = false → w₁.cancelAt = w.cancelAt →
      (k .ready).Fares key bound a b w₁) :
    (wait q k).Fares key bound a b w := by
  by_cases come : ∃ d, q.due = some d ∧ d ≤ t.ceilMilli
  · obtain ⟨d, due, reached⟩ := come
    exact fares_ready a b patient first due reached rest
  have early : ∀ d, q.due = some d → t.ceilMilli < d :=
    fun d hd => Int.not_le.mp fun le => come ⟨d, hd, le⟩
  by_cases late : ∃ d, bound = some d ∧ d ≤ t.ceilMilli
  · obtain ⟨d, bounded, reached⟩ := late
    exact fares_expired a b patient first early bounded reached
  · exact fares_cancelled a b patient first early fun d hd => Int.not_le.mp
      fun le => late ⟨d, hd, le⟩

theorem fares_of_come (patient : (wait q k).Patient) (on : w.cancelled key = false)
    (come : q.come w = true) (rest : (k .ready).Fares key bound a b w) :
    (wait q k).Fares key bound a b w :=
  have waits : q.IsPatient := ⟨patient.1, patient.2.1⟩
  rest.of_comes (.wait (waits.over_of_come come) (.refl ..))
    (comes_ready key bound a b k (.now (Wait.bounded_ready on come))) rfl
      (fun _ _ => rfl) fun _ _ => rfl

theorem fares_of_passed (patient : (wait q k).Patient) (on : w.cancelled key = false)
    (rests : q.come w = false) {d : Instant} (passed : d ≤ w.now) :
    (wait q k).Fares key (some d) a b w := by
  have stop : w.now.later d = w.now := Instant.later_of_le passed
  refine .expired rfl (fun c _ => ?_) ?_
    (comesOut_expired (some d) a b k (.now (Wait.bounded_expired on rests passed)))
  · rw [stop]
    exact Instant.le_later ..
  · rw [stop]
    exact leftAt_givenUp patient rests (.refl w) (Wait.come_eq_false_iff.mp rests).2

theorem fares_of_due (patient : (wait q k).Patient) (on : w.cancelled key = false)
    (rests : q.come w = false) (ahead : ∀ d, bound = some d → w.now < d)
    (due : w.cancelDue.cancelled key = true) : (wait q k).Fares key bound a b w := by
  obtain ⟨c, appointed, reached⟩ :=
    ((w.cancelled_cancelDue_iff key).mp due).resolve_left (Bool.eq_false_iff.mp on)
  have stop : w.now.later c = w.now := Instant.later_of_le reached
  have asleep := Wait.bounded_asleep on rests ahead
  refine .cancelled appointed (fun d hd => ?_) ?_
    (comesOut_cancelled bound a b k (.cancelled asleep (Wait.bounded_cancelled due)))
  · rw [stop, Instant.later_of_lt (ahead d hd)]
    exact ahead d hd
  · rw [stop]
    exact leftAt_givenUp patient rests w.elapses_cancelDue (Wait.come_eq_false_iff.mp rests).2

/-- **A wait within bounds**: what is waited for comes, or the work is given up, or it rests for
ever. -/
theorem fares_wait (patient : (wait q k).Patient) (on : w.cancelled key = false)
    (whole : ∀ d, bound = some d → d.IsWhole) (whole' : ∀ c, w.cancelAt key = some c → c.IsWhole)
    (rest : ∀ w₁, w₁.cancelled key = false → w₁.cancelAt = w.cancelAt →
      (k .ready).Fares key bound a b w₁) :
    (wait q k).Fares key bound a b w := by
  cases come : q.come w with
  | true => exact fares_of_come a b patient on come (rest w on rfl)
  | false =>
  by_cases passed : ∃ d, bound = some d ∧ d ≤ w.now
  · obtain ⟨d, rfl, passed⟩ := passed
    exact fares_of_passed a b patient on come passed
  have ahead : ∀ d, bound = some d → w.now < d :=
    fun d hd => Int.not_le.mp fun le => passed ⟨d, hd, le⟩
  cases due : w.cancelDue.cancelled key with
  | true => exact fares_of_due a b patient on come ahead due
  | false =>
  have dormant : q.Dormant key bound w := ⟨come, ahead, due⟩
  obtain none | ⟨t, mem, alarm, first⟩ := (q.bounded key bound).alarm?_eq w.cancelDue
  · have silent : (q.bounded key bound).alarm? w.cancelDue = Option.none := by
      rw [Wait.alarm?, none]; rfl
    rw [Wait.alarms_bounded] at none
    simp only [List.append_eq_nil_iff, Option.toList_eq_nil_iff] at none
    have waits : q.IsPatient := ⟨patient.1, patient.2.1⟩
    exact .endless none.1.2 none.2 (stalls_of_idle (waits.idle come none.1.1))
      (stalls_of_idle ⟨dormant.asleep, dormant.still, silent⟩)
  · exact fares_rung a b patient (dormant.firstAlarm whole whole' mem alarm first) rest

end Wait

variable (a b) in
/-- **Patient work within bounds.** -/
theorem Patient.fares (patient : t.Patient) (w : World σ) (on : w.cancelled key = false)
    (whole : ∀ d, bound = some d → d.IsWhole) (whole' : ∀ c, w.cancelAt key = some c → c.IsWhole) :
    t.Fares key bound a b w := by
  induction t generalizing w with
  | done c =>
    have ended : (done c : Task σ α).ComesOut w (.value c) w := (Comes.refl ..).comesOut_of_done
    exact .own ended ended (fun _ _ => Instant.le_later ..) fun _ _ => Instant.le_later ..
  | crash =>
    have ended : (crash : Task σ α).ComesOut w .crashed w := (Comes.refl ..).comesOut_of_crash
    exact .own ended ended (fun _ _ => Instant.le_later ..) fun _ _ => Instant.le_later ..
  | look k ih =>
    exact (ih w.toMoment (patient _) w on whole').of_comes (.look (.refl ..)) (.look (.refl ..)) rfl
      (fun _ _ => rfl) fun _ _ => rfl
  | note e k ih =>
    exact (ih patient (w.append e) on whole').of_comes (.note (.refl ..)) (.note (.refl ..)) rfl
      (fun _ _ => rfl) fun _ _ => rfl
  | step f k ih =>
    exact (ih w.state (patient _) { w with state := f w.state } on whole').of_comes
      (.step (.refl ..)) (.step (.refl ..)) rfl (fun _ _ => rfl) fun _ _ => rfl
  | wait q k ih =>
    exact fares_wait a b patient on whole whole' fun w₁ on₁ same =>
      ih .ready (patient.2.2 _) w₁ on₁ (same ▸ whole')

end Task

end TokenChain
