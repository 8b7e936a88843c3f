import TokenChain.Proofs.Time.Calendar
import TokenChain.Time.Zone

/-! # Instants and what walls show

A wall shows a time at some instants: one of them, none if the time is skipped when the clocks go
forward, two if it comes again when they go back. A time that is shown only once names its instant
(`Zone.timestamp?_wallTime`), in every zone and every year: whether it is summer is told from the
year that the wall shows, and this is the year of the instant as standard time counts, because
summer neither begins nor ends close to the turn of a year (`Zone.summer_bounds`).

A time that is skipped names no instant (`Zone.timestamp?_of_skipped`) unless it lies in the second
at which the clocks go forward (`Zone.JumpsAt`). That second counts as standard time, so its times
name what follows the jump (`Zone.timestamp?_of_jumpsAt`).

Which times these are is told by `Zone.unambiguous_summer_iff` and `Zone.skipped_summer_iff`: all
but those of the hours around the end of summer, and those of the hour that is left out at its
beginning. -/

namespace TokenChain

open Date

theorem Timestamp.eq_of_nanos_eq {t u : Timestamp} (nanos : t.nanos = u.nanos)
    (seconds : t.seconds = u.seconds) : t = u := by
  cases t
  cases u
  cases nanos
  cases seconds
  rfl

namespace WallTime

theorem utcSecond_ofTimestamp (t : Timestamp) : (ofTimestamp t).utcSecond = t.seconds := by
  have inside : 0 ≤ t.seconds % 86400 := Int.emod_nonneg _ (by decide)
  rw [utcSecond, ofTimestamp]
  dsimp only
  rw [number_ofNumber]
  omega

/-- A time of day on a date of the calendar. -/
structure Proper (w : WallTime) : Prop where
  valid : w.date.isValid = true
  second_lt : w.second < 86400

theorem proper_ofTimestamp (t : Timestamp) : (ofTimestamp t).Proper := by
  refine ⟨isValid_ofNumber _, ?_⟩
  rw [ofTimestamp]
  dsimp only
  omega

variable {w : WallTime}

theorem Proper.yearOf_eq (proper : w.Proper) : yearOf (w.utcSecond / 86400) = w.date.year := by
  have day : w.utcSecond / 86400 = w.date.number := by
    have early := proper.second_lt
    rw [utcSecond]
    omega
  rw [day, yearOf_number proper.valid]

theorem Proper.ofTimestamp_eq (proper : w.Proper) : ofTimestamp ⟨w.utcSecond, w.nanos⟩ = w := by
  have early := proper.second_lt
  have day : w.utcSecond / 86400 = w.date.number := by
    rw [utcSecond]
    omega
  have second : (w.utcSecond % 86400).toNat = w.second := by
    rw [utcSecond]
    omega
  rw [ofTimestamp]
  dsimp only
  rw [day, second, ofNumber_number proper.valid]

end WallTime

namespace Zone

variable {zone : Zone} {t : Timestamp} {w : WallTime}

/-- **A time that is shown once.** -/
def Unambiguous (zone : Zone) (t : Timestamp) : Prop :=
  ∀ u, zone.wallTime u = zone.wallTime t → u = t

/-- **A time that is never shown.** -/
def Skipped (zone : Zone) (w : WallTime) : Prop := ∀ t, zone.wallTime t ≠ w

/-- **The clocks go forward** when walls come to a local second, at a second of UTC: from then on
they are further ahead than a second before. -/
def JumpsAt (zone : Zone) (local_ second : Int) : Prop :=
  local_ = second + zone.offsetAt (second - 1) ∧ zone.offsetAt (second - 1) < zone.offsetAt second

/-! ### Summer -/

theorem yearOf_div_eq_iff {s y : Int} :
    yearOf (s / 86400) = y ↔ yearStart y * 86400 ≤ s ∧ s < yearStart (y + 1) * 86400 := by
  rw [yearOf_eq_iff]
  omega

theorem summer_bounds (y : Int) :
    yearStart y * 86400 + 86400 < summerStart y ∧ summerStart y + 86400 < summerEnd y ∧
    summerEnd y + 86400 < yearStart (y + 1) * 86400 := by
  have march : monthStart (isLeap y) 3 = 31 + if isLeap y then 29 else 28 := rfl
  have november : monthStart (isLeap y) 11 = 276 + if isLeap y then 29 else 28 := rfl
  rw [yearStart_succ, summerStart, summerEnd, sunday, sunday, number, number, yearLength]
  dsimp only
  rw [march, november]
  split <;> omega

theorem offsetAt_summer {offset second y : Int} (year : yearOf ((second + offset) / 86400) = y) :
    (summer offset).offsetAt second =
      if summerStart y ≤ second + offset ∧
      second + offset < summerEnd y then offset + 3600 else offset := by
  simp only [offsetAt, year, Bool.and_eq_true, decide_eq_true_eq]

section
variable {offset second y : Int}

theorem offsetAt_of_summer (warm : summerStart y ≤ second + offset)
    (still : second + offset < summerEnd y) : (summer offset).offsetAt second = offset + 3600 := by
  have bounds := summer_bounds y
  rw [offsetAt_summer ((yearOf_div_eq_iff (y := y)).mpr (by omega)), if_pos ⟨warm, still⟩]

theorem offsetAt_of_spring (begun : yearStart y * 86400 ≤ second + offset)
    (cold : second + offset < summerStart y) : (summer offset).offsetAt second = offset := by
  have bounds := summer_bounds y
  rw [offsetAt_summer ((yearOf_div_eq_iff (y := y)).mpr (by omega)), if_neg (by omega)]

theorem offsetAt_of_autumn (cold : summerEnd y ≤ second + offset)
    (still : second + offset < yearStart (y + 1) * 86400) :
    (summer offset).offsetAt second = offset := by
  have bounds := summer_bounds y
  rw [offsetAt_summer ((yearOf_div_eq_iff (y := y)).mpr (by omega)), if_neg (by omega)]

end

theorem offsetAt_summer_cases (offset second : Int) :
    (summer offset).offsetAt second = offset ∨ (summer offset).offsetAt second = offset + 3600 := by
  rw [offsetAt_summer rfl]
  split
  · exact .inr rfl
  · exact .inl rfl

theorem summer_of_offsetAt {offset second : Int}
    (warm : (summer offset).offsetAt second = offset + 3600) :
    ∃ y, summerStart y ≤ second + offset ∧ second + offset < summerEnd y := by
  refine ⟨yearOf ((second + offset) / 86400), ?_⟩
  refine Decidable.byContradiction fun cold => ?_
  rw [offsetAt_summer rfl, if_neg cold] at warm
  omega

theorem jumpsAt_iff {local_ second : Int} : zone.JumpsAt local_ second ↔
    ∃ offset, zone = .summer offset ∧ local_ = second + offset ∧
    summerStart (yearOf (local_ / 86400)) = local_ := by
  constructor
  · rintro ⟨shown, ahead⟩
    cases zone with
    | fixed offset => exact absurd ahead (Int.lt_irrefl _)
    | summer offset =>
      obtain ⟨y, year⟩ : ∃ y, yearOf ((second + offset) / 86400) = y := ⟨_, rfl⟩
      have bounds := summer_bounds y
      obtain ⟨begun, ended⟩ := yearOf_div_eq_iff.mp year
      have least : offset ≤ (summer offset).offsetAt (second - 1) := by
        rw [offsetAt_summer rfl]
        split <;> omega
      have warm : summerStart y ≤ second + offset ∧ second + offset < summerEnd y := by
        refine Decidable.byContradiction fun cold => ?_
        rw [offsetAt_summer year, if_neg cold] at ahead
        omega
      have first : second + offset = summerStart y := by
        refine Int.le_antisymm (Int.not_lt.mp fun late => ?_) warm.1
        have before : (summer offset).offsetAt (second - 1) = offset + 3600 :=
          offsetAt_of_summer (y := y) (by omega) (by omega)
        rw [before, offsetAt_of_summer warm.1 warm.2] at ahead
        omega
      have before : (summer offset).offsetAt (second - 1) = offset :=
        offsetAt_of_spring (y := y) (by omega) (by omega)
      rw [before] at shown
      exact ⟨offset, rfl, shown, by rw [shown, year, first]⟩
  · rintro ⟨offset, rfl, rfl, first⟩
    obtain ⟨y, year⟩ : ∃ y, yearOf ((second + offset) / 86400) = y := ⟨_, rfl⟩
    rw [year] at first
    have bounds := summer_bounds y
    have before : (summer offset).offsetAt (second - 1) = offset :=
      offsetAt_of_spring (y := y) (by omega) (by omega)
    have warm : (summer offset).offsetAt second = offset + 3600 :=
      offsetAt_of_summer (y := y) (by omega) (by omega)
    exact ⟨by omega, by omega⟩

/-! ### From instants to walls and back -/

theorem utcSecond_wallTime (zone : Zone) (t : Timestamp) :
    (zone.wallTime t).utcSecond = t.seconds + zone.offsetAt t.seconds := by
  rw [wallTime, WallTime.utcSecond_ofTimestamp]

/-- Two instants at which walls show the same. -/
theorem wallTime_eq_iff {u : Timestamp} : zone.wallTime u = zone.wallTime t ↔
    u.nanos = t.nanos ∧ u.seconds + zone.offsetAt u.seconds =
      t.seconds + zone.offsetAt t.seconds := by
  constructor
  · intro same
    refine ⟨congrArg WallTime.nanos same, ?_⟩
    rw [← utcSecond_wallTime, ← utcSecond_wallTime, same]
  · rintro ⟨nanos, seconds⟩
    rw [wallTime, wallTime, nanos, seconds]

theorem Unambiguous.second_eq (once : zone.Unambiguous t) {s : Int}
    (same : s + zone.offsetAt s = t.seconds + zone.offsetAt t.seconds) : s = t.seconds :=
  congrArg Timestamp.seconds (once ⟨s, t.nanos⟩ (wallTime_eq_iff.mpr ⟨rfl, same⟩))

theorem year_wallTime {y : Int} (begun : yearStart y * 86400 ≤ t.seconds + zone.offsetAt t.seconds)
    (ended : t.seconds + zone.offsetAt t.seconds < yearStart (y + 1) * 86400) :
    (zone.wallTime t).date.year = y :=
  yearOf_div_eq_iff.mpr ⟨begun, ended⟩

/-- Where there is a summer, the times of the last hour of summer are shown again in the hour after
it, and no others. -/
theorem unambiguous_summer_iff {offset y : Int} (year : yearOf ((t.seconds + offset) / 86400) = y) :
    (summer offset).Unambiguous t ↔
      t.seconds + offset < summerEnd y - 3600 ∨ summerEnd y + 3600 ≤ t.seconds + offset := by
  have bounds := summer_bounds y
  obtain ⟨begun, ended⟩ := yearOf_div_eq_iff.mp year
  constructor
  · intro once
    refine Decidable.byContradiction fun close => ?_
    by_cases warm : t.seconds + offset < summerEnd y
    · have ahead : (summer offset).offsetAt t.seconds = offset + 3600 :=
        offsetAt_of_summer (y := y) (by omega) warm
      have later : (summer offset).offsetAt (t.seconds + 3600) = offset :=
        offsetAt_of_autumn (y := y) (by omega) (by omega)
      have same : t.seconds + 3600 = t.seconds := once.second_eq (by omega)
      omega
    · have ahead : (summer offset).offsetAt t.seconds = offset :=
        offsetAt_of_autumn (y := y) (by omega) ended
      have earlier : (summer offset).offsetAt (t.seconds - 3600) = offset + 3600 :=
        offsetAt_of_summer (y := y) (by omega) (by omega)
      have same : t.seconds - 3600 = t.seconds := once.second_eq (by omega)
      omega
  · intro apart u same
    obtain ⟨nanos, seconds⟩ := wallTime_eq_iff.mp same
    refine Timestamp.eq_of_nanos_eq nanos ?_
    obtain ahead | ahead := offsetAt_summer_cases offset u.seconds <;>
      obtain ahead' | ahead' := offsetAt_summer_cases offset t.seconds
    · omega
    · -- An hour after `t`, which lies in summer, it is summer still.
      obtain ⟨y', warm, still⟩ := summer_of_offsetAt ahead'
      have bounds' := summer_bounds y'
      obtain rfl : y = y' := year.symm.trans (yearOf_div_eq_iff.mpr (by omega))
      have hot : (summer offset).offsetAt u.seconds = offset + 3600 :=
        offsetAt_of_summer (y := y) (by omega) (by omega)
      omega
    · -- An hour before `t` it is summer, so summer ends in between.
      obtain ⟨y', warm, still⟩ := summer_of_offsetAt ahead
      have bounds' := summer_bounds y'
      obtain rfl : y = y' := year.symm.trans (yearOf_div_eq_iff.mpr (by omega))
      have autumn : summerEnd y ≤ t.seconds + offset := by
        refine Int.not_lt.mp fun still' => ?_
        have hot : (summer offset).offsetAt t.seconds = offset + 3600 :=
          offsetAt_of_summer (y := y) (by omega) still'
        omega
      omega
    · omega

/-- The walls are as far ahead as the time that they show says, if they show it once. -/
theorem offset?_wallTime (once : zone.Unambiguous t) :
    zone.offset? (zone.wallTime t).date.year (zone.wallTime t).utcSecond =
      some (zone.offsetAt t.seconds) := by
  rw [utcSecond_wallTime]
  cases zone with
  | fixed offset => rfl
  | summer offset =>
    obtain ⟨y, year⟩ : ∃ y, yearOf ((t.seconds + offset) / 86400) = y := ⟨_, rfl⟩
    have bounds := summer_bounds y
    obtain ⟨begun, ended⟩ := yearOf_div_eq_iff.mp year
    have apart := (unambiguous_summer_iff year).mp once
    by_cases cold : t.seconds + offset < summerStart y
    · have ahead := offsetAt_of_spring begun cold
      rw [year_wallTime (y := y) (by omega) (by omega), ahead, offset?, if_pos (by omega)]
    · by_cases warm : t.seconds + offset < summerEnd y
      · have ahead := offsetAt_of_summer (Int.not_lt.mp cold) warm
        rw [year_wallTime (y := y) (by omega) (by omega), ahead, offset?,
          if_neg (by omega), if_neg (by omega), if_pos (by omega)]
      · have ahead := offsetAt_of_autumn (Int.not_lt.mp warm) ended
        rw [year_wallTime (y := y) (by omega) (by omega), ahead, offset?, if_neg (by omega),
          if_neg (by omega), if_neg (by omega)]

/-- **A time that is shown once** names its instant. -/
theorem timestamp?_wallTime (once : zone.Unambiguous t)
    (inside : Timestamp.inCalendar t.seconds = true) :
    zone.timestamp? (zone.wallTime t) = some t := by
  have back : (zone.wallTime t).timestampAt (zone.offsetAt t.seconds) = t := by
    rw [WallTime.timestampAt, utcSecond_wallTime, Int.add_sub_cancel]
    rfl
  rw [timestamp?, offset?_wallTime once, Option.map_some, back, Option.filter_some, if_pos inside]

/-- A wall shows the time that names an instant, unless the clocks go forward just then. -/
theorem wallTime_timestampAt (proper : w.Proper) {ahead : Int}
    (found : zone.offset? w.date.year w.utcSecond = some ahead) :
    zone.wallTime (w.timestampAt ahead) = w ∨ zone.JumpsAt w.utcSecond (w.utcSecond - ahead) := by
  have shows : ∀ {s : Int}, s + zone.offsetAt s = w.utcSecond → zone.wallTime ⟨s, w.nanos⟩ = w :=
      fun h => by
    rw [wallTime, h, proper.ofTimestamp_eq]
  cases zone with
  | fixed offset =>
    cases found
    exact .inl (shows (Int.sub_add_cancel _ _))
  | summer offset =>
    have bounds := summer_bounds w.date.year
    obtain ⟨begun, ended⟩ := yearOf_div_eq_iff.mp proper.yearOf_eq
    rw [offset?] at found
    split_ifs at found with before skipped hot <;> cases found
    · obtain cold | jump := Int.lt_or_eq_of_le before
      · have standard : (summer ahead).offsetAt (w.utcSecond - ahead) = ahead :=
          offsetAt_of_spring (y := w.date.year) (by omega) (by omega)
        exact .inl (shows (by omega))
      · exact .inr (jumpsAt_iff.mpr ⟨ahead, rfl,
          (Int.sub_add_cancel _ _).symm, by rw [proper.yearOf_eq, jump]⟩)
    · have warm : (summer offset).offsetAt (w.utcSecond - (offset + 3600)) = offset + 3600 :=
        offsetAt_of_summer (y := w.date.year) (by omega) (by omega)
      exact .inl (shows (by omega))
    · have standard : (summer ahead).offsetAt (w.utcSecond - ahead) = ahead :=
        offsetAt_of_autumn (y := w.date.year) (by omega) (by omega)
      exact .inl (shows (by omega))

/-- **A time that is skipped** names no instant, unless it lies in the second at which the clocks go
forward. -/
theorem timestamp?_of_skipped (proper : w.Proper) (skipped : zone.Skipped w)
    (later : ∀ second, ¬ zone.JumpsAt w.utcSecond second) : zone.timestamp? w = none := by
  rw [timestamp?]
  cases found : zone.offset? w.date.year w.utcSecond with
  | none => rfl
  | some ahead =>
    obtain shows | jumps := wallTime_timestampAt proper found
    · exact absurd shows (skipped _)
    · exact absurd jumps (later _)

/-- **The second at which the clocks go forward** counts as standard time: its times name what
follows the jump. -/
theorem timestamp?_of_jumpsAt (proper : w.Proper) {second : Int}
    (jumps : zone.JumpsAt w.utcSecond second) (inside : Timestamp.inCalendar second = true) :
    zone.timestamp? w = some ⟨second, w.nanos⟩ := by
  obtain ⟨offset, rfl, shown, first⟩ := jumpsAt_iff.mp jumps
  rw [proper.yearOf_eq] at first
  rw [timestamp?, offset?, if_pos (by omega), Option.map_some, WallTime.timestampAt,
    shown, Int.add_sub_cancel, Option.filter_some, if_pos inside]

/-- Where there is a summer, the times of the hour that is left out when it begins are skipped, and
no others. -/
theorem skipped_summer_iff {offset : Int} (proper : w.Proper) : (summer offset).Skipped w ↔
    summerStart w.date.year ≤ w.utcSecond ∧ w.utcSecond < summerStart w.date.year + 3600 := by
  have bounds := summer_bounds w.date.year
  constructor
  · intro skipped
    refine Decidable.byContradiction fun outside => ?_
    obtain ⟨ahead, found⟩ : ∃ ahead, (summer offset).offset? w.date.year w.utcSecond =
        some ahead := by
      rw [offset?]
      split_ifs
      · exact ⟨_, rfl⟩
      · omega
      · exact ⟨_, rfl⟩
      · exact ⟨_, rfl⟩
    obtain shown | jumps := wallTime_timestampAt proper found
    · exact skipped _ shown
    · obtain ⟨-, -, -, first⟩ := jumpsAt_iff.mp jumps
      rw [proper.yearOf_eq] at first
      omega
  · rintro ⟨begun, ended⟩ t shown
    have second := congrArg WallTime.utcSecond shown
    rw [utcSecond_wallTime] at second
    obtain ahead | ahead := offsetAt_summer_cases offset t.seconds
    · have hot : (summer offset).offsetAt t.seconds = offset + 3600 :=
        offsetAt_of_summer (y := w.date.year) (by omega) (by omega)
      omega
    · have cold : (summer offset).offsetAt t.seconds = offset :=
        offsetAt_of_spring (y := w.date.year) (by omega) (by omega)
      omega

/-! ### The zones of rules -/

theorem offsetAt_bounds {rule : String} (zoned : ofRule? rule = some zone) (second : Int) :
    -86400 ≤ zone.offsetAt second ∧ zone.offsetAt second ≤ 86400 := by
  unfold ofRule? at zoned
  split at zoned <;> cases zoned
  · rw [offsetAt]
    decide
  · rw [offsetAt]
    decide
  · obtain ahead | ahead := offsetAt_summer_cases (-18000) second <;> rw [ahead] <;> decide

/-- Walls show years of four digits at the instants of the years from 1970 to 9998, and a little
longer. -/
theorem year_wallTime_bounds {rule : String} (zoned : ofRule? rule = some zone) {t : Timestamp}
    (since : 1970 ≤ (WallTime.ofTimestamp t).date.year)
    (until_ : (WallTime.ofTimestamp t).date.year ≤ 9998) :
    0 ≤ (zone.wallTime t).date.year ∧ (zone.wallTime t).date.year ≤ 9999 ∧
      Timestamp.inCalendar t.seconds = true := by
  obtain ⟨behind, ahead⟩ := offsetAt_bounds zoned t.seconds
  have utc := yearOf_spec (t.seconds / 86400)
  have shown := yearOf_spec ((t.seconds + zone.offsetAt t.seconds) / 86400)
  have first := yearStart_mean (yearOf (t.seconds / 86400))
  have last := yearStart_mean (yearOf (t.seconds / 86400) + 1)
  have first' := yearStart_mean (yearOf ((t.seconds + zone.offsetAt t.seconds) / 86400))
  have last' := yearStart_mean (yearOf ((t.seconds + zone.offsetAt t.seconds) / 86400) + 1)
  rw [Timestamp.inCalendar, Timestamp.firstSecond, Timestamp.lastSecond, Bool.and_eq_true,
    decide_eq_true_eq, decide_eq_true_eq]
  change 1970 ≤ yearOf (t.seconds / 86400) at since
  change yearOf (t.seconds / 86400) ≤ 9998 at until_
  change 0 ≤ yearOf ((t.seconds + zone.offsetAt t.seconds) / 86400) ∧
    yearOf ((t.seconds + zone.offsetAt t.seconds) / 86400) ≤ 9999 ∧ _
  omega

end Zone

end TokenChain
