import Mathlib.Tactic.SplitIfs
import TokenChain.Time.Civil

/-! # Days and dates

Every day has a date that the calendar knows (`Date.isValid_ofNumber`), the date has the number of
the day (`Date.number_ofNumber`), and a date that the calendar knows is the one of its number
(`Date.ofNumber_number`).

The year of a day is estimated from the mean length of a year. The beginnings of the years differ
from their mean by less than two days (`Date.yearStart_mean`), so the estimate is off by one year at
most, which is what is corrected (`Date.yearOf_spec`). -/

namespace TokenChain.Date

/-! ### Years -/

/-- The days of a year. -/
def yearLength (leap : Bool) : Nat := if leap then 366 else 365

theorem yearStart_succ (y : Int) : yearStart (y + 1) = yearStart y + yearLength (isLeap y) := by
  have leap : isLeap y = true ↔ y % 4 = 0 ∧ (y % 100 ≠ 0 ∨ y % 400 = 0) := by simp [isLeap]
  unfold yearStart yearLength
  split_ifs with h <;> rw [leap] at h <;> omega

/-- Four hundred years have 146097 days, and no year begins two days before or behind the mean. -/
theorem yearStart_mean (y : Int) :
    146097 * (y - 1970) - 800 < 400 * yearStart y ∧
      400 * yearStart y < 146097 * (y - 1970) + 800 := by
  unfold yearStart
  omega

theorem yearStart_lt {a b : Int} (h : a < b) : yearStart a < yearStart b := by
  have early := yearStart_mean a
  have late := yearStart_mean b
  omega

theorem lt_of_yearStart_lt {a b : Int} (h : yearStart a < yearStart b) : a < b := by
  refine Int.not_le.mp fun le => ?_
  obtain less | same := Int.lt_or_eq_of_le le
  · have order := yearStart_lt less
    omega
  · rw [same] at h
    omega

/-- **The year of a day** has begun and is not over. -/
theorem yearOf_spec (n : Int) : yearStart (yearOf n) ≤ n ∧ n < yearStart (yearOf n + 1) := by
  have before := yearStart_mean (1970 + 400 * n / 146097 - 1)
  have behind := yearStart_mean (1970 + 400 * n / 146097 + 1 + 1)
  dsimp only [yearOf]
  split_ifs with early late
  · rw [Int.sub_add_cancel]
    omega
  · omega
  · omega

theorem yearOf_eq_iff {n y : Int} : yearOf n = y ↔ yearStart y ≤ n ∧ n < yearStart (y + 1) := by
  have spec := yearOf_spec n
  constructor
  · rintro rfl
    exact spec
  · rintro ⟨begun, ended⟩
    have low : yearOf n < y + 1 := lt_of_yearStart_lt (by omega)
    have high : y < yearOf n + 1 := lt_of_yearStart_lt (by omega)
    omega

/-! ### Months -/

theorem monthOf_spec (leap : Bool) {d : Nat} (h : d < yearLength leap) :
    1 ≤ monthOf leap d ∧ monthOf leap d ≤ 12 ∧ monthStart leap (monthOf leap d) ≤ d ∧
      d < monthStart leap (monthOf leap d) + monthLength leap (monthOf leap d) := by
  have all : ∀ leap : Bool, ∀ d < yearLength leap, 1 ≤ monthOf leap d ∧ monthOf leap d ≤ 12 ∧
      monthStart leap (monthOf leap d) ≤ d ∧
      d < monthStart leap (monthOf leap d) + monthLength leap (monthOf leap d) := by
    decide +kernel
  exact all leap d h

theorem monthOf_eq (leap : Bool) {month k : Nat} (first : 1 ≤ month) (last : month ≤ 12)
    (h : k < monthLength leap month) :
    monthOf leap (monthStart leap month + k) = month ∧
      monthStart leap month + k < yearLength leap := by
  have all : ∀ leap : Bool, ∀ month < 13, 1 ≤ month → ∀ k < monthLength leap month,
      monthOf leap (monthStart leap month + k) = month ∧
      monthStart leap month + k < yearLength leap := by
    decide +kernel
  exact all leap month (by omega) first k h

theorem monthLength_le (leap : Bool) {month : Nat} (first : 1 ≤ month) (last : month ≤ 12) :
    monthLength leap month ≤ 31 := by
  have all : ∀ leap : Bool, ∀ month < 13, 1 ≤ month → monthLength leap month ≤ 31 := by decide
  exact all leap month (by omega) first

/-! ### Dates -/

theorem isValid_iff {d : Date} : d.isValid = true ↔
    1 ≤ d.month ∧ d.month ≤ 12 ∧ 1 ≤ d.day ∧ d.day ≤ monthLength (isLeap d.year) d.month := by
  simp [isValid, and_assoc]

theorem dayOfYear_lt (n : Int) :
    (n - yearStart (yearOf n)).toNat < yearLength (isLeap (yearOf n)) := by
  have spec := yearOf_spec n
  rw [yearStart_succ] at spec
  omega

theorem isValid_ofNumber (n : Int) : (ofNumber n).isValid = true := by
  obtain ⟨first, last, begun, ended⟩ := monthOf_spec _ (dayOfYear_lt n)
  rw [isValid_iff, ofNumber]
  refine ⟨first, last, ?_, ?_⟩
  · exact Nat.le_add_left 1 _
  · dsimp only
    omega

theorem number_ofNumber (n : Int) : (ofNumber n).number = n := by
  obtain ⟨-, -, begun, -⟩ := monthOf_spec _ (dayOfYear_lt n)
  have spec := yearOf_spec n
  rw [number, ofNumber]
  dsimp only
  omega

theorem yearOf_number {d : Date} (valid : d.isValid = true) : yearOf d.number = d.year := by
  obtain ⟨first, last, one, most⟩ := isValid_iff.mp valid
  obtain ⟨-, inside⟩ := monthOf_eq (isLeap d.year) (k := d.day - 1) first last (by omega)
  rw [yearOf_eq_iff, yearStart_succ, number]
  omega

theorem ofNumber_number {d : Date} (valid : d.isValid = true) : ofNumber d.number = d := by
  obtain ⟨first, last, one, most⟩ := isValid_iff.mp valid
  obtain ⟨month, -⟩ := monthOf_eq (isLeap d.year) (k := d.day - 1) first last (by omega)
  have day : (d.number - yearStart d.year).toNat =
      monthStart (isLeap d.year) d.month + (d.day - 1) := by
    rw [number]
    omega
  rw [ofNumber, yearOf_number valid, day, month, Nat.add_sub_cancel_left, Nat.sub_add_cancel one]

theorem inCalendar_of_year {d : Date} (valid : d.isValid = true) (since : 0 ≤ d.year)
    (until_ : d.year ≤ 9999) : Timestamp.inCalendar (d.number * 86400) = true := by
  have spec := yearOf_spec d.number
  rw [yearOf_number valid] at spec
  have early := yearStart_mean d.year
  have late := yearStart_mean (d.year + 1)
  rw [Timestamp.inCalendar, Timestamp.firstSecond, Timestamp.lastSecond, Bool.and_eq_true,
    decide_eq_true_eq, decide_eq_true_eq]
  omega

end TokenChain.Date
