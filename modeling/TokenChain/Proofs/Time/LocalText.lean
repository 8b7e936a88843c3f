import TokenChain.Proofs.Text.Numeral
import TokenChain.Proofs.Time.Zone

/-! # Wall times as text

A wall time is written as `2030-01-31 12:34:56`, with six digits behind the second or, if there is
nothing to write there, without (`LocalText.Writes`). What is written so is read back
(`LocalText.read?_of_writes`). -/

namespace TokenChain

open TokenChain.Text TokenChain.Rfc3339

namespace LocalText

/-- Date and time of day down to the second. -/
def toSecond (w : WallTime) : List Char :=
  Digits.fixed 4 w.date.year.toNat ++ '-' :: Digits.fixed 2 w.date.month ++ '-' ::
    Digits.fixed 2 w.date.day ++ ' ' :: Digits.fixed 2 (w.second / 3600) ++ ':' ::
      Digits.fixed 2 (w.second / 60 % 60)
    ++ ':' :: Digits.fixed 2 (w.second % 60)

/-- **How a wall time is written**: with six digits behind the second, or, on the second, without
any. -/
inductive Writes (w : WallTime) : List Char → Prop where
  | micros {n : Nat} (fraction : w.nanos = 1000 * n) :
      Writes w (toSecond w ++ '.' :: Digits.fixed 6 n)
  | whole (exact_ : w.nanos = 0) : Writes w (toSecond w)

/-! ### Reading -/

theorem expect_self (c : Char) (cs : List Char) : expect c (c :: cs) = some cs := if_pos rfl

theorem fixed_ne_nil (w n : Nat) : Digits.fixed (w + 1) n ≠ [] :=
  List.ne_nil_of_length_eq_add_one (Digits.length_fixed _ _)

theorem isDigit_head?_fixed {w n : Nat} {rest : List Char} {c : Char}
    (head : c ∈ (Digits.fixed (w + 1) n ++ rest).head?) : Digits.isDigit c = true := by
  rw [List.head?_append_of_ne_nil _ (fixed_ne_nil w n)] at head
  exact Digits.isDigit_of_mem_fixed (List.mem_of_mem_head? head)

theorem trimStart_fixed (w n : Nat) (rest : List Char) :
    trimStart (Digits.fixed (w + 1) n ++ rest) = Digits.fixed (w + 1) n ++ rest :=
  trimStart_of_first fun _ head => Digits.not_isBlank_of_isDigit (isDigit_head?_fixed head)

theorem number?_fixed (w n : Nat) (rest : List Char) :
    number? (w + 1) (Digits.fixed (w + 1) n ++ rest) = some (n % 10 ^ (w + 1), rest) := by
  rw [number?, trimStart_fixed, Digits.run_fixed]
  dsimp only
  rw [Digits.number_fixed]
  simp only [List.isEmpty_iff, fixed_ne_nil, if_false]

theorem number?_blank_fixed (w n : Nat) (rest : List Char) :
    number? (w + 1) (' ' :: (Digits.fixed (w + 1) n ++ rest)) = some (n % 10 ^ (w + 1), rest) :=
  number?_fixed w n rest

theorem year?_fixed (n : Nat) (rest : List Char) :
    year? (Digits.fixed 4 n ++ rest) = some (((n % 10 ^ 4 : Nat) : Int), rest) := by
  have digit :
      ∀ {c : Char} {cs : List Char}, Digits.fixed 4 n ++ rest = c :: cs → Digits.isDigit c = true :=
      fun same =>
    isDigit_head?_fixed (by rw [same]; rfl)
  rw [year?, trimStart_fixed]
  split
  · rename_i same
    cases digit same
  · rename_i same
    cases digit same
  · rw [number?_fixed, Option.map_some]

theorem fraction?_fixed {n : Nat} (fits : n < 10 ^ 6) :
    fraction? ('.' :: Digits.fixed 6 n) = some (1000 * n, []) := by
  have short : (Digits.fixed 6 n).length ≤ 9 := by
    rw [Digits.length_fixed]
    decide
  rw [fraction?, nanosOf, Digits.run_of_digits (fun _ => Digits.isDigit_of_mem_fixed) short]
  dsimp only
  rw [Digits.number_fixed, Digits.length_fixed, Nat.mod_eq_of_lt fits, Nat.mul_comm]
  simp only [List.isEmpty_iff, fixed_ne_nil, if_false]
  rfl

theorem ofFields?_eq {w : WallTime} (proper : w.Proper) (short : w.nanos < 1000000000)
    (inside : Timestamp.inCalendar (w.date.number * 86400) = true) :
    WallTime.ofFields? w.date (w.second / 3600) (w.second / 60 % 60) (w.second % 60) w.nanos =
      some w := by
  have early := proper.second_lt
  have whole : w.second / 3600 * 3600 + w.second / 60 % 60 * 60 + w.second % 60 = w.second := by
    omega
  have hour : w.second / 3600 < 24 := by omega
  have minute : w.second / 60 % 60 < 60 := Nat.mod_lt _ (by decide)
  have second : w.second % 60 < 60 := Nat.mod_lt _ (by decide)
  rw [WallTime.ofFields?, if_pos, if_neg second.ne, whole]
  simp only [proper.valid, inside, Bool.true_and, Bool.and_true,
    Bool.and_eq_true, decide_eq_true_eq]
  exact ⟨⟨⟨hour, minute⟩, second.le⟩, short⟩

/-- Fields that are accepted make a date of the calendar and a time of the day. -/
theorem proper_of_ofFields? {date : Date} {hour minute second nanos : Nat} {w : WallTime}
    (fields : WallTime.ofFields? date hour minute second nanos = some w) : w.Proper := by
  rw [WallTime.ofFields?] at fields
  split_ifs at fields with accepted leap <;>
    simp only [Bool.and_eq_true, decide_eq_true_eq] at accepted <;> cases fields
  · exact ⟨accepted.1.1.1.1.1, by dsimp only; omega⟩
  · exact ⟨accepted.1.1.1.1.1, by dsimp only; omega⟩

theorem read?_toSecond {w : WallTime} (proper : w.Proper) (since : 0 ≤ w.date.year)
    (until_ : w.date.year ≤ 9999) (short : w.nanos < 1000000000) {rest : List Char}
    (fraction : fraction? rest = some (w.nanos, [])) : read? (toSecond w ++ rest) = some w := by
  obtain ⟨first, last, one, most⟩ := Date.isValid_iff.mp proper.valid
  have early := proper.second_lt
  have year : ((w.date.year.toNat % 10 ^ 4 : Nat) : Int) = w.date.year := by omega
  have month : w.date.month % 10 ^ 2 = w.date.month := by omega
  have day : w.date.day % 10 ^ 2 = w.date.day := by
    have days := Date.monthLength_le (Date.isLeap w.date.year) first last
    omega
  have hour : w.second / 3600 % 10 ^ 2 = w.second / 3600 := by omega
  have minute : w.second / 60 % 60 % 10 ^ 2 = w.second / 60 % 60 := by omega
  have second : w.second % 60 % 10 ^ 2 = w.second % 60 := by omega
  have fields := ofFields?_eq proper short (Date.inCalendar_of_year proper.valid since until_)
  simp only [read?, toSecond, List.append_assoc, List.cons_append, year?_fixed, number?_fixed,
    number?_blank_fixed, expect_self, Option.bind_eq_bind, Option.bind_some, fraction, year, month,
    day, hour, minute, second, List.isEmpty_nil, if_true]
  exact fields

theorem isDigit_getLast?_fixed {w n : Nat} {front : List Char} {c d : Char}
    (last : c ∈ (front ++ d :: Digits.fixed (w + 1) n).getLast?) : Digits.isDigit c = true := by
  rw [Digits.fixed, ← List.cons_append, ← List.append_assoc, List.getLast?_concat,
    Option.mem_some_iff] at last
  cases last
  exact Digits.isDigit_digit n

theorem Writes.bare {w : WallTime} {cs : List Char} (writes : Writes w cs) : Bare cs := by
  have begins : ∃ rest, cs = Digits.fixed 4 w.date.year.toNat ++ rest := by
    cases writes with
    | micros => exact ⟨_, by rw [toSecond]; simp only [List.append_assoc]; rfl⟩
    | whole => exact ⟨_, by rw [toSecond]; simp only [List.append_assoc]; rfl⟩
  obtain ⟨rest, same⟩ := begins
  refine ⟨fun c head => Digits.not_isBlank_of_isDigit ?_,
    fun c last => Digits.not_isBlank_of_isDigit ?_⟩
  · rw [same] at head
    exact isDigit_head?_fixed head
  · cases writes with
    | micros => exact isDigit_getLast?_fixed last
    | whole => exact isDigit_getLast?_fixed last

/-- **What is written is read back.** -/
theorem read?_of_writes {w : WallTime} {cs : List Char} (writes : Writes w cs) (proper : w.Proper)
    (since : 0 ≤ w.date.year) (until_ : w.date.year ≤ 9999) (short : w.nanos < 1000000000) :
    read? cs = some w := by
  cases writes with
  | @micros n fraction =>
    refine read?_toSecond proper since until_ short ?_
    rw [fraction]
    exact fraction?_fixed (by omega)
  | whole exact_ =>
    rw [← List.append_nil (toSecond w)]
    refine read?_toSecond proper since until_ short ?_
    rw [exact_]
    rfl

/-- **The wall time that a text names**; white space around it does not matter. -/
def Names (text : String) (w : WallTime) : Prop := read? (trimChars text.toList) = some w

theorem names_of_writes {w : WallTime} {cs : List Char} {text : String} (writes : Writes w cs)
    (padded : Padded cs text.toList) (proper : w.Proper) (since : 0 ≤ w.date.year)
    (until_ : w.date.year ≤ 9999) (short : w.nanos < 1000000000) : Names text w := by
  rw [Names, padded.trimChars_eq (writes.bare)]
  exact read?_of_writes writes proper since until_ short

theorem Names.proper {text : String} {w : WallTime} (names : Names text w) : w.Proper := by
  rw [Names] at names
  simp only [read?, Option.bind_eq_bind, Option.bind_eq_some_iff] at names
  obtain ⟨_, -, _, -, _, -, _, -, _, -, _, -, _, -, _, -, _, -, _, -, _, -, fields⟩ := names
  split at fields
  · exact proper_of_ofFields? fields
  · cases fields

end LocalText

end TokenChain
