import Mathlib.Algebra.Group.Int.Defs
import Mathlib.Algebra.Group.Nat.Defs
import Mathlib.Data.List.DropRight
import Mathlib.Data.List.Induction
import TokenChain.Text.Blank
import TokenChain.Text.Integer

/-! # Numerals and the white space around them

Trimming takes away the white space around a text, all of it and nothing else
(`Padded.trimChars_eq`, `padded_trimChars`).

A number has one decimal text with the fewest digits, and others with zeros in front of it
(`Numeral`). A run of digits is a numeral of what it is read as, and of nothing else
(`Integer.magnitude?_eq_some_iff`). Signs come in front (`SignedNumeral`): what is read as an
integer of 64 bits is a signed numeral of it, and every such numeral is read
(`Integer.signed?_eq_some_iff`). Without a sign for less than zero these are the texts of unsigned
numbers (`UnsignedNumeral`, `Integer.unsigned?_eq_some_iff`). -/

namespace TokenChain.Text

/-! ### White space -/

/-- **A text with white space around it.** -/
def Padded (core cs : List Char) : Prop :=
  ∃ before after, cs = before ++ core ++ after ∧ (∀ c ∈ before, isBlank c = true) ∧
    ∀ c ∈ after, isBlank c = true

/-- A text that neither begins nor ends with white space. -/
structure Bare (core : List Char) : Prop where
  first : ∀ c ∈ core.head?, isBlank c = false
  last : ∀ c ∈ core.getLast?, isBlank c = false

theorem Bare.of_forall {core : List Char} (h : ∀ c ∈ core, isBlank c = false) : Bare core :=
  ⟨fun c first => h c (List.mem_of_mem_head? first),
    fun c last => h c (List.mem_of_mem_getLast? last)⟩

theorem trimChars_eq (cs : List Char) : trimChars cs = (cs.dropWhile isBlank).rdropWhile isBlank :=
  rfl

theorem padded_trimChars (cs : List Char) : Padded (trimChars cs) cs := by
  refine ⟨cs.takeWhile isBlank, (cs.dropWhile isBlank).rtakeWhile isBlank, ?_, ?_, ?_⟩
  · rw [List.append_assoc, trimChars_eq, List.rdropWhile_append_rtakeWhile,
      List.takeWhile_append_dropWhile]
  · exact fun _ => List.mem_takeWhile_imp
  · exact fun _ => List.mem_rtakeWhile_imp

theorem trimStart_of_first {cs : List Char} (first : ∀ c ∈ cs.head?, isBlank c = false) :
    trimStart cs = cs := by
  cases cs with
  | nil => rfl
  | cons c cs => exact List.dropWhile_cons_of_neg (by simp [first c rfl])

theorem Padded.trimChars_eq {core cs : List Char} (padded : Padded core cs) (bare : Bare core) :
    trimChars cs = core := by
  obtain ⟨before, after, rfl, front, back⟩ := padded
  have left : trimStart (before ++ core ++ after) = trimStart (core ++ after) := by
    rw [trimStart, List.append_assoc, List.dropWhile_append_of_pos front]
    rfl
  rw [trimChars, left]
  obtain rfl | filled := core.eq_nil_or_concat
  · have none : trimStart after = [] := List.dropWhile_eq_nil_iff.mpr back
    rw [List.nil_append, none]
    rfl
  · have first : ∀ c ∈ (core ++ after).head?, isBlank c = false := by
      obtain ⟨cs, c, rfl⟩ := filled
      intro d head
      refine bare.first d ?_
      rwa [List.head?_append_of_ne_nil _ (by simp)] at head
    have last : ∀ c ∈ core.reverse.head?, isBlank c = false := by
      rw [List.head?_reverse]
      exact bare.last
    rw [trimStart_of_first first, List.reverse_append, trimStart,
      List.dropWhile_append_of_pos (fun c h => back c (List.mem_reverse.mp h))]
    have kept := trimStart_of_first last
    rw [trimStart] at kept
    rw [kept, List.reverse_reverse]

/-! ### Digits -/

namespace Digits

theorem isDigit_iff {c : Char} : isDigit c = true ↔ 48 ≤ c.toNat ∧ c.toNat ≤ 57 := by
  rw [isDigit, Bool.and_eq_true, decide_eq_true_eq, decide_eq_true_eq, Char.le_def, Char.le_def,
    UInt32.le_iff_toNat_le, UInt32.le_iff_toNat_le]
  rfl

theorem isDigit_eq (c : Char) : isDigit c = c.isDigit := by
  rw [Bool.eq_iff_iff, isDigit_iff, Char.isDigit, Bool.and_eq_true,
    decide_eq_true_eq, decide_eq_true_eq, ge_iff_le, UInt32.le_iff_toNat_le, UInt32.le_iff_toNat_le]
  rfl

theorem not_isBlank_of_isDigit {c : Char} (digit : isDigit c = true) : isBlank c = false := by
  rw [isDigit_iff] at digit
  simp only [isBlank, Bool.or_eq_false_iff, Bool.and_eq_false_iff, decide_eq_false_iff_not,
    beq_eq_false_iff_ne]
  omega

theorem toNat_digit (n : Nat) : (digit n).toNat = 48 + n % 10 := by
  have all : ∀ k < 10, (Char.ofNat (48 + k)).toNat = 48 + k := by decide
  exact all (n % 10) (Nat.mod_lt n (by decide))

theorem isDigit_digit (n : Nat) : isDigit (digit n) = true := by
  rw [isDigit_iff, toNat_digit]
  omega

theorem isDigit_of_mem_fixed {w n : Nat} {c : Char} (h : c ∈ fixed w n) : isDigit c = true := by
  induction w generalizing n with
  | zero => cases h
  | succ w ih =>
    rw [fixed, List.mem_append, List.mem_singleton] at h
    obtain earlier | rfl := h
    · exact ih earlier
    · exact isDigit_digit n

theorem number_append_singleton (ds : List Char) (c : Char) :
    number (ds ++ [c]) = 10 * number ds + valueOf c := by
  rw [number, List.foldl_append]
  rfl

theorem number_fixed (w n : Nat) : number (fixed w n) = n % 10 ^ w := by
  induction w generalizing n with
  | zero => simp [fixed, number, Nat.mod_one]
  | succ w ih =>
    have last : valueOf (digit n) = n % 10 := by
      rw [valueOf, toNat_digit, Nat.add_sub_cancel_left]
    rw [fixed, number_append_singleton, ih, last, Nat.pow_succ', Nat.mod_mul]
    omega

theorem run_append_of_digits {ds : List Char} (digits : ∀ c ∈ ds, isDigit c = true)
    (rest : List Char) : run ds.length (ds ++ rest) = (ds, rest) := by
  induction ds with
  | nil => rfl
  | cons d ds ih =>
    rw [List.length_cons, List.cons_append, run, if_pos (digits d List.mem_cons_self),
      ih fun c h => digits c (List.mem_cons_of_mem d h)]

theorem run_of_digits {ds : List Char} (digits : ∀ c ∈ ds, isDigit c = true) {max : Nat}
    (short : ds.length ≤ max) : run max ds = (ds, []) := by
  induction max generalizing ds with
  | zero =>
    rw [List.eq_nil_of_length_eq_zero (Nat.le_zero.mp short)]
    rfl
  | succ max ih =>
    cases ds with
    | nil => rfl
    | cons d ds =>
      rw [run, if_pos (digits d List.mem_cons_self),
        ih (fun c h => digits c (List.mem_cons_of_mem d h)) (Nat.le_of_succ_le_succ short)]

theorem run_fixed (w n : Nat) (rest : List Char) :
    run w (fixed w n ++ rest) = (fixed w n, rest) := by
  have run := run_append_of_digits (fun _ => isDigit_of_mem_fixed (w := w) (n := n)) rest
  rwa [length_fixed] at run

theorem number_eq (ds : List Char) : number ds = Nat.ofDigitChars 10 ds 0 :=
  Nat.ofDigitChars_eq_foldl.symm

end Digits

/-! ### Numerals -/

/-- **The decimal texts of a number**: the one with the fewest digits, and those with zeros in front
of it. -/
def Numeral (n : Nat) (cs : List Char) : Prop :=
  ∃ zeros, cs = List.replicate zeros '0' ++ Nat.toDigits 10 n

theorem Numeral.isDigit {n : Nat} {cs : List Char} (numeral : Numeral n cs) {c : Char}
    (h : c ∈ cs) : Digits.isDigit c = true := by
  obtain ⟨zeros, rfl⟩ := numeral
  obtain zero | digit := List.mem_append.mp h
  · rw [List.eq_of_mem_replicate zero]
    rfl
  · rw [Digits.isDigit_eq]
    exact Nat.isDigit_of_mem_toDigits (by decide) (by decide) digit

theorem Numeral.head?_ne {n : Nat} {cs : List Char} (numeral : Numeral n cs) {sign : Char}
    (h : Digits.isDigit sign = false) : cs.head? ≠ some sign := by
  intro head
  have digit := numeral.isDigit (List.mem_of_mem_head? head)
  rw [h] at digit
  cases digit

theorem Numeral.ne_nil {n : Nat} {cs : List Char} (numeral : Numeral n cs) : cs ≠ [] := by
  obtain ⟨zeros, rfl⟩ := numeral
  exact List.append_ne_nil_of_right_ne_nil _ Nat.toDigits_ne_nil

theorem Numeral.number_eq {n : Nat} {cs : List Char} (numeral : Numeral n cs) :
    Digits.number cs = n := by
  obtain ⟨zeros, rfl⟩ := numeral
  rw [Digits.number_eq, Nat.ofDigitChars_append, Nat.ofDigitChars_replicate_zero, Nat.mul_zero,
    Nat.ofDigitChars_ten_toDigits]

theorem toDigits_valueOf {c : Char} (digit : Digits.isDigit c = true) :
    Nat.toDigits 10 (Digits.valueOf c) = [c] := by
  rw [Digits.isDigit_iff] at digit
  have small : Digits.valueOf c < 10 := by
    rw [Digits.valueOf]
    omega
  have all : ∀ k < 10, Nat.digitChar k = Char.ofNat (48 + k) := by decide
  rw [Nat.toDigits_of_lt_base small, all _ small, Digits.valueOf,
    Nat.add_sub_cancel' digit.1, Char.ofNat_toNat]

theorem Numeral.concat {n : Nat} {cs : List Char} (numeral : Numeral n cs) {c : Char}
    (digit : Digits.isDigit c = true) : Numeral (10 * n + Digits.valueOf c) (cs ++ [c]) := by
  obtain ⟨zeros, rfl⟩ := numeral
  obtain rfl | positive := n.eq_zero_or_pos
  · refine ⟨zeros + 1, ?_⟩
    rw [Nat.mul_zero, Nat.zero_add, toDigits_valueOf digit, List.replicate_succ', Nat.toDigits_zero]
  · refine ⟨zeros, ?_⟩
    have small : Digits.valueOf c < 10 := by
      rw [Digits.isDigit_iff] at digit
      rw [Digits.valueOf]
      omega
    rw [← Nat.toDigits_append_toDigits (by decide) positive small,
      toDigits_valueOf digit, List.append_assoc]

theorem numeral_number {ds : List Char} (filled : ds ≠ [])
    (digits : ∀ c ∈ ds, Digits.isDigit c = true) : Numeral (Digits.number ds) ds := by
  induction ds using List.reverseRecOn with
  | nil => exact absurd rfl filled
  | append_singleton ds c ih =>
    have digit := digits c (by simp)
    rw [Digits.number_append_singleton]
    by_cases first : ds = []
    · subst first
      refine ⟨0, ?_⟩
      rw [show Digits.number [] = 0 from rfl, Nat.mul_zero, Nat.zero_add, toDigits_valueOf digit]
      rfl
    · exact (ih first fun d h => digits d (List.mem_append_left _ h)).concat digit

/-- **The decimal texts of an integer**: numerals, with a sign in front of them, or without one. -/
inductive SignedNumeral : Int → List Char → Prop where
  | plain {n : Nat} {cs : List Char} : Numeral n cs → SignedNumeral n cs
  | plus {n : Nat} {cs : List Char} : Numeral n cs → SignedNumeral n ('+' :: cs)
  | minus {n : Nat} {cs : List Char} : Numeral n cs → SignedNumeral (-n) ('-' :: cs)

theorem SignedNumeral.bare {n : Int} {cs : List Char} (numeral : SignedNumeral n cs) : Bare cs := by
  have solid : ∀ {n cs}, Numeral n cs → ∀ c ∈ cs, isBlank c = false := fun numeral _ h =>
    Digits.not_isBlank_of_isDigit (numeral.isDigit h)
  refine Bare.of_forall fun c h => ?_
  cases numeral with
  | plain numeral => exact solid numeral c h
  | plus numeral =>
    obtain rfl | digit := List.mem_cons.mp h
    · decide
    · exact solid numeral c digit
  | minus numeral =>
    obtain rfl | digit := List.mem_cons.mp h
    · decide
    · exact solid numeral c digit

/-- **The decimal texts of an unsigned number**: numerals, with a plus sign in front of them, or
without one. -/
inductive UnsignedNumeral (n : Nat) : List Char → Prop where
  | plain {cs : List Char} : Numeral n cs → UnsignedNumeral n cs
  | plus {cs : List Char} : Numeral n cs → UnsignedNumeral n ('+' :: cs)

theorem UnsignedNumeral.signed {n : Nat} {cs : List Char} (numeral : UnsignedNumeral n cs) :
    SignedNumeral n cs := by
  cases numeral with
  | plain numeral => exact .plain numeral
  | plus numeral => exact .plus numeral

theorem UnsignedNumeral.ne_nil {n : Nat} {cs : List Char} (numeral : UnsignedNumeral n cs) :
    cs ≠ [] := by
  cases numeral with
  | plain numeral => exact numeral.ne_nil
  | plus => exact List.cons_ne_nil _ _

theorem UnsignedNumeral.plus_iff {n : Nat} {cs : List Char} :
    UnsignedNumeral n ('+' :: cs) ↔ Numeral n cs := by
  refine ⟨fun numeral => ?_, .plus⟩
  cases numeral with
  | plain numeral => exact absurd rfl (numeral.head?_ne rfl)
  | plus numeral => exact numeral

theorem UnsignedNumeral.plain_iff {n : Nat} {cs : List Char} (plain : cs.head? ≠ some '+') :
    UnsignedNumeral n cs ↔ Numeral n cs := by
  refine ⟨fun numeral => ?_, .plain⟩
  cases numeral with
  | plain numeral => exact numeral
  | plus numeral => exact absurd rfl plain

namespace Integer

theorem magnitude?_eq_some_iff {n : Nat} {cs : List Char} :
    magnitude? cs = some n ↔ Numeral n cs := by
  rw [magnitude?, Option.ite_none_right_eq_some, Bool.and_eq_true, Bool.not_eq_true',
    List.isEmpty_eq_false_iff, List.all_eq_true, Option.some.injEq]
  constructor
  · rintro ⟨⟨filled, digits⟩, rfl⟩
    exact numeral_number filled digits
  · intro numeral
    exact ⟨⟨numeral.ne_nil, fun c h => numeral.isDigit h⟩, numeral.number_eq⟩

/-- **What is read as an unsigned number** of so many bits is an unsigned numeral of one. -/
theorem unsigned?_eq_some_iff {bits n : Nat} {cs : List Char} :
    unsigned? bits (String.ofList cs) = some n ↔ UnsignedNumeral n cs ∧ n < 2 ^ bits := by
  rw [unsigned?, String.toList_ofList, Option.filter_eq_some_iff, decide_eq_true_eq,
    magnitude?_eq_some_iff]
  split
  · rw [UnsignedNumeral.plus_iff]
    rfl
  · rename_i plain
    rw [UnsignedNumeral.plain_iff fun first => ?_]
    · rfl
    · obtain ⟨ds, rfl⟩ := List.head?_eq_some_iff.mp first
      exact plain ds rfl

theorem signed?_minus {n : Int} {cs : List Char} :
    signed? (String.ofList ('-' :: cs)) = some n ↔
      ∃ k, (Numeral k cs ∧ k ≤ 2 ^ 63) ∧ -(k : Int) = n := by
  simp [signed?, Option.bind_eq_some_iff, magnitude?_eq_some_iff]

theorem signed?_plus {n : Int} {cs : List Char} :
    signed? (String.ofList ('+' :: cs)) = some n ↔
      ∃ k, (Numeral k cs ∧ k < 2 ^ 63) ∧ (k : Int) = n := by
  simp [signed?, Option.bind_eq_some_iff, magnitude?_eq_some_iff]

theorem signed?_unsigned {n : Int} {cs : List Char} (minus : cs.head? ≠ some '-')
    (plus : cs.head? ≠ some '+') :
    signed? (String.ofList cs) = some n ↔ ∃ k, (Numeral k cs ∧ k < 2 ^ 63) ∧ (k : Int) = n := by
  rw [signed?, String.toList_ofList]
  split
  · exact absurd rfl minus
  · exact absurd rfl plus
  · simp [Option.bind_eq_some_iff, magnitude?_eq_some_iff]

/-- **What is read as an integer** of 64 bits is a signed numeral of one. -/
theorem signed?_eq_some_iff {n : Int} {cs : List Char} :
    signed? (String.ofList cs) = some n ↔ SignedNumeral n cs ∧ -2 ^ 63 ≤ n ∧ n < 2 ^ 63 := by
  constructor
  · intro read
    by_cases minus : cs.head? = some '-'
    · obtain ⟨ds, rfl⟩ := List.head?_eq_some_iff.mp minus
      obtain ⟨k, ⟨numeral, small⟩, rfl⟩ := signed?_minus.mp read
      exact ⟨.minus numeral, by omega, by omega⟩
    · by_cases plus : cs.head? = some '+'
      · obtain ⟨ds, rfl⟩ := List.head?_eq_some_iff.mp plus
        obtain ⟨k, ⟨numeral, small⟩, rfl⟩ := signed?_plus.mp read
        exact ⟨.plus numeral, by omega, by omega⟩
      · obtain ⟨k, ⟨numeral, small⟩, rfl⟩ := (signed?_unsigned minus plus).mp read
        exact ⟨.plain numeral, by omega, by omega⟩
  · rintro ⟨numeral, low, high⟩
    cases numeral with
    | @plain k _ numeral =>
      exact (signed?_unsigned (numeral.head?_ne rfl) (numeral.head?_ne rfl)).mpr ⟨k,
        ⟨numeral, by omega⟩, rfl⟩
    | @plus k _ numeral => exact signed?_plus.mpr ⟨k, ⟨numeral, by omega⟩, rfl⟩
    | @minus k _ numeral => exact signed?_minus.mpr ⟨k, ⟨numeral, by omega⟩, rfl⟩

end Integer

end TokenChain.Text
