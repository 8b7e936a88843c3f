import TokenChain.Json.Value

/-! # Values as they are written

A value is written on one line, whatever line feeds its strings and names hold
(`Value.oneLine_write`), and never as the empty text (`Value.write_ne_empty`). Line feeds are
escaped like all control characters, and the decimals of a number hold none. -/

namespace TokenChain

/-- A text without line feeds. -/
def Text.OneLine (s : String) : Prop := '\n' ∉ s.toList

namespace Text

instance (s : String) : Decidable (OneLine s) := inferInstanceAs (Decidable ('\n' ∉ s.toList))

theorem oneLine_append {s t : String} : OneLine (s ++ t) ↔ OneLine s ∧ OneLine t := by
  simp only [OneLine, String.toList_append, List.mem_append, not_or]

theorem oneLine_ofList {cs : List Char} : OneLine (String.ofList cs) ↔ '\n' ∉ cs := by
  rw [OneLine, String.toList_ofList]

theorem oneLine_repr (n : Nat) : OneLine n.repr := by
  intro h
  rw [Nat.toList_repr] at h
  exact absurd (Nat.isDigit_of_mem_toDigits (by decide) (by decide) h) (by decide)

theorem oneLine_toString (n : Int) : OneLine (toString n) := by
  rw [Int.toString_eq_repr, Int.repr_eq_if]
  split
  · exact oneLine_repr _
  · exact oneLine_append.mpr ⟨by decide, oneLine_repr _⟩

end Text

namespace Json

open Text

/-! ### Numbers -/

namespace Number

theorem newline_notMem_powerText (exponent : Int) : '\n' ∉ powerText exponent := by
  have decimal : '\n' ∉ (toString exponent).toList := oneLine_toString exponent
  rw [powerText]
  split
  · exact List.not_mem_cons_of_ne_of_not_mem (by decide) decimal
  · exact List.not_mem_cons_of_ne_of_not_mem (by decide)
      (List.not_mem_cons_of_ne_of_not_mem (by decide) decimal)

theorem oneLine_doubleText (x : Float) : OneLine (doubleText x) := by
  rw [doubleText]
  have sign : OneLine (if x.toBits ≥ 0x8000000000000000 then "-" else "") := by split <;> decide
  split
  · exact oneLine_append.mpr ⟨sign, by decide⟩
  · refine oneLine_append.mpr ⟨sign, oneLine_ofList.mpr ?_⟩
    generalize Decimal.shortest (x.toBits &&& 0x7FFFFFFFFFFFFFFF) = d
    have digits : '\n' ∉ (toString d.digits).toList := oneLine_repr _
    revert digits
    generalize (toString d.digits).toList = ds
    intro digits
    dsimp only
    split
    · simp [digits]
    split
    · have front : '\n' ∉ ds.take (↑ds.length + d.exponent).toNat :=
        fun h => digits (List.mem_of_mem_take h)
      have back : '\n' ∉ ds.drop (↑ds.length + d.exponent).toNat :=
        fun h => digits (List.mem_of_mem_drop h)
      simp [front, back]
    split
    · simp [digits]
    · rw [List.mem_append, not_or]
      refine ⟨?_, newline_notMem_powerText _⟩
      split
      · exact digits
      · simpa using digits
      · exact List.not_mem_nil

theorem doubleText_ne_empty (x : Float) : doubleText x ≠ "" := by
  rw [doubleText]
  split
  · simp
  · rw [Ne, String.append_eq_empty_iff]
    refine fun h => absurd h.2 ?_
    dsimp only
    repeat' split
    all_goals simp [powerText]

theorem oneLine_text (n : Number) : OneLine n.text := by
  cases n with
  | int n => exact oneLine_toString n
  | double x => exact oneLine_doubleText x

theorem text_ne_empty (n : Number) : n.text ≠ "" := by
  cases n with
  | int n =>
    rw [text, Int.toString_eq_repr, Int.repr_eq_if]
    split <;> simp
  | double x => exact doubleText_ne_empty x

end Number

namespace Value

/-! ### Strings -/

theorem newline_ne_hexDigit {n : Nat} (small : n < 16) : '\n' ≠ hexDigit n := by
  have all : ∀ n < 16, '\n' ≠ hexDigit n := by decide
  exact all n small

theorem newline_notMem_writeChar (c : Char) : '\n' ∉ writeChar c := by
  unfold writeChar
  split
  case h_8 _ _ _ _ other _ _ =>
    split
    · have high : '\n' ≠ hexDigit (c.toNat / 16) := newline_ne_hexDigit (by omega)
      have low : '\n' ≠ hexDigit (c.toNat % 16) := newline_ne_hexDigit (by omega)
      simp [high, low]
    · exact fun h => other (List.mem_singleton.mp h).symm
  all_goals decide

theorem oneLine_writeString (s : String) : OneLine (writeString s) := by
  simp only [writeString, oneLine_append, oneLine_ofList, List.mem_flatMap, not_exists, not_and]
  exact ⟨⟨by decide, fun c _ => newline_notMem_writeChar c⟩, by decide⟩

/-! ### Values -/

mutual

/-- **A value is written on one line.** -/
theorem oneLine_write : ∀ v : Value, OneLine v.write
  | null => by decide
  | bool true => by decide
  | bool false => by decide
  | number n => n.oneLine_text
  | string s => oneLine_writeString s
  | array items => by
    rw [write, oneLine_append, oneLine_append]
    exact ⟨⟨by decide, oneLine_writeItems items⟩, by decide⟩
  | object members => by
    rw [write, oneLine_append, oneLine_append]
    exact ⟨⟨by decide, oneLine_writeMembers members⟩, by decide⟩

theorem oneLine_writeItems : ∀ items : List Value, OneLine (writeItems items)
  | [] => by decide
  | [v] => oneLine_write v
  | v :: w :: vs => by
    simp only [writeItems, oneLine_append]
    exact ⟨⟨oneLine_write v, by decide⟩, oneLine_writeItems (w :: vs)⟩

theorem oneLine_writeMembers : ∀ members : List (String × Value), OneLine (writeMembers members)
  | [] => by decide
  | [m] => oneLine_writeMember m
  | m :: n :: ms => by
    simp only [writeMembers, oneLine_append]
    exact ⟨⟨oneLine_writeMember m, by decide⟩, oneLine_writeMembers (n :: ms)⟩

theorem oneLine_writeMember : ∀ m : String × Value, OneLine (writeMember m)
  | (name, v) => by
    rw [writeMember, oneLine_append, oneLine_append]
    exact ⟨⟨oneLine_writeString name, by decide⟩, oneLine_write v⟩

end

theorem write_ne_empty (v : Value) : v.write ≠ "" := by
  cases v with
  | null => decide
  | bool b => cases b <;> decide
  | number n => exact n.text_ne_empty
  | string s => simp [write, writeString]
  | array items => simp [write]
  | object members => simp [write]

end Value

end Json

end TokenChain
