/-! # Digits

Writing of decimal numbers in fields of a fixed width, reading of runs of digits, and hexadecimal
numbers. `fixed w n` has exactly `w` digits and drops what does not fit; `run` splits a text behind
its first digits, at most `max` of them. -/

namespace TokenChain.Text.Digits

/-- The digit of a number below ten. -/
def digit (n : Nat) : Char := Char.ofNat (48 + n % 10)

/-- The last `w` decimal digits of `n`, with leading zeros. -/
def fixed : Nat → Nat → List Char
  | 0, _ => []
  | w + 1, n => fixed w (n / 10) ++ [digit n]

/-- Whether a character is one of the ten ASCII digits. -/
def isDigit (c : Char) : Bool := '0' ≤ c && c ≤ '9'

/-- The value of a digit. -/
def valueOf (c : Char) : Nat := c.toNat - 48

/-- The number that a list of digits writes. -/
def number (ds : List Char) : Nat := ds.foldl (fun n c => 10 * n + valueOf c) 0

/-- The first digits of a text, at most `max` of them, and the rest of the text. -/
def run : Nat → List Char → List Char × List Char
  | 0, cs => ([], cs)
  | _ + 1, [] => ([], [])
  | max + 1, c :: cs =>
    if isDigit c then ((c :: (run max cs).1), (run max cs).2) else ([], c :: cs)

/-- The value of a hexadecimal digit. -/
def hexValue? (c : Char) : Option Nat :=
  if '0' ≤ c && c ≤ '9' then some (c.toNat - 48)
  else if 'a' ≤ c && c ≤ 'f' then some (c.toNat - 87)
  else if 'A' ≤ c && c ≤ 'F' then some (c.toNat - 55)
  else none

/-- The number that hexadecimal digits write; other characters count as zeros. -/
def hexNumber (ds : List Char) : Nat := ds.foldl (fun n c => 16 * n + (hexValue? c).getD 0) 0

theorem length_fixed (w n : Nat) : (fixed w n).length = w := by
  induction w generalizing n with
  | zero => rfl
  | succ w ih => simp [fixed, ih]

theorem run_append (max : Nat) (cs : List Char) : (run max cs).1 ++ (run max cs).2 = cs := by
  induction max generalizing cs with
  | zero => rfl
  | succ max ih =>
    cases cs with
    | nil => rfl
    | cons c cs => by_cases h : isDigit c <;> simp [run, h, ih]

end TokenChain.Text.Digits
