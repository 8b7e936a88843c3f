/-! # Lines

A line ends at a line feed; a carriage return just before the line feed belongs to the ending, any
other carriage return to the line. A text that ends with a line feed has no empty line behind it. -/

namespace TokenChain.Text

/-- Puts a character in front of the first line, which it opens if there is none. -/
def consLine (c : Char) : List (List Char) → List (List Char)
  | [] => [[c]]
  | l :: ls => (c :: l) :: ls

/-- The lines of a text. -/
def linesOf : List Char → List (List Char)
  | [] => []
  | '\n' :: cs => [] :: linesOf cs
  | '\r' :: '\n' :: cs => [] :: linesOf cs
  | c :: cs => consLine c (linesOf cs)

/-- The lines of a text. -/
def lines (s : String) : List String := (linesOf s.toList).map String.ofList

/-- The first line of a text; the empty text is its own first line. -/
def firstLine (s : String) : String := (lines s).headD s

/-- No line holds a line feed. -/
theorem newline_notMem_of_mem_linesOf {cs l : List Char} (h : l ∈ linesOf cs) : '\n' ∉ l := by
  fun_induction linesOf cs generalizing l with
  | case1 => simp at h
  | case2 cs ih => rcases List.mem_cons.1 h with rfl | h <;> simp_all
  | case3 cs ih => rcases List.mem_cons.1 h with rfl | h <;> simp_all
  | case4 c cs hc _ ih =>
    have hc : c ≠ '\n' := hc
    cases hl : linesOf cs with
    | nil => simp [hl, consLine] at h; simp [h, Ne.symm hc]
    | cons m ms =>
      rw [hl] at h ih
      rcases List.mem_cons.1 h with rfl | h
      · have := ih (List.mem_cons_self ..); simp [Ne.symm hc, this]
      · exact ih (List.mem_cons_of_mem _ h)

end TokenChain.Text
