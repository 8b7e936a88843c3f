import TokenChain.Text.Digits

/-! # Tables of characters

A property of characters is a table of spans: runs of neighbouring code points that share a value,
in ascending order. A table is written as a text with one item for each span and blanks between the
items: `61..7A=L` gives the value `L` to the code points from 61 to 7A, `B7=L` gives it to B7 alone,
and an item without a value is enough where only membership counts. All code points are
hexadecimal. -/

namespace TokenChain.Text

/-- Neighbouring code points and the value that they share. -/
structure Span (α : Type) where
  first : Nat
  last : Nat
  value : α
deriving Repr, Inhabited

/-- Spans in ascending order. -/
abbrev Spans (α : Type) := Array (Span α)

namespace Span

/-- The span that an item of a table writes. -/
def ofItem {α : Type} (read : List Char → α) (item : List Char) : Span α :=
  let bounds := item.takeWhile (· ≠ '=')
  let first := bounds.takeWhile (· ≠ '.')
  let last := (bounds.dropWhile (· ≠ '.')).drop 2
  { first := Digits.hexNumber first
    last := Digits.hexNumber (if last.isEmpty then first else last)
    value := read ((item.dropWhile (· ≠ '=')).drop 1) }

end Span

namespace Spans

/-- The spans that a text writes; `read` reads the values. -/
def ofText {α : Type} (read : List Char → α) (text : String) : Spans α :=
  let items := text.toList.splitOnP fun c => c = ' ' || c = '\n'
  ((items.filter (!·.isEmpty)).map (Span.ofItem read)).toArray

/-- The span between the places `low` and `high` that holds `n`. -/
def search {α : Type} (spans : Spans α) (n low high : Nat) : Option (Span α) :=
  if low < high then
    let middle := (low + high) / 2
    match spans[middle]? with
    | none => none
    | some span =>
      if n < span.first then search spans n low middle
      else if span.last < n then search spans n (middle + 1) high
      else some span
  else none
termination_by high - low

/-- The span that holds a character. -/
def spanOf? {α : Type} (spans : Spans α) (c : Char) : Option (Span α) :=
  search spans c.toNat 0 spans.size

/-- The value of a character. -/
def at? {α : Type} (spans : Spans α) (c : Char) : Option α := (spans.spanOf? c).map Span.value

/-- Whether a character is in one of the spans. -/
def holds {α : Type} (spans : Spans α) (c : Char) : Bool := (spans.spanOf? c).isSome

/-- A span that is found holds what was looked for. -/
theorem mem_of_search {α : Type} {spans : Spans α} {n low high : Nat} {span : Span α}
    (h : search spans n low high = some span) : span.first ≤ n ∧ n ≤ span.last := by
  fun_induction search spans n low high with
  | case1 => simp at h
  | case2 _ _ _ _ _ _ _ ih => exact ih h
  | case3 _ _ _ _ _ _ _ _ ih => exact ih h
  | case4 _ _ _ _ _ _ hfirst hlast =>
    obtain rfl := Option.some.inj h
    exact ⟨Nat.le_of_not_lt hfirst, Nat.le_of_not_lt hlast⟩
  | case5 => simp at h

end Spans

end TokenChain.Text
