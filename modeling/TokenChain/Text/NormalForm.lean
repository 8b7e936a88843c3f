import TokenChain.Text.Mark
import TokenChain.Text.Composite

/-! # The composed normal form

Texts that mean the same have one normal form: every character is taken apart, the marks behind a
base are put in the order of their classes, and then each base is drawn together with the marks that
reach it. A mark does not reach its base across one of its own class or of a higher one. -/

namespace TokenChain.Text

/-- Puts a character in front of a text whose marks are in order: behind the marks of lower
classes. -/
def insertMark (c : Char) : List Char → List Char
  | [] => [c]
  | m :: ms =>
    if 0 < combiningClass m && combiningClass m < combiningClass c then m ::
      insertMark c ms else c :: m :: ms

/-- The text with the marks behind each base in the order of their classes. -/
def orderMarks (cs : List Char) : List Char := cs.foldr insertMark []

/-- Draws the characters that follow a base together with it; `behind` holds, last first, the marks
that have stayed behind it. -/
def composeFrom (base : Char) (behind : List Char) : List Char → List Char
  | [] => base :: behind.reverse
  | c :: cs =>
    let reaches := behind.head?.all fun m => combiningClass m < combiningClass c
    match (if reaches then compose? base c else none) with
    | some composite => composeFrom composite behind cs
    | none =>
      if combiningClass c = 0 then base :: (behind.reverse ++ composeFrom c [] cs)
      else composeFrom base (c :: behind) cs

/-- Draws every base of a text together with its marks. -/
def composeAll : List Char → List Char
  | [] => []
  | c :: cs => if combiningClass c = 0 then composeFrom c [] cs else c :: composeAll cs

/-- The composed normal form of a text. -/
def normalForm (cs : List Char) : List Char := composeAll (orderMarks (cs.flatMap decompose))

theorem length_insertMark (c : Char) (cs : List Char) :
    (insertMark c cs).length = cs.length + 1 := by
  induction cs with
  | nil => rfl
  | cons m ms ih => simp only [insertMark]; split <;> simp [ih]

/-- Ordering the marks loses none and adds none. -/
theorem length_orderMarks (cs : List Char) : (orderMarks cs).length = cs.length := by
  induction cs with
  | nil => rfl
  | cons c cs ih => simp [orderMarks, length_insertMark] at ih ⊢; exact ih

end TokenChain.Text
