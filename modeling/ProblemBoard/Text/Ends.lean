/-! # The two ends of a text

A text without a given front, or without a given back. `dropFront?_eq_some_iff` and
`dropBack?_eq_some_iff` say what is left.
-/

namespace ProblemBoard.Text

/-- What is left of a text without the given front. -/
def dropFront? : List Char → List Char → Option (List Char)
  | [], text => some text
  | _ :: _, [] => none
  | c :: front, d :: text => if c = d then dropFront? front text else none

/-- What is left of a text without the given back. -/
def dropBack? (back text : List Char) : Option (List Char) :=
  (dropFront? back.reverse text.reverse).map List.reverse

theorem dropFront?_eq_some_iff {front text rest : List Char} :
    dropFront? front text = some rest ↔ text = front ++ rest := by
  induction front generalizing text with
  | nil => simp [dropFront?]
  | cons c front step =>
    cases text with
    | nil => simp [dropFront?]
    | cons d text =>
      rw [dropFront?]
      split
      · next same => rw [step, same]; simp
      · next differ =>
        simp only [reduceCtorEq, List.cons_append, List.cons.injEq, false_iff, not_and]
        exact fun same => absurd same.symm differ

theorem dropBack?_eq_some_iff {back text rest : List Char} :
    dropBack? back text = some rest ↔ text = rest ++ back := by
  simp only [dropBack?, Option.map_eq_some_iff, dropFront?_eq_some_iff]
  constructor
  · rintro ⟨front, split, rfl⟩
    rw [← List.reverse_inj, split]
    simp
  · rintro rfl
    exact ⟨rest.reverse, by simp, by simp⟩

end ProblemBoard.Text
