/-! # Splitting at a mark

A list split at its first mark or at all its marks. `splitAll_join` says that nothing is lost and
`not_mem_of_mem_splitAll` that no piece holds a mark.
-/

namespace ProblemBoard.Text

variable {α : Type} [DecidableEq α]

/-- What stands before the first mark, and what stands behind it if there is one. -/
def splitFirst (mark : α) : List α → List α × Option (List α)
  | [] => ([], none)
  | c :: rest =>
      if c = mark then ([], some rest)
      else
        let (front, back) := splitFirst mark rest
        (c :: front, back)

/-- The pieces before, between and behind the marks. -/
def splitAll (mark : α) : List α → List (List α)
  | [] => [[]]
  | c :: rest =>
      if c = mark then [] :: splitAll mark rest
      else
        match splitAll mark rest with
        | [] => [[c]]
        | piece :: pieces => (c :: piece) :: pieces

theorem splitAll_ne_nil (mark : α) (text : List α) : splitAll mark text ≠ [] := by
  cases text with
  | nil => simp [splitAll]
  | cons c rest =>
    rw [splitAll]
    split
    · simp
    · split <;> simp

/-- The pieces with marks between them are the text. -/
theorem splitAll_join (mark : α) (text : List α) :
    ([mark].intercalate (splitAll mark text)) = text := by
  induction text with
  | nil => rfl
  | cons c rest step =>
    rw [splitAll]
    match pieces : splitAll mark rest with
    | [] => exact absurd pieces (splitAll_ne_nil mark rest)
    | piece :: others =>
      rw [pieces] at step
      split
      · next same => rw [List.intercalate_cons_cons, step, same]; rfl
      · rw [← step]
        cases others <;> simp [List.intercalate]

/-- The pieces cover all but the marks. -/
theorem exists_piece_of_mem {mark c : α} {text : List α} (member : c ∈ text) (differ : c ≠ mark) :
    ∃ piece ∈ splitAll mark text, c ∈ piece := by
  have covered (pieces : List (List α)) (inside : c ∈ [mark].intercalate pieces) :
      ∃ piece ∈ pieces, c ∈ piece := by
    induction pieces with
    | nil => cases inside
    | cons first rest step =>
      cases rest with
      | nil => exact ⟨first, List.mem_cons_self, by rwa [List.intercalate_singleton] at inside⟩
      | cons second rest =>
        rw [List.intercalate_cons_cons, List.mem_append, List.mem_append, List.mem_singleton] at inside
        rcases inside with (here | same) | later
        · exact ⟨first, List.mem_cons_self, here⟩
        · exact absurd same differ
        · obtain ⟨piece, found, within⟩ := step later
          exact ⟨piece, List.mem_cons_of_mem _ found, within⟩
  exact covered _ (by rwa [splitAll_join])

theorem not_mem_of_mem_splitAll {mark : α} {text piece : List α}
    (member : piece ∈ splitAll mark text) : mark ∉ piece := by
  induction text generalizing piece with
  | nil =>
    rw [splitAll, List.mem_singleton] at member
    simp [member]
  | cons c rest step =>
    rw [splitAll] at member
    split at member
    · rcases List.mem_cons.mp member with rfl | later
      · simp
      · exact step later
    · next differ =>
      split at member
      · rw [List.mem_singleton] at member
        simpa [member] using fun same => differ same.symm
      · next first others pieces =>
        rcases List.mem_cons.mp member with rfl | later
        · have absent := step (pieces ▸ List.mem_cons_self)
          simpa [absent] using fun same => differ same.symm
        · exact step (pieces ▸ List.mem_cons_of_mem _ later)

end ProblemBoard.Text
