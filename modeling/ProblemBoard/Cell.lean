import ProblemBoard.Fault

/-! # Numbers in database cells

A cell holds a signed integer of 64 bits. Identifiers are unsigned, so the upper half of them cannot
be kept; what comes out of a cell is checked in turn, since nothing else vouches for it.
-/

namespace ProblemBoard.Cell

/-- The cell that keeps an identifier. -/
def ofIdent {entity : Entity} (id : Ident entity) : Except CellFault Int :=
  if id.toNat < Nat.pow 2 63 then .ok id.toNat else .error (.idTooLarge id.val)

/-- The cells that keep some identifiers. -/
def ofIdents {entity : Entity} (ids : List (Ident entity)) : Except CellFault (List Int) :=
  ids.mapM ofIdent

/-- The identifier kept in a cell. -/
def toIdent {entity : Entity} (cell : Int) : Except CellFault (Ident entity) :=
  if cell < 0 then .error (.negativeId cell) else .ok ⟨cell.toNat.toUInt64⟩

/-- The severity kept in a cell. -/
def toSeverity (cell : Int) : Except StoreFault Severity :=
  if cell < 0 ∨ 256 ≤ cell then .error (.integrity (.severityOutOfRange cell))
  else
    match Severity.ofLevel? cell.toNat with
    | some severity => .ok severity
    | none => .error (.invalidModel (.invalidSeverity cell.toNat))

theorem toIdent_ofIdent {entity : Entity} {id : Ident entity} {cell : Int}
    (kept : ofIdent id = .ok cell) : toIdent cell = .ok id := by
  unfold ofIdent at kept
  split at kept
  · cases kept
    unfold toIdent
    rw [if_neg (by omega)]
    simp [Ident.toNat]
  · cases kept

theorem toSeverity_level (severity : Severity) : toSeverity severity.level = .ok severity := by
  cases severity <;> rfl

end ProblemBoard.Cell
