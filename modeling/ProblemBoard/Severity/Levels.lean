import ProblemBoard.Severity

/-! # One value for each severity

`Levels α` holds exactly one `α` for each of the six severities, so nothing built on it can miss a
level. It is read with `get`, changed with `set`, and listed in ascending order of severity.
-/

namespace ProblemBoard

/-- One value for each severity. -/
@[ext] structure Levels (α : Type u) where
  notClassified : α
  information : α
  warning : α
  average : α
  high : α
  disaster : α
  deriving DecidableEq, Repr, Inhabited

namespace Levels

variable {α : Type u} {β : Type v}

/-- The table of a function. -/
def ofFn (value : Severity → α) : Levels α where
  notClassified := value .notClassified
  information := value .information
  warning := value .warning
  average := value .average
  high := value .high
  disaster := value .disaster

def get (levels : Levels α) : Severity → α
  | .notClassified => levels.notClassified
  | .information => levels.information
  | .warning => levels.warning
  | .average => levels.average
  | .high => levels.high
  | .disaster => levels.disaster

/-- The table with another value at one severity. -/
def set (levels : Levels α) (severity : Severity) (value : α) : Levels α :=
  ofFn fun other => if other = severity then value else levels.get other

/-- The severities with their values, in ascending order. -/
def toList (levels : Levels α) : List (Severity × α) :=
  Severity.all.map fun severity => (severity, levels.get severity)

/-- The table that results from writing the entries of a list one after the other. -/
def setAll (levels : Levels α) (entries : List (Severity × α)) : Levels α :=
  entries.foldl (fun table entry => table.set entry.1 entry.2) levels

@[simp] theorem get_ofFn (value : Severity → α) (severity : Severity) :
    (ofFn value).get severity = value severity := by
  cases severity <;> rfl

theorem get_set (levels : Levels α) (severity other : Severity) (value : α) :
    (levels.set severity value).get other = if other = severity then value else levels.get other := by
  simp [set]

theorem ext_get {left right : Levels α} (same : ∀ severity, left.get severity = right.get severity) :
    left = right :=
  Levels.ext (same .notClassified) (same .information) (same .warning) (same .average)
    (same .high) (same .disaster)

theorem map_fst_toList (levels : Levels α) : levels.toList.map Prod.fst = Severity.all := by
  rfl

@[simp] theorem mem_toList {levels : Levels α} {entry : Severity × α} :
    entry ∈ levels.toList ↔ levels.get entry.1 = entry.2 := by
  obtain ⟨severity, value⟩ := entry
  cases severity <;> simp [toList, Severity.all, get, eq_comm]

/-- Writing all entries of a table over any other gives the table. -/
@[simp] theorem setAll_toList (levels other : Levels α) : other.setAll levels.toList = levels := by
  rfl

end Levels

end ProblemBoard
