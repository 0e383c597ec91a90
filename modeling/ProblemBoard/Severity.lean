/-! # Problem severities

The six levels of severity, lowest first. A level's number is its place in this order, and it is
that number which models and their written forms carry.
-/

namespace ProblemBoard

/-- How grave a problem is. -/
inductive Severity where
  | notClassified
  | information
  | warning
  | average
  | high
  | disaster
  deriving DecidableEq, Repr, Inhabited

namespace Severity

/-- The number of a level, from 0 to 5. -/
def level : Severity → Nat
  | notClassified => 0
  | information => 1
  | warning => 2
  | average => 3
  | high => 4
  | disaster => 5

/-- The level with the given number. -/
def ofLevel? : Nat → Option Severity
  | 0 => some notClassified
  | 1 => some information
  | 2 => some warning
  | 3 => some average
  | 4 => some high
  | 5 => some disaster
  | _ => none

/-- Every level, in ascending order. -/
def all : List Severity := [notClassified, information, warning, average, high, disaster]

@[simp] theorem mem_all (severity : Severity) : severity ∈ all := by
  cases severity <;> decide

@[simp] theorem ofLevel?_level (severity : Severity) : ofLevel? severity.level = some severity := by
  cases severity <;> rfl

theorem level_lt (severity : Severity) : severity.level < 6 := by
  cases severity <;> decide

theorem ofLevel?_eq_some_iff {number : Nat} {severity : Severity} :
    ofLevel? number = some severity ↔ severity.level = number := by
  constructor
  · intro success
    unfold ofLevel? at success
    split at success <;> first | cases success; rfl | cases success
  · rintro rfl
    exact ofLevel?_level severity

theorem level_inj {left right : Severity} : left.level = right.level ↔ left = right :=
  ⟨fun same => Option.some.inj (by rw [← ofLevel?_level left, ← ofLevel?_level right, same]),
    fun same => same ▸ rfl⟩

/-- Severities are compared by their numbers. -/
instance : LE Severity := ⟨fun left right => left.level ≤ right.level⟩

instance : LT Severity := ⟨fun left right => left.level < right.level⟩

instance (left right : Severity) : Decidable (left ≤ right) :=
  inferInstanceAs (Decidable (left.level ≤ right.level))

instance (left right : Severity) : Decidable (left < right) :=
  inferInstanceAs (Decidable (left.level < right.level))

theorem le_def {left right : Severity} : left ≤ right ↔ left.level ≤ right.level := Iff.rfl

theorem lt_def {left right : Severity} : left < right ↔ left.level < right.level := Iff.rfl

instance : Max Severity := maxOfLe

instance : Min Severity := minOfLe

/-- The levels at or above the given one. -/
def andAbove (severity : Severity) : List Severity := all.filter (severity ≤ ·)

theorem mem_andAbove {severity other : Severity} : other ∈ severity.andAbove ↔ severity ≤ other := by
  simp [andAbove]

end Severity

end ProblemBoard
