import ProblemBoard.Fault

/-! # Membership conditions on database columns

A condition selects the rows whose value in one column is, or is not, among given values. Long lists
are split into chunks of bounded length, and a chunk of one value is a plain comparison. In a column
of identifiers zero means "no reference" and is kept as a null, so that it has to be asked for in a
part of its own.

A condition has two sides: its text, in which every value is a placeholder, and its truth at a cell,
which is three-valued, since a comparison with a null is neither true nor false.
-/

namespace ProblemBoard

/-- The greatest number of values in one list of a condition. -/
def chunkSize : Nat := 950

/-- A list in pieces of `chunkSize` elements, the last one of which may be shorter. -/
def chunks {α : Type} : List α → List (List α)
  | [] => []
  | value :: rest =>
      (value :: rest.take (chunkSize - 1)) :: chunks (rest.drop (chunkSize - 1))
  termination_by values => values.length
  decreasing_by
    simp only [List.length_drop, List.length_cons]
    omega

theorem flatten_chunks {α : Type} (values : List α) : (chunks values).flatten = values := by
  fun_induction chunks values with
  | case1 => rfl
  | case2 value rest step =>
    rw [List.flatten_cons, step, List.cons_append, List.take_append_drop]

/-- A membership condition on a column. -/
structure Condition where
  field : String
  /-- Whether the values are those to leave out. -/
  negated : Bool
  /-- The values to look for, in ascending order. -/
  values : List Int
  /-- Whether a null is looked for too. -/
  withNull : Bool
  deriving DecidableEq, Repr

namespace Condition

/-- The distinct values of a list, in ascending order. -/
def distinct (values : List Int) : List Int := (Std.ExtTreeSet.ofList values compare).toList

/-- The condition that a column of numbers holds one of the values, or none of them. -/
def ofNumbers (field : String) (values : List Int) (negated : Bool) : Condition :=
  ⟨field, negated, distinct values, false⟩

/-- The condition that a column of identifiers holds one of the values, or none of them. -/
def ofIds (field : String) (values : List Int) (negated : Bool) : Condition :=
  ⟨field, negated, distinct (values.filter (· ≠ 0)), values.contains 0⟩

/-- A part of a condition that is written, and true or not, on its own. -/
inductive Part where
  | one (value : Int)
  | several (values : List Int)
  | null
  deriving DecidableEq, Repr

namespace Part

def ofChunk : List Int → Part
  | [value] => one value
  | values => several values

/-- The values that the placeholders of a part stand for. -/
def params : Part → List Int
  | one value => [value]
  | several values => values
  | null => []

def text (field : String) (negated : Bool) : Part → String
  | one _ => field ++ (if negated then "!=?" else "=?")
  | several values =>
      field ++ (if negated then " NOT IN (" else " IN (") ++
        ",".intercalate (values.map fun _ => "?") ++ ")"
  | null => field ++ (if negated then " IS NOT NULL" else " IS NULL")

/-- The truth of a part at a cell, or nothing if it is unknown. -/
def truth (negated : Bool) (cell : Option Int) : Part → Option Bool
  | one value => cell.map fun content => (content == value) != negated
  | several values => cell.map fun content => values.contains content != negated
  | null => some (cell.isNone != negated)

end Part

/-- The parts of a condition. -/
def parts (condition : Condition) : List Part :=
  (chunks condition.values).map Part.ofChunk ++ if condition.withNull then [.null] else []

/-- The values that the placeholders of the text stand for, from left to right. -/
def params (condition : Condition) : List Int := condition.parts.flatMap Part.params

/-- The text of a condition. Alternatives stand in brackets, so that the text may be used as one
part of a conjunction. -/
def text (condition : Condition) : String :=
  let parts := condition.parts.map (Part.text condition.field condition.negated)
  match parts with
  | [] => if condition.negated then "1=1" else "1=0"
  | [part] => part
  | parts =>
      if condition.negated then " AND ".intercalate parts
      else "(" ++ " OR ".intercalate parts ++ ")"

/-- Both, in three-valued logic. -/
def both : Option Bool → Option Bool → Option Bool
  | some false, _ => some false
  | _, some false => some false
  | some true, some true => some true
  | _, _ => none

/-- One or the other, in three-valued logic. -/
def either : Option Bool → Option Bool → Option Bool
  | some true, _ => some true
  | _, some true => some true
  | some false, some false => some false
  | _, _ => none

/-- The truth of a condition at a cell, or nothing if it is unknown. -/
def truth (condition : Condition) (cell : Option Int) : Option Bool :=
  let truths := condition.parts.map (Part.truth condition.negated cell)
  if condition.negated then truths.foldr both (some true) else truths.foldr either (some false)

/-- Whether a condition selects a row with the given cell: only what is true is selected. -/
def selects (condition : Condition) (cell : Option Int) : Bool := condition.truth cell == some true

end Condition

end ProblemBoard
