import ProblemBoard.Condition
import ProblemBoard.Severity

/-! # Clauses

A question to the database restricts a table to some of its rows by a clause: a text in which every
value is a placeholder, with the parameters that the placeholders stand for. The database refuses a
question with too many parameters, whatever stands in its tables.
-/

namespace ProblemBoard

/-- The greatest number of parameters in one question. -/
def parameterLimit : Nat := 32766

/-- A text with placeholders, and what they stand for, from left to right. -/
structure Clause where
  text : String
  params : List Int
  deriving DecidableEq, Repr

namespace Clause

def ofCondition (condition : Condition) : Clause := ⟨condition.text, condition.params⟩

/-- A condition on rows from a severity upward. -/
def ofSeverity (least : Severity) (condition : Condition) : Clause where
  text := "severity >= ? AND " ++ condition.text
  params := (least.level : Int) :: condition.params

/-- The rows of a table that a clause selects, if the database takes the question. -/
def find {α : Type} (clause : Clause) (selects : α → Bool) (rows : List α) :
    Except StoreFault (List α) :=
  if clause.params.length ≤ parameterLimit then pure (rows.filter selects) else throw .database

end Clause

/-- What triggers may be named by. -/
inductive Naming where
  | trigger
  | host
  | group
  deriving DecidableEq, Repr

namespace Naming

/-- The column that the names stand in. Hosts and groups have tables of their own. -/
def column : Naming → String
  | trigger => "t.trigger_id"
  | host => "th.host_id"
  | group => "tg.group_id"

/-- The text that finds triggers by a condition on their names. -/
def text (condition : String) : Naming → String
  | trigger => condition
  | host =>
      "t.trigger_id IN (SELECT th.trigger_id FROM trigger_hosts th WHERE " ++ condition ++ ")"
  | group =>
      "t.trigger_id IN (SELECT tg.trigger_id FROM trigger_groups tg WHERE " ++ condition ++ ")"

end Naming

end ProblemBoard
