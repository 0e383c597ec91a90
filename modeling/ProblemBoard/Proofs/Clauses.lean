import Mathlib.Data.List.SplitBy
import ProblemBoard.Condition
import ProblemBoard.Text.Natural
import ProblemBoard.Text.Split

/-! # Conditions as a database reads them

The text of a condition is cut into words, signs and single marks; words are names of columns, numbers and
keywords. The placeholders are numbered from left to right, each standing for the parameter of its number. Tests
of one or two operands are then put together: `NOT` binds closest, then `AND`, then `OR`, and brackets before all.
A cell may also be looked up in a column of another table, among the rows there that satisfy a condition of their own.
What is read has a truth in every row, which is three-valued, since a cell may be null.

This is the part of the language that membership conditions and the clauses around them are written in. A text
outside of this part is not read at all.
-/

namespace ProblemBoard.Sql

section Characters

/-- What a character may be part of. -/
inductive Kind where
  | blank
  | word
  | sign
  | mark
  | foreign
  deriving DecidableEq, Repr

/-- A letter, in the sense that a name may begin with it. -/
def isLetter (c : Char) : Bool := c.isAlpha || c == '_' || decide (128 ≤ c.toNat)

def isNameChar (c : Char) : Bool := isLetter c || c.isDigit || c == '$'

/-- The kind of a character, given whether it stands in quotes. -/
def kind : Bool × Char → Kind
  | (true, _) => .word
  | (false, c) =>
      if [' ', '\t', '\n', '\x0c', '\r'].contains c then .blank
      else if isNameChar c || c == '.' then .word
      else if ['=', '!', '<', '>'].contains c then .sign
      else if ['(', ')', ',', '?'].contains c then .mark
      else .foreign

/-- The characters of a text, each with whether it stands in quotes, as the quotes themselves do. -/
def quoting (inside : Bool) : List Char → List (Bool × Char)
  | [] => []
  | c :: rest => if c = '"' then (true, c) :: quoting (!inside) rest else (inside, c) :: quoting inside rest

/-- Whether quotes are open behind a text. -/
def quotesOpen (inside : Bool) : List Char → Bool
  | [] => inside
  | c :: rest => quotesOpen (if c = '"' then !inside else inside) rest

/-- Whether two characters next to each other belong to one lexeme. -/
def joins (left right : Bool × Char) : Bool :=
  kind left == kind right && (kind left == .word || kind left == .sign)

end Characters

section Tokens

/-- A comparison of two numbers. -/
inductive Relation where
  | equal
  | unequal
  | less
  | atMost
  | greater
  | atLeast
  deriving DecidableEq, Repr

inductive Operand where
  /-- A column, by its name as it is written. -/
  | column (name : String)
  | number (value : Nat)
  /-- The parameter with a number, counted from zero. -/
  | parameter (index : Nat)
  deriving DecidableEq, Repr

inductive Token where
  | operand (operand : Operand)
  | placeholder
  | relation (relation : Relation)
  | and
  | or
  | not
  | within
  | is
  | null
  | select
  | source
  | such
  | opening
  | closing
  | comma
  deriving DecidableEq, Repr

/-- The words that are no names, in capitals. -/
def reserved : List String := [
  "ADD", "ALL", "ALTER", "AND", "AS", "AUTOINCREMENT", "BETWEEN", "CASE", "CAST", "CHECK", "COLLATE", "COMMIT",
  "CONSTRAINT", "CREATE", "CURRENT_DATE", "CURRENT_TIME", "CURRENT_TIMESTAMP", "DEFAULT", "DEFERRABLE", "DELETE",
  "DISTINCT", "DROP", "ELSE", "ESCAPE", "EXCEPT", "EXISTS", "FOREIGN", "FROM", "GROUP", "HAVING", "IN", "INDEX",
  "INSERT", "INTERSECT", "INTO", "IS", "ISNULL", "JOIN", "LIMIT", "NOT", "NOTHING", "NOTNULL", "NULL", "ON", "OR",
  "ORDER", "PRIMARY", "RAISE", "REFERENCES", "RETURNING", "SELECT", "SET", "TABLE", "THEN", "TO", "TRANSACTION",
  "UNION", "UNIQUE", "UPDATE", "USING", "VALUES", "WHEN", "WHERE"]

/-- The reserved words that conditions are written with. -/
def keywords : List (String × Token) :=
  [("AND", .and), ("OR", .or), ("NOT", .not), ("IN", .within), ("IS", .is), ("NULL", .null), ("SELECT", .select),
    ("FROM", .source), ("WHERE", .such)]

/-- A word in capitals. -/
def capitals (chars : List Char) : String := String.ofList (chars.map Char.toUpper)

/-- A part of a name: a word that is not reserved, or anything in quotes. -/
def isPart (part : List (Bool × Char)) : Bool :=
  match part with
  | [] => false
  | (true, _) :: rest => rest.all Prod.fst
  | (false, c) :: rest =>
      isLetter c && (rest.all fun (quoted, c) => !quoted && isNameChar c) &&
        !reserved.contains (capitals (part.map Prod.snd))

/-- The name of a column: one or more parts, with dots between them. -/
def isName (chars : List (Bool × Char)) : Bool := (Text.splitAll (false, '.') chars).all isPart

/-- A text is the name of a column. -/
def isColumn (name : String) : Bool := !quotesOpen false name.toList && isName (quoting false name.toList)

/-- The token that a word is. -/
def wordToken? (word : List (Bool × Char)) : Option Token :=
  let chars := word.map Prod.snd
  if isName word then some (.operand (.column (String.ofList chars)))
  else
    match keywords.lookup (capitals chars) with
    | some token => some token
    | none => (Text.digits? chars).map fun digits => .operand (.number (Decimal.value digits))

def relation? : List Char → Option Relation
  | ['='] => some .equal
  | ['=', '='] => some .equal
  | ['!', '='] => some .unequal
  | ['<', '>'] => some .unequal
  | ['<'] => some .less
  | ['<', '='] => some .atMost
  | ['>'] => some .greater
  | ['>', '='] => some .atLeast
  | _ => none

def markToken? : List Char → Option Token
  | ['('] => some .opening
  | [')'] => some .closing
  | [','] => some .comma
  | ['?'] => some .placeholder
  | _ => none

/-- The tokens that a lexeme is: one, or none if it is blank. -/
def lexemeTokens? (lexeme : List (Bool × Char)) : Option (List Token) :=
  match lexeme.head?.map kind with
  | some .blank => some []
  | some .word => (wordToken? lexeme).map ([·])
  | some .sign => (relation? (lexeme.map Prod.snd)).map ([.relation ·])
  | some .mark => (markToken? (lexeme.map Prod.snd)).map ([·])
  | _ => none

/-- The tokens of a text. -/
def tokens? (chars : List Char) : Option (List Token) :=
  if quotesOpen false chars then none
  else (((quoting false chars).splitBy joins).mapM lexemeTokens?).map List.flatten

/-- The number of placeholders in a text. -/
def placeholders (text : String) : Option Nat := (tokens? text.toList).map (·.count .placeholder)

/-- The tokens with a number for each placeholder, from left to right. -/
def numbered (next : Nat) : List Token → List Token
  | [] => []
  | .placeholder :: rest => .operand (.parameter next) :: numbered (next + 1) rest
  | token :: rest => token :: numbered next rest

end Tokens

section Grammar

mutual

/-- What is true or not on its own. -/
inductive Test where
  | comparison (relation : Relation) (left right : Operand)
  | null (negated : Bool) (operand : Operand)
  | membership (negated : Bool) (operand : Operand) (list : List Operand)
  | not (test : Test)
  | bracketed (condition : Disjunction)
  /-- Whether an operand is in a column of the rows of a table that satisfy a condition. In the condition the table goes
  by a short name. -/
  | lookup (operand : Operand) (column table short : String) (condition : Disjunction)

/-- Tests with `AND` between them. -/
inductive Conjunction where
  | one (test : Test)
  | and (front : Conjunction) (last : Test)

/-- Conjunctions with `OR` between them. -/
inductive Disjunction where
  | one (conjunction : Conjunction)
  | or (front : Disjunction) (last : Conjunction)

end

/-- A test behind some conjuncts, if there are any. -/
def Conjunction.behind : Option Conjunction → Test → Conjunction
  | none, test => .one test
  | some front, test => .and front test

/-- A conjunction behind some alternatives, if there are any. -/
def Disjunction.behind : Option Disjunction → Conjunction → Disjunction
  | none, conjunction => .one conjunction
  | some front, conjunction => .or front conjunction

mutual

/-- The comparisons and look-ups that a test is made of. -/
def Test.leaves : Test → List Test
  | .not test => test.leaves
  | .bracketed condition => condition.leaves
  | leaf => [leaf]

def Conjunction.leaves : Conjunction → List Test
  | .one test => test.leaves
  | .and front last => front.leaves ++ last.leaves

def Disjunction.leaves : Disjunction → List Test
  | .one conjunction => conjunction.leaves
  | .or front last => front.leaves ++ last.leaves

end

/-- What begins with an opening bracket. -/
inductive Opener where
  | bracket
  | lookup (operand : Operand) (column table short : String)
  deriving DecidableEq, Repr

/-- The test that a condition in brackets makes. -/
def Opener.close : Opener → Disjunction → Test
  | bracket, condition => .bracketed condition
  | lookup operand column table short, condition => .lookup operand column table short condition

/-- A test or one of the tokens that put tests together. -/
inductive Item where
  | test (test : Test)
  | and
  | or
  | not
  | opening (opener : Opener)
  | closing

/-- The rest of a list behind its opening bracket. -/
def list? : List Token → Option (List Operand × List Token)
  | .operand item :: .closing :: rest => some ([item], rest)
  | .operand item :: .comma :: rest => (list? rest).map fun (items, rest) => (item :: items, rest)
  | _ => none

/-- A test at the beginning of some tokens, without `NOT` and brackets around it. -/
def test? : List Token → Option (Test × List Token)
  | .operand left :: .relation relation :: .operand right :: rest => some (.comparison relation left right, rest)
  | .operand operand :: .is :: .null :: rest => some (.null false operand, rest)
  | .operand operand :: .is :: .not :: .null :: rest => some (.null true operand, rest)
  | .operand operand :: .within :: .opening :: rest =>
      (list? rest).map fun (list, rest) => (.membership false operand list, rest)
  | .operand operand :: .not :: .within :: .opening :: rest =>
      (list? rest).map fun (list, rest) => (.membership true operand list, rest)
  | _ => none

theorem length_of_list? {tokens rest : List Token} {list : List Operand} (read : list? tokens = some (list, rest)) :
    rest.length < tokens.length := by
  fun_induction list? tokens generalizing list rest with
  | case1 item tail =>
    cases read
    simp only [List.length_cons]
    omega
  | case2 item tail ih =>
    obtain ⟨⟨items, later⟩, found, same⟩ := Option.map_eq_some_iff.mp read
    cases same
    have shorter := ih found
    simp only [List.length_cons]
    omega
  | case3 => cases read

theorem length_of_test? {tokens rest : List Token} {test : Test} (read : test? tokens = some (test, rest)) :
    rest.length < tokens.length := by
  unfold test? at read
  split at read
  case h_1 | h_2 | h_3 =>
    cases read
    simp only [List.length_cons]
    omega
  case h_4 | h_5 =>
    obtain ⟨⟨list, later⟩, found, same⟩ := Option.map_eq_some_iff.mp read
    cases same
    have shorter := length_of_list? found
    simp only [List.length_cons]
    omega
  case h_6 => cases read

/-- The item at the beginning of some tokens. -/
def item? : List Token → Option (Item × List Token)
  | .and :: rest => some (.and, rest)
  | .or :: rest => some (.or, rest)
  | .not :: rest => some (.not, rest)
  | .opening :: rest => some (.opening .bracket, rest)
  | .closing :: rest => some (.closing, rest)
  | .operand operand :: .within :: .opening :: .select :: .operand (.column column) :: .source ::
      .operand (.column table) :: .operand (.column short) :: .such :: rest =>
      some (.opening (.lookup operand column table short), rest)
  | tokens => (test? tokens).map fun (test, rest) => (.test test, rest)

theorem length_of_item? {tokens rest : List Token} {item : Item} (read : item? tokens = some (item, rest)) :
    rest.length < tokens.length := by
  unfold item? at read
  split at read
  case h_7 =>
    obtain ⟨⟨test, later⟩, found, same⟩ := Option.map_eq_some_iff.mp read
    cases same
    exact length_of_test? found
  all_goals
    cases read
    simp only [List.length_cons]
    omega

/-- The items of some tokens. -/
def items? : List Token → Option (List Item)
  | [] => some []
  | token :: rest =>
      match _found : item? (token :: rest) with
      | some (item, rest) => (items? rest).map (item :: ·)
      | none => none
  termination_by tokens => tokens.length
  decreasing_by exact length_of_item? _found

/-- What stands in front of a test within its brackets: whole alternatives, conjuncts of the current one, and how
often the test is negated. -/
structure Level where
  alternatives : Option Disjunction
  conjuncts : Option Conjunction
  negations : Nat

namespace Level

def start : Level := ⟨none, none, 0⟩

/-- The current alternative, with its last test. -/
def conjunction (level : Level) (test : Test) : Conjunction :=
  .behind level.conjuncts (Nat.repeat Test.not level.negations test)

/-- All alternatives, with the last test. -/
def disjunction (level : Level) (test : Test) : Disjunction :=
  .behind level.alternatives (level.conjunction test)

end Level

/-- How far a condition has been read: up to a place where a test must follow, or up to the end of a test. The
levels are those of the innermost brackets that are open and of all brackets around them, each with what its brackets
began with. -/
inductive Progress where
  | before (level : Level) (outer : List (Opener × Level))
  | behind (level : Level) (test : Test) (outer : List (Opener × Level))

namespace Progress

def step : Progress → Item → Option Progress
  | before level outer, .test test => some (behind level test outer)
  | before level outer, .not => some (before { level with negations := level.negations + 1 } outer)
  | before level outer, .opening opener => some (before .start ((opener, level) :: outer))
  | behind level test outer, .and => some (before ⟨level.alternatives, some (level.conjunction test), 0⟩ outer)
  | behind level test outer, .or => some (before ⟨some (level.disjunction test), none, 0⟩ outer)
  | behind level test ((opener, around) :: outer), .closing =>
      some (behind around (opener.close (level.disjunction test)) outer)
  | _, _ => none

/-- The condition, if it has been read to its end. -/
def finish? : Progress → Option Disjunction
  | behind level test [] => some (level.disjunction test)
  | _ => none

end Progress

/-- The condition that a text is. -/
def read (text : String) : Option Disjunction := do
  let tokens ← tokens? text.toList
  let items ← items? (numbered 0 tokens)
  let progress ← items.foldlM Progress.step (.before .start [])
  progress.finish?

end Grammar

section Truth

/-- What stands in the cells of a row, by the names of their columns. -/
abbrev Row := String → Option Int

/-- The rows of tables, by their names and the short names with which their columns are written. -/
abbrev Tables := String → String → List Row

def Relation.holds : Relation → Int → Int → Bool
  | equal, left, right => left == right
  | unequal, left, right => left != right
  | less, left, right => decide (left < right)
  | atMost, left, right => decide (left ≤ right)
  | greater, left, right => decide (right < left)
  | atLeast, left, right => decide (right ≤ left)

/-- Whether two values compare as they should, which is unknown if one of them is null. -/
def Relation.truth (relation : Relation) : Option Int → Option Int → Option Bool
  | some left, some right => some (relation.holds left right)
  | _, _ => none

/-- Whether a value is in a list, which is to be equal to one of its members. -/
def among (value : Option Int) (list : List (Option Int)) : Option Bool :=
  (list.map (Relation.equal.truth value)).foldr Condition.either (some false)

def Operand.value (row : Row) (params : List Int) : Operand → Option Int
  | column name => row name
  | number value => some value
  | parameter index => params[index]?

mutual

/-- The truth of a test in a row, where there are other tables to look things up in. -/
def Test.truthAmid (tables : Tables) (params : List Int) (row : Row) : Test → Option Bool
  | .comparison relation left right => relation.truth (left.value row params) (right.value row params)
  | .null negated operand => some ((operand.value row params).isNone != negated)
  | .membership negated operand list =>
      (among (operand.value row params) (list.map (·.value row params))).map (· != negated)
  | .not test => (test.truthAmid tables params row).map (!·)
  | .bracketed condition => condition.truthAmid tables params row
  | .lookup operand column table short condition =>
      among (operand.value row params)
        (((tables table short).filter (condition.truthAmid tables params · == some true)).map (· column))

def Conjunction.truthAmid (tables : Tables) (params : List Int) (row : Row) : Conjunction → Option Bool
  | .one test => test.truthAmid tables params row
  | .and front last => Condition.both (front.truthAmid tables params row) (last.truthAmid tables params row)

def Disjunction.truthAmid (tables : Tables) (params : List Int) (row : Row) : Disjunction → Option Bool
  | .one conjunction => conjunction.truthAmid tables params row
  | .or front last => Condition.either (front.truthAmid tables params row) (last.truthAmid tables params row)

end

variable (row : Row) (params : List Int)

/-- The truth of a conjunction in a row, where there is no other table. -/
def Conjunction.truth (conjunction : Conjunction) : Option Bool := conjunction.truthAmid (fun _ _ => []) params row

/-- The truth of a condition in a row, where there is no other table. -/
def Disjunction.truth (condition : Disjunction) : Option Bool := condition.truthAmid (fun _ _ => []) params row

/-- The truth of a condition with one more conjunct at its end, which belongs to its last alternative. -/
def Disjunction.truthWith (more : Option Bool) : Disjunction → Option Bool
  | .one conjunction => Condition.both (conjunction.truth row params) more
  | .or front last => Condition.either (front.truth row params) (Condition.both (last.truth row params) more)

end Truth

end ProblemBoard.Sql
