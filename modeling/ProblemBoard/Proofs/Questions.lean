import ProblemBoard.Proofs.Membership
import ProblemBoard.Store.Database

/-! # What the database is asked

The text of a clause, as a database reads it, is true in just those rows of a table that the store says the clause
selects, and it has a placeholder for each parameter. Where triggers are asked for by hosts or groups, the text looks
them up in the tables of these.
-/

namespace ProblemBoard

open Sql

namespace Condition

/-- The test that a condition is which says that a value is among some others. -/
def test (condition : Condition) (next : Nat) : Test := (condition.tests next).headD (constant false)

theorem tests_eq {condition : Condition} (affirmed : condition.negated = false) (next : Nat) :
    condition.tests next = [condition.test next] := by
  rw [test, tests, affirmed]
  rcases partTests condition.field false next condition.parts with _ | ⟨first, _ | ⟨second, rest⟩⟩
  · rfl
  · rfl
  · rfl

end Condition

namespace Sql

/-- A text that is one test, with its parameters and its truth in every row, wherever it stands in a clause. -/
structure Phrase (tables : Tables) where
  text : String
  params : List Int
  truth : Row → Option Bool
  test : Nat → Test
  conjoins : Conjoins text params.length fun next => [test next]
  holds : ∀ (bound after : List Int) row,
    (test bound.length).truthAmid tables (bound ++ params ++ after) row = truth row

namespace Phrase

variable {tables : Tables}

/-- A column from a number upward. -/
def atLeast (name : String) (column : isColumn name = true) (least : Int) : Phrase tables where
  text := name ++ " >= ?"
  params := [least]
  truth row := (row name).map fun content => decide (least ≤ content)
  test next := .comparison .atLeast (.column name) (.parameter next)
  conjoins := by
    have behind : tokens? " >= ?".toList = some [.relation .atLeast, .placeholder] := by decide +kernel
    refine ⟨[.operand (.column name), .relation .atLeast, .placeholder], ?_, rfl, fun next =>
      ⟨_, (items?_test rfl).trans (by simp [numbered, items?]), .test _⟩⟩
    rw [String.toList_append]
    exact tokens?_column_append column behind (by decide)
  holds bound after row := by
    have here : (bound ++ [least] ++ after)[bound.length]? = some least := by simp
    simp only [Test.truthAmid, Operand.value, here]
    cases row name <;> rfl

/-- A column that holds zero. -/
def zero (name : String) (column : isColumn name = true) : Phrase tables where
  text := name ++ " = 0"
  params := []
  truth row := (row name).map (· == 0)
  test _ := .comparison .equal (.column name) (.number 0)
  conjoins := by
    have behind : tokens? " = 0".toList = some [.relation .equal, .operand (.number 0)] := by decide +kernel
    refine ⟨[.operand (.column name), .relation .equal, .operand (.number 0)], ?_, rfl, fun next =>
      ⟨_, (items?_test rfl).trans (by simp [numbered, items?]), .test _⟩⟩
    rw [String.toList_append]
    exact tokens?_column_append column behind (by decide)
  holds bound after row := by
    simp only [Test.truthAmid, Operand.value]
    cases row name <;> rfl

/-- A column of numbers that holds one of some values. -/
def ofNumbers (name : String) (column : isColumn name = true) (values : List Int) : Phrase tables where
  text := (Condition.ofNumbers name values false).text
  params := (Condition.ofNumbers name values false).params
  truth row := (Condition.ofNumbers name values false).truth (row name)
  test := (Condition.ofNumbers name values false).test
  conjoins := by
    rw [← funext (Condition.tests_eq rfl)]
    exact Condition.conjoins_text _ column fun _ => Condition.ne_of_mem_parts
  holds bound after row := by
    have truths := Condition.allTruth_tests (.ofNumbers name values false) tables row bound after fun _ =>
      Condition.ne_of_mem_parts
    rw [Condition.tests_eq rfl] at truths
    exact (both_true _).symm.trans truths

/-- An operand is looked up in a column of a table, in the rows where a phrase holds. -/
def lookup (operand column table short : String) (start : String)
    (ends : ∀ c ∈ (quoting false start.toList).getLast?, Loose c)
    (cut : tokens? start.toList = some [.operand (.column operand), .within, .opening, .select,
      .operand (.column column), .source, .operand (.column table), .operand (.column short), .such])
    (phrase : Phrase tables) : Phrase tables where
  text := start ++ phrase.text ++ ")"
  params := phrase.params
  truth row := among (row operand) (((tables table short).filter (phrase.truth · == some true)).map (· column))
  test next := .lookup (.column operand) column table short (.one (.one (phrase.test next)))
  conjoins := phrase.conjoins.groups.closed start (.lookup (.column operand) column table short) ends cut
    (fun _ => rfl) (fun _ _ => rfl) rfl
  holds bound after row := by
    simp only [Test.truthAmid, Disjunction.truthAmid, Conjunction.truthAmid, phrase.holds, Operand.value]

theorem truths (phrases : List (Phrase tables)) (bound after : List Int) (row : Row) :
    (testsFrom (·.params.length) test bound.length phrases).map
        (·.truthAmid tables (bound ++ phrases.flatMap params ++ after) row) = phrases.map (·.truth row) :=
  truths_testsFrom (fun phrase _ bound after => phrase.holds bound after row) bound after

/-- Some alternatives. -/
def any (first : Phrase tables) (rest : List (Phrase tables)) : Phrase tables where
  text := "(" ++ " OR ".intercalate ((first :: rest).map text) ++ ")"
  params := (first :: rest).flatMap params
  truth row := ((first :: rest).map (·.truth row)).foldr Condition.either (some false)
  test next := .bracketed (Disjunction.orElse (.one (.one (first.test next)))
    (testsFrom (·.params.length) test (next + first.params.length) rest))
  conjoins := by
    rw [List.flatMap_cons, List.length_append, List.length_flatMap]
    exact (first.conjoins.groups.any fun phrase _ => phrase.conjoins).bracketed
  holds bound after row := by
    have here := first.holds bound (rest.flatMap params ++ after) row
    have others := truths rest (bound ++ first.params) after row
    rw [List.length_append] at others
    simp only [List.append_assoc] at here others
    simp only [Test.truthAmid, Disjunction.truth_orElse, Disjunction.truthAmid, Conjunction.truthAmid, anyTruth,
      List.flatMap_cons, List.map_cons, List.foldr_cons, List.append_assoc, here, others]

section Simp

variable (name : String) (column : isColumn name = true) (least : Int) (first : Phrase tables)
  (rest : List (Phrase tables)) (row : Row)

@[simp]
theorem text_atLeast : (atLeast name column least : Phrase tables).text = name ++ " >= ?" := rfl

@[simp]
theorem params_atLeast : (atLeast name column least : Phrase tables).params = [least] := rfl

@[simp]
theorem text_zero : (zero name column : Phrase tables).text = name ++ " = 0" := rfl

@[simp]
theorem params_zero : (zero name column : Phrase tables).params = [] := rfl

@[simp]
theorem truth_zero : (zero name column : Phrase tables).truth row = (row name).map (· == 0) := rfl

@[simp]
theorem text_any : (any first rest).text = "(" ++ " OR ".intercalate ((first :: rest).map text) ++ ")" := rfl

@[simp]
theorem params_any : (any first rest).params = (first :: rest).flatMap params := rfl

@[simp]
theorem truth_any : (any first rest).truth row =
    ((first :: rest).map (·.truth row)).foldr Condition.either (some false) := rfl

end Simp

/-- Phrases with `AND` between them. -/
theorem read_all (first : Phrase tables) (rest : List (Phrase tables)) :
    placeholders (" AND ".intercalate ((first :: rest).map text)) = some ((first :: rest).flatMap params).length ∧
      ∃ reading, read (" AND ".intercalate ((first :: rest).map text)) = some reading ∧
        ∀ row, reading.truthAmid tables ((first :: rest).flatMap params) row =
          ((first :: rest).map (·.truth row)).foldr Condition.both (some true) := by
  have all := first.conjoins.all fun (phrase : Phrase tables) (_ : phrase ∈ rest) => phrase.conjoins
  rw [List.map_cons, List.flatMap_cons, List.length_append, List.length_flatMap]
  refine ⟨all.placeholders_eq, _, all.read_eq rfl, fun row => ?_⟩
  have here := first.holds [] (rest.flatMap params) row
  have others := truths rest first.params [] row
  rw [List.nil_append, List.length_nil] at here
  rw [List.append_nil] at others
  rw [Disjunction.truthAmid, Conjunction.truth_followedBy, Conjunction.truthAmid, here, allTruth, Nat.zero_add]
  exact congrArg (fun truths : List (Option Bool) => Condition.both _ (truths.foldr Condition.both _)) others

end Phrase

end Sql

/-- The text of a clause is true in the rows of a table that are to be selected, and false in the others. -/
structure Clause.Means {α : Type} (clause : Clause) (tables : Tables) (cells : α → Sql.Row) (selects : α → Bool)
    (rows : List α) : Prop where
  placeholders : Sql.placeholders clause.text = some clause.params.length
  reading : ∃ reading, Sql.read clause.text = some reading ∧
    ∀ row ∈ rows, reading.truthAmid tables clause.params (cells row) = some (selects row)

namespace Clause

/-- The database finds the rows in which the text is true, unless there are too many parameters. -/
theorem Means.exists_reading {α : Type} {clause : Clause} {tables : Tables} {cells : α → Sql.Row} {selects : α → Bool}
    {rows : List α} (means : clause.Means tables cells selects rows) :
    ∃ reading, Sql.read clause.text = some reading ∧
      clause.find selects rows =
        if clause.params.length ≤ parameterLimit then
          .ok (rows.filter fun row => reading.truthAmid tables clause.params (cells row) == some true)
        else .error .database := by
  obtain ⟨reading, read, truths⟩ := means.reading
  have selected : rows.filter (fun row => reading.truthAmid tables clause.params (cells row) == some true) =
      rows.filter selects := by
    refine List.filter_congr fun row member => ?_
    rw [truths row member]
    cases selects row <;> rfl
  exact ⟨reading, read, by rw [selected]; rfl⟩

section Conditions

variable {α : Type} {tables : Tables} {cells : α → Sql.Row} {rows : List α} {field : String}

theorem means_of_phrases {clause : Clause} {selects : α → Bool} (first : Phrase tables) (rest : List (Phrase tables))
    (text : clause.text = " AND ".intercalate ((first :: rest).map Phrase.text))
    (params : clause.params = (first :: rest).flatMap Phrase.params)
    (truth : ∀ row ∈ rows,
      ((first :: rest).map (·.truth (cells row))).foldr Condition.both (some true) = some (selects row)) :
    clause.Means tables cells selects rows where
  placeholders := by
    rw [text, params]
    exact (Phrase.read_all first rest).1
  reading := by
    obtain ⟨reading, read, truths⟩ := (Phrase.read_all first rest).2
    rw [text, params]
    exact ⟨reading, read, fun row member => (truths _).trans (truth row member)⟩

/-- On a cell that is not null, a condition on numbers is true or false. -/
theorem truth_ofNumbers_eq (field : String) (values : List Int) (content : Int) :
    (Condition.ofNumbers field values false).truth (some content) =
      some ((Condition.ofNumbers field values false).selects (some content)) := by
  rw [Condition.selects, Condition.truth_ofNumbers]
  cases decide (content ∈ values) <;> rfl

theorem both_some (left right : Bool) : Condition.both (some left) (some right) = some (left && right) := by
  cases left <;> cases right <;> rfl

/-- A chunk of identifiers is looked for in a column. -/
theorem ofCondition_means (column : isColumn field = true) (values : List Int) {cell : α → Int}
    (held : ∀ row ∈ rows, cells row field = some (cell row)) :
    (ofCondition (.ofNumbers field values false)).Means tables cells
      (fun row => (Condition.ofNumbers field values false).selects (some (cell row))) rows := by
  refine means_of_phrases (.ofNumbers field column values) [] rfl ?_ fun row member => ?_
  · exact (List.append_nil _).symm
  · rw [← truth_ofNumbers_eq, ← held row member]
    exact both_true _

/-- A chunk of identifiers is looked for in rows from a severity upward. -/
theorem ofSeverity_means (column : isColumn field = true) (least : Severity) (values : List Int)
    {severity cell : α → Int} (grave : ∀ row ∈ rows, cells row "severity" = some (severity row))
    (held : ∀ row ∈ rows, cells row field = some (cell row)) :
    (ofSeverity least (.ofNumbers field values false)).Means tables cells
      (fun row => decide ((least.level : Int) ≤ severity row) &&
        (Condition.ofNumbers field values false).selects (some (cell row))) rows := by
  refine means_of_phrases (.atLeast "severity" (by decide +kernel) least.level)
    [.ofNumbers field column values] ?_ ?_ fun row member => ?_
  · rfl
  · exact congrArg (_ :: ·) (List.append_nil _).symm
  · have severe : ((cells row "severity").map fun content => decide ((least.level : Int) ≤ content)) =
        some (decide ((least.level : Int) ≤ severity row)) := by rw [grave row member, Option.map_some]
    rw [← both_some, ← severe, ← truth_ofNumbers_eq, ← held row member]
    exact congrArg (Condition.both _) (both_true _)

end Conditions

end Clause

namespace Database

section Triggers

/-- The row of a trigger, as its columns are written where triggers are asked for by their names. -/
def triggerCells (entry : Int × TriggerRow) : Sql.Row
  | "t.trigger_id" => some entry.1
  | "t.priority" => some entry.2.severity
  | "t.suppressed" => some (if entry.2.suppressed then 1 else 0)
  | _ => none

/-- The rows of a table that says which triggers belong to what. -/
def ownerRows (database : Database) (owners : TriggerRow → Std.ExtTreeSet Int) (key column : String) : List Sql.Row :=
  database.triggers.toList.flatMap fun (trigger, row) => (owners row).toList.map fun owner name =>
    if name = key then some trigger else if name = column then some owner else none

/-- The tables of the hosts and groups that triggers belong to. -/
def ownerTables (database : Database) : Tables := fun table short =>
  if table = "trigger_hosts" then
    database.ownerRows TriggerRow.hosts (short ++ ".trigger_id") (short ++ ".host_id")
  else if table = "trigger_groups" then
    database.ownerRows TriggerRow.groups (short ++ ".trigger_id") (short ++ ".group_id")
  else []

variable {database : Database}

/-- To look a trigger up in such a table is to ask whether it belongs to something that is selected. -/
theorem among_ownerRows {owners : TriggerRow → Std.ExtTreeSet Int} {key column : String} (differ : column ≠ key)
    {entry : Int × TriggerRow} (member : entry ∈ database.triggers.toList) {truth : Option Int → Option Bool}
    {selects : Int → Bool} (decided : ∀ content, truth (some content) = some (selects content)) :
    among (some entry.1) (((database.ownerRows owners key column).filter fun row =>
      truth (row column) == some true).map (· key)) = some ((owners entry.2).any selects) := by
  let owning := database.triggers.toList.flatMap fun other => ((owners other.2).toList.filter selects).map fun _ => other.1
  have looked_up : (((database.ownerRows owners key column).filter fun row =>
      truth (row column) == some true).map (· key)) = owning.map some := by
    have chosen (owner : Int) : (some (selects owner) == some true) = selects owner := by
      cases selects owner <;> rfl
    simp only [owning, ownerRows, List.filter_flatMap, List.filter_map, List.map_flatMap, List.map_map,
      Function.comp_def, if_neg differ, if_true, decided, chosen]
  have owned : owning.contains entry.1 = (owners entry.2).any selects := by
    rw [Bool.eq_iff_iff, any_eq_true_iff]
    simp only [owning, List.contains_iff_mem, List.mem_flatMap, List.mem_map, List.mem_filter,
      Std.ExtTreeSet.mem_toList]
    constructor
    · rintro ⟨other, listed, owner, ⟨owns, chosen⟩, same⟩
      -- A trigger has only one row.
      rw [Std.ExtTreeMap.mem_toList_iff_getElem?_eq_some] at member listed
      rw [same, member] at listed
      exact ⟨owner, Option.some.inj listed ▸ owns, chosen⟩
    · rintro ⟨owner, owns, chosen⟩
      exact ⟨entry, member, owner, ⟨owns, chosen⟩, rfl⟩
  rw [looked_up, ← owned]
  by_cases none_owning : owning = []
  · rw [none_owning]
    rfl
  · exact Condition.among_values _ none_owning

theorem isColumn_column (naming : Naming) : isColumn naming.column = true := by
  cases naming <;> decide +kernel

/-- How the text starts that finds the triggers of some hosts. -/
def hostStart : String := "t.trigger_id IN (SELECT th.trigger_id FROM trigger_hosts th WHERE "

theorem ends_hostStart : ∀ c ∈ (quoting false hostStart.toList).getLast?, Loose c := by decide +kernel

theorem tokens?_hostStart : tokens? hostStart.toList = some [.operand (.column "t.trigger_id"), .within, .opening,
    .select, .operand (.column "th.trigger_id"), .source, .operand (.column "trigger_hosts"),
    .operand (.column "th"), .such] := by decide +kernel

/-- How the text starts that finds the triggers of some groups. -/
def groupStart : String := "t.trigger_id IN (SELECT tg.trigger_id FROM trigger_groups tg WHERE "

theorem ends_groupStart : ∀ c ∈ (quoting false groupStart.toList).getLast?, Loose c := by decide +kernel

theorem tokens?_groupStart : tokens? groupStart.toList = some [.operand (.column "t.trigger_id"), .within, .opening,
    .select, .operand (.column "tg.trigger_id"), .source, .operand (.column "trigger_groups"),
    .operand (.column "tg"), .such] := by decide +kernel

/-- What a condition on names says of triggers. -/
def namingPhrase (database : Database) (numbers : List Int) (naming : Naming) : Phrase database.ownerTables :=
  let names := .ofNumbers naming.column (isColumn_column naming) numbers
  match naming with
  | .trigger => names
  | .host => .lookup "t.trigger_id" "th.trigger_id" "trigger_hosts" "th" hostStart ends_hostStart tokens?_hostStart names
  | .group =>
      .lookup "t.trigger_id" "tg.trigger_id" "trigger_groups" "tg" groupStart ends_groupStart tokens?_groupStart names

theorem text_namingPhrase (naming : Naming) (numbers : List Int) :
    (database.namingPhrase numbers naming).text =
      naming.text (Condition.ofNumbers naming.column numbers false).text := by
  cases naming <;> rfl

theorem params_namingPhrase (naming : Naming) (numbers : List Int) :
    (database.namingPhrase numbers naming).params = (Condition.ofNumbers naming.column numbers false).params := by
  cases naming <;> rfl

theorem truth_namingPhrase (naming : Naming) (numbers : List Int) {entry : Int × TriggerRow}
    (member : entry ∈ database.triggers.toList) :
    (database.namingPhrase numbers naming).truth (triggerCells entry) =
      some (namedBy entry.1 entry.2 (.ofNumbers naming.column numbers false) naming) := by
  cases naming with
  | trigger => exact Clause.truth_ofNumbers_eq "t.trigger_id" numbers entry.1
  | host =>
    have differ : "th.host_id" ≠ "th.trigger_id" := by decide
    exact among_ownerRows differ member fun content => Clause.truth_ofNumbers_eq "th.host_id" numbers content
  | group =>
    have differ : "tg.group_id" ≠ "tg.trigger_id" := by decide
    exact among_ownerRows differ member fun content => Clause.truth_ofNumbers_eq "tg.group_id" numbers content

/-- What a query says of severities and of suppressed triggers, and that one of its conditions on names holds. -/
def queryPhrases (database : Database) (query : TriggerQuery) (first : Naming × List Int)
    (rest : List (Naming × List Int)) : List (Phrase database.ownerTables) :=
  .atLeast "t.priority" (by decide +kernel) query.minSeverity.level ::
    ((if query.skipDependent then [.zero "t.suppressed" (by decide +kernel)] else []) ++
      [.any (database.namingPhrase first.2 first.1) (rest.map fun named => database.namingPhrase named.2 named.1)])

section Query

variable {query : TriggerQuery} {first : Naming × List Int} {rest : List (Naming × List Int)}

theorem text_clauseOf : (clauseOf query ((first :: rest).map namingCondition)).text =
    " AND ".intercalate ((database.queryPhrases query first rest).map Phrase.text) := by
  have alternatives : ((first :: rest).map namingCondition).map (fun named => named.1.text named.2.text) =
      ((first :: rest).map fun named => database.namingPhrase named.2 named.1).map Phrase.text := by
    rw [List.map_map, List.map_map]
    exact List.map_congr_left fun named _ => (text_namingPhrase named.1 named.2).symm
  have severe : "t.priority >= ?" = "t.priority" ++ " >= ?" := by decide +kernel
  have calm : " AND t.suppressed = 0" = " AND " ++ ("t.suppressed" ++ " = 0") := by decide +kernel
  have opening : " AND (" = " AND " ++ "(" := by decide +kernel
  change ("t.priority >= ?" ++ if query.skipDependent then " AND t.suppressed = 0" else "") ++ " AND (" ++
    " OR ".intercalate _ ++ ")" = _
  rw [alternatives, severe, calm, opening, queryPhrases]
  cases query.skipDependent
  · rw [if_neg Bool.false_ne_true, if_neg Bool.false_ne_true, String.append_empty]
    simp only [List.nil_append, List.map_cons, List.map_nil, Phrase.text_atLeast, Phrase.text_any,
      String.intercalate_cons_cons, String.intercalate_singleton, String.append_assoc]
  · rw [if_pos rfl, if_pos rfl]
    simp only [List.cons_append, List.nil_append, List.map_cons, List.map_nil, Phrase.text_atLeast, Phrase.text_zero,
      Phrase.text_any, String.intercalate_cons_cons, String.intercalate_singleton, String.append_assoc]

theorem params_clauseOf : (clauseOf query ((first :: rest).map namingCondition)).params =
    (database.queryPhrases query first rest).flatMap Phrase.params := by
  have alternatives : ((first :: rest).map namingCondition).flatMap (fun named => named.2.params) =
      ((first :: rest).map fun named => database.namingPhrase named.2 named.1).flatMap Phrase.params := by
    rw [List.flatMap_map, List.flatMap_map]
    exact List.flatMap_congr fun named _ => (params_namingPhrase named.1 named.2).symm
  change (query.minSeverity.level : Int) :: List.flatMap _ _ = _
  rw [alternatives, queryPhrases]
  cases query.skipDependent <;> simp

theorem truth_clauseOf {entry : Int × TriggerRow} (member : entry ∈ database.triggers.toList) :
    ((database.queryPhrases query first rest).map (·.truth (triggerCells entry))).foldr Condition.both (some true) =
      some (decide ((query.minSeverity.level : Int) ≤ entry.2.severity) &&
        !(query.skipDependent && entry.2.suppressed) &&
        ((first :: rest).map namingCondition).any fun (naming, condition) =>
          namedBy entry.1 entry.2 condition naming) := by
  let names := ((first :: rest).map namingCondition).map fun named => namedBy entry.1 entry.2 named.2 named.1
  have alternatives : ((first :: rest).map fun named => database.namingPhrase named.2 named.1).map
      (·.truth (triggerCells entry)) = names.map some := by
    simp only [names, List.map_map]
    exact List.map_congr_left fun named _ => truth_namingPhrase named.1 named.2 member
  have named : (Phrase.any (database.namingPhrase first.2 first.1)
      (rest.map fun named => database.namingPhrase named.2 named.1)).truth (triggerCells entry) =
      some (((first :: rest).map namingCondition).any fun (naming, condition) =>
        namedBy entry.1 entry.2 condition naming) := by
    rw [Phrase.truth_any]
    change ((((first :: rest).map fun named => database.namingPhrase named.2 named.1).map
      (·.truth (triggerCells entry))).foldr Condition.either (some false)) = _
    rw [alternatives, Condition.foldr_either, List.any_map]
    rfl
  have severe : (Phrase.atLeast "t.priority" (by decide +kernel) query.minSeverity.level :
      Phrase database.ownerTables).truth (triggerCells entry) =
      some (decide ((query.minSeverity.level : Int) ≤ entry.2.severity)) := rfl
  have calm : (Phrase.zero "t.suppressed" (by decide +kernel) : Phrase database.ownerTables).truth
      (triggerCells entry) = some !entry.2.suppressed := by
    rw [Phrase.truth_zero, triggerCells]
    cases entry.2.suppressed <;> rfl
  rw [queryPhrases]
  cases query.skipDependent
  · rw [if_neg Bool.false_ne_true, List.nil_append, List.map_cons, List.map_cons, List.map_nil, List.foldr_cons,
      List.foldr_cons, List.foldr_nil, both_true, named, severe, Clause.both_some, Bool.false_and, Bool.not_false,
      Bool.and_true]
  · rw [if_pos rfl, List.cons_append, List.nil_append, List.map_cons, List.map_cons, List.map_cons, List.map_nil,
      List.foldr_cons, List.foldr_cons, List.foldr_cons, List.foldr_nil, both_true, named, calm, severe,
      Clause.both_some, Clause.both_some, Bool.true_and, Bool.and_assoc]

/-- The clause of a query selects the triggers that the query wants. -/
theorem clauseOf_means :
    let conditions := (first :: rest).map namingCondition
    (clauseOf query conditions).Means database.ownerTables triggerCells
      (fun (key, row) =>
        decide ((query.minSeverity.level : Int) ≤ row.severity) && !(query.skipDependent && row.suppressed) &&
          conditions.any fun (naming, condition) => namedBy key row condition naming)
      database.triggers.toList :=
  Clause.means_of_phrases _ _ text_clauseOf params_clauseOf fun _ => truth_clauseOf

end Query

/-- A query that names something makes some conditions. -/
theorem exists_conditions {query : TriggerQuery} {made : List (Naming × Condition)}
    (kept : conditions query = .ok made) (names : query.isEmpty = false) :
    ∃ first rest, made = (first :: rest).map namingCondition := by
  have fits : query.FitsCells := by
    obtain ⟨_, triggers, kept⟩ := exists_ok_of_bind kept
    obtain ⟨_, hosts, kept⟩ := exists_ok_of_bind kept
    obtain ⟨_, groups, _⟩ := exists_ok_of_bind kept
    exact ⟨fits_of_cells triggers, fits_of_cells hosts, fits_of_cells groups⟩
  rw [conditions_eq fits] at kept
  obtain rfl := Except.ok.inj kept
  have some_named : query.named ≠ [] := by
    intro nothing
    have unnamed : query.isEmpty = true := by
      simp only [TriggerQuery.named, List.filter_eq_nil_iff, List.forall_mem_cons, IdSet.numbers, List.isEmpty_map,
        Std.ExtTreeSet.isEmpty_toList, Bool.not_eq_true, Bool.not_eq_false'] at nothing
      simp only [TriggerQuery.isEmpty, nothing, Bool.and_self]
    rw [unnamed] at names
    cases names
  obtain ⟨first, rest, same⟩ := List.exists_cons_of_ne_nil some_named
  exact ⟨first, rest, same ▸ rfl⟩

/-- The keys that a query wants are those of the rows in which its text is true. One with too many parameters is
refused. -/
theorem wantedKeys_reads {query : TriggerQuery} {made : List (Naming × Condition)}
    (kept : conditions query = .ok made) (names : query.isEmpty = false) :
    let clause := clauseOf query made
    Sql.placeholders clause.text = some clause.params.length ∧
      ∃ reading, Sql.read clause.text = some reading ∧
        database.wantedKeys query =
          if clause.params.length ≤ parameterLimit then
            .ok ((database.triggers.toList.filter fun entry =>
              reading.truthAmid database.ownerTables clause.params (triggerCells entry) == some true).map Prod.fst)
          else .error .database := by
  intro clause
  obtain ⟨first, rest, rfl⟩ := exists_conditions kept names
  have means : clause.Means database.ownerTables triggerCells _ database.triggers.toList := clauseOf_means
  obtain ⟨reading, read, found⟩ := means.exists_reading
  refine ⟨means.placeholders, reading, read, ?_⟩
  rw [wantedKeys, kept]
  change (Clause.find _ _ _ >>= _) = _
  rw [found]
  split <;> rfl

end Triggers

end Database

end ProblemBoard
