import ProblemBoard.Proofs.Cells
import ProblemBoard.Proofs.Phrases

/-! # Conditions in words

The text of a membership condition is a conjunction of tests on its column: look-ups in lists, comparisons with single
values and the question for a null, with brackets around alternatives. The placeholders are numbered along with the
parameters, so that a test looks up what its part asks for and has the truth of the part.
-/

namespace ProblemBoard.Condition

open Sql

variable {field : String} {negated : Bool}

section Parts

/-- The tokens of a list of placeholders. -/
def Part.listTokens : List Int → List Token
  | [] => []
  | _ :: rest => .placeholder :: rest.flatMap fun _ => [.comma, .placeholder]

def Part.tokens (field : String) (negated : Bool) : Part → List Token
  | one _ => [.operand (.column field), .relation (if negated then .unequal else .equal), .placeholder]
  | several values =>
      .operand (.column field) ::
        ((if negated then [.not, .within, .opening] else [.within, .opening]) ++ (listTokens values ++ [.closing]))
  | null => .operand (.column field) :: .is :: if negated then [.not, .null] else [.null]

/-- The test that a part is, its parameters numbered from a number on. -/
def Part.test (field : String) (negated : Bool) (next : Nat) : Part → Test
  | one _ => .comparison (if negated then .unequal else .equal) (.column field) (.parameter next)
  | several values => .membership negated (.column field) ((List.range' next values.length).map .parameter)
  | null => .null negated (.column field)

theorem tokens?_list (first : Int) (rest : List Int) :
    tokens? (",".intercalate ((first :: rest).map fun _ => "?")).toList = some (Part.listTokens (first :: rest)) := by
  have mark : tokens? "?".toList = some [.placeholder] := by decide
  have comma : tokens? ",".toList = some [.comma] := by decide
  rw [String.toList_intercalate, List.map_map]
  exact tokens?_intercalate (String.toList ∘ fun _ => "?") (fun _ => [.placeholder]) (by decide) comma fun _ _ => mark

theorem Part.tokens?_text (column : isColumn field = true) {part : Part} (written : part ≠ several []) :
    tokens? (part.text field negated).toList = some (part.tokens field negated) := by
  match part, written with
  | one _, _ =>
    rw [Part.text, String.toList_append]
    cases negated <;> exact tokens?_column_append column (by decide) (by decide)
  | several (first :: rest), _ =>
    have listed : tokens? ((",".intercalate ((first :: rest).map fun _ => "?")).toList ++ ")".toList) =
        some (listTokens (first :: rest) ++ [.closing]) :=
      tokens?_before (by decide) (by decide) (tokens?_list first rest)
    rw [Part.text, String.toList_append, String.toList_append, String.toList_append, List.append_assoc,
      List.append_assoc]
    cases negated with
    | false =>
      have opened : tokens? " IN (".toList = some [.within, .opening] := by decide
      exact tokens?_separated (by decide) opened (tokens?_column column) listed
    | true =>
      have opened : tokens? " NOT IN (".toList = some [.not, .within, .opening] := by decide
      exact tokens?_separated (by decide) opened (tokens?_column column) listed
  | null, _ =>
    rw [Part.text, String.toList_append]
    cases negated <;> exact tokens?_column_append column (by decide) (by decide)

theorem Part.count_tokens {part : Part} : (part.tokens field negated).count .placeholder = part.params.length := by
  have listed (values : List Int) : (listTokens values).count .placeholder = values.length := by
    cases values with
    | nil => rfl
    | cons first rest =>
      have others : (rest.flatMap fun _ => [Token.comma, .placeholder]).count .placeholder = rest.length := by
        induction rest with
        | nil => rfl
        | cons second rest step => simp [step]
      simp [listTokens, others]
  cases part with
  | one value => cases negated <;> rfl
  | several values => cases negated <;> simp [tokens, params, listed]
  | null => cases negated <;> rfl

theorem list?_numbered (next : Nat) (first : Int) (rest : List Int) :
    list? (numbered next (Part.listTokens (first :: rest) ++ [.closing])) =
      some ((List.range' next (rest.length + 1)).map .parameter, []) := by
  induction rest generalizing next first with
  | nil => rfl
  | cons second rest step =>
    have others := step (next + 1) second
    simp only [Part.listTokens, List.flatMap_cons, List.cons_append, List.nil_append, numbered, list?] at others ⊢
    rw [others]
    rfl

/-- A part is read as one test. -/
theorem Part.items?_tokens (next : Nat) {part : Part} (written : part ≠ several []) :
    items? (numbered next (part.tokens field negated)) = some [.test (part.test field negated next)] := by
  have single : test? (numbered next (part.tokens field negated)) = some (part.test field negated next, []) := by
    match part, written with
    | one _, _ => rfl
    | several (first :: rest), _ =>
      cases negated <;> simp [tokens, numbered, test?, list?_numbered, test]
    | null, _ => cases negated <;> rfl
  rw [items?_test single]
  simp [items?]

end Parts

section Joined

/-- The tests that some parts are, their parameters numbered from a number on. -/
def partTests (field : String) (negated : Bool) (next : Nat) (parts : List Part) : List Test :=
  testsFrom (·.params.length) (fun part next => part.test field negated next) next parts

theorem partTests_nil (next : Nat) : partTests field negated next [] = [] := rfl

theorem partTests_cons (next : Nat) (part : Part) (rest : List Part) :
    partTests field negated next (part :: rest) =
      part.test field negated next :: partTests field negated (next + part.params.length) rest := rfl

theorem mem_partTests {next : Nat} {parts : List Part} {test : Test}
    (member : test ∈ partTests field negated next parts) :
    ∃ part ∈ parts, ∃ start, start + part.params.length ≤ next + (parts.flatMap Part.params).length ∧
      test = part.test field negated start := by
  induction parts generalizing next with
  | nil => cases member
  | cons first rest step =>
    rw [List.flatMap_cons, List.length_append]
    rw [partTests_cons] at member
    rcases List.mem_cons.mp member with rfl | later
    · exact ⟨first, List.mem_cons_self, next, by omega, rfl⟩
    · obtain ⟨part, found, start, within, rfl⟩ := step later
      exact ⟨part, List.mem_cons_of_mem _ found, start, by omega, rfl⟩

theorem leaves_partTests (field : String) (negated : Bool) (next : Nat) (parts : List Part) :
    (partTests field negated next parts).flatMap Test.leaves = partTests field negated next parts := by
  induction parts generalizing next with
  | nil => rfl
  | cons first rest step =>
    have leaf : (first.test field negated next).leaves = [first.test field negated next] := by cases first <;> rfl
    rw [partTests_cons, List.flatMap_cons, step, leaf]
    rfl

end Joined

section Truth

/-- The parameters at the places of some values. -/
theorem getElem?_range' (bound values after : List Int) :
    (List.range' bound.length values.length).map ((bound ++ values ++ after)[·]?) = values.map some := by
  apply List.ext_getElem
  · simp
  · intro i _ within
    rw [List.length_map] at within
    simp [List.getElem?_append_right, List.getElem?_append_left within, within]

theorem among_null (values : List Int) :
    among none (values.map some) = if values.isEmpty then some false else none := by
  induction values with
  | nil => rfl
  | cons first rest step =>
    change either none (among none (rest.map some)) = none
    rw [step]
    cases rest <;> rfl

/-- Whether a cell is among some values is unknown of a null. -/
theorem among_values (cell : Option Int) {values : List Int} (written : values ≠ []) :
    among cell (values.map some) = cell.map (values.contains ·) := by
  cases cell with
  | none => rw [among_null, List.isEmpty_eq_false_iff.mpr written]; rfl
  | some content =>
    have known : (values.map some).map (Relation.equal.truth (some content)) =
        (values.map (content == ·)).map some := by
      rw [List.map_map, List.map_map]
      rfl
    rw [among, known, foldr_either, List.any_map, Option.map_some, List.contains_eq_any_beq]
    rfl

/-- The truth of a part in a row is that of its test, if the parameters hold its values at its place. -/
theorem Part.truth_test (field : String) (negated : Bool) (tables : Tables) (row : Row) {part : Part}
    (written : part ≠ several []) (bound after : List Int) :
    (part.test field negated bound.length).truthAmid tables (bound ++ part.params ++ after) row =
      part.truth negated (row field) := by
  cases part with
  | one value =>
    have here : (bound ++ [value] ++ after)[bound.length]? = some value := by simp
    simp only [test, Test.truthAmid, Operand.value, params, here, truth]
    cases row field with
    | none => cases negated <;> rfl
    | some content => cases negated <;> simp [Relation.truth, Relation.holds, bne]
  | several values =>
    have places : ((List.range' bound.length values.length).map Operand.parameter).map
        (·.value row (bound ++ values ++ after)) = values.map some := by
      rw [List.map_map]
      exact getElem?_range' bound values after
    have some_value : values ≠ [] := fun empty => written (empty ▸ rfl)
    rw [test, Test.truthAmid, params, places, Operand.value, among_values _ some_value, Option.map_map, truth]
    rfl
  | null => rfl

theorem truths_partTests (field : String) (negated : Bool) (tables : Tables) (row : Row) (bound after : List Int)
    {parts : List Part} (written : ∀ part ∈ parts, part ≠ .several []) :
    (partTests field negated bound.length parts).map
        (·.truthAmid tables (bound ++ parts.flatMap Part.params ++ after) row) =
      parts.map (Part.truth negated (row field)) :=
  truths_testsFrom (fun part member => Part.truth_test field negated tables row (written part member)) bound after

end Truth

section Phrases

/-- The test in place of no parts at all. -/
def constant (negated : Bool) : Test := .comparison .equal (.number 1) (.number (if negated then 1 else 0))

theorem conjoins_constant : Conjoins (if negated then "1=1" else "1=0") 0 fun _ => [constant negated] := by
  refine ⟨[.operand (.number 1), .relation .equal, .operand (.number (if negated then 1 else 0))], ?_, rfl, fun next =>
    ⟨[.test (constant negated)], ?_, .test _⟩⟩
  · cases negated <;> decide
  · exact (items?_test rfl).trans (by simp [numbered, items?, constant])

theorem conjoins_part (column : isColumn field = true) {part : Part} (written : part ≠ .several []) :
    Conjoins (part.text field negated) part.params.length fun next => [part.test field negated next] :=
  ⟨part.tokens field negated, Part.tokens?_text column written, Part.count_tokens, fun next =>
    ⟨_, Part.items?_tokens next written, .test _⟩⟩

theorem sum_params (parts : List Part) :
    (parts.map (·.params.length)).sum = (parts.flatMap Part.params).length := by
  rw [List.length_flatMap]

theorem conjoins_all (column : isColumn field = true) (first : Part) (rest : List Part)
    (written : ∀ part ∈ first :: rest, part ≠ .several []) :
    Conjoins (" AND ".intercalate ((first :: rest).map (Part.text field negated)))
      ((first :: rest).flatMap Part.params).length (partTests field negated · (first :: rest)) := by
  rw [List.forall_mem_cons] at written
  rw [List.flatMap_cons, List.length_append, ← sum_params]
  exact (conjoins_part column written.1).all fun part member => conjoins_part column (written.2 part member)

theorem conjoins_any (column : isColumn field = true) (first : Part) (rest : List Part)
    (written : ∀ part ∈ first :: rest, part ≠ .several []) :
    Conjoins ("(" ++ " OR ".intercalate ((first :: rest).map (Part.text field negated)) ++ ")")
      ((first :: rest).flatMap Part.params).length fun next => [.bracketed (Disjunction.orElse
        (.one (.one (first.test field negated next)))
        (partTests field negated (next + first.params.length) rest))] := by
  rw [List.forall_mem_cons] at written
  rw [List.flatMap_cons, List.length_append, ← sum_params]
  exact ((conjoins_part column written.1).groups.any fun part member =>
    conjoins_part column (written.2 part member)).bracketed

end Phrases

section Texts

/-- The tests that a condition is a conjunction of, its parameters numbered from a number on. Alternatives are one test
in brackets. -/
def tests (condition : Condition) (next : Nat) : List Test :=
  match partTests condition.field condition.negated next condition.parts with
  | [] => [constant condition.negated]
  | [test] => [test]
  | first :: rest =>
      if condition.negated then first :: rest else [.bracketed (Disjunction.orElse (.one (.one first)) rest)]

/-- The text of a condition is the conjunction of its tests. -/
theorem conjoins_text (condition : Condition) (column : isColumn condition.field = true)
    (written : ∀ part ∈ condition.parts, part ≠ .several []) :
    Conjoins condition.text condition.params.length condition.tests := by
  change Conjoins condition.text (condition.parts.flatMap Part.params).length fun next => condition.tests next
  unfold text tests
  match parts : condition.parts with
  | [] => exact conjoins_constant
  | [part] =>
    rw [List.flatMap_singleton]
    exact conjoins_part column (written part (parts ▸ List.mem_cons_self))
  | first :: second :: rest =>
    cases condition.negated with
    | true => exact conjoins_all column first (second :: rest) (parts ▸ written)
    | false => exact conjoins_any column first (second :: rest) (parts ▸ written)

/-- The tests of a condition hold in a row if the condition is true at the cell of the row. -/
theorem allTruth_tests (condition : Condition) (tables : Tables) (row : Row) (bound after : List Int)
    (written : ∀ part ∈ condition.parts, part ≠ .several []) :
    allTruth tables (bound ++ condition.params ++ after) row (condition.tests bound.length) =
      condition.truth (row condition.field) := by
  have truths := truths_partTests condition.field condition.negated tables row bound after written
  rw [tests, truth, ← truths, params]
  rcases condition.parts with _ | ⟨first, _ | ⟨second, rest⟩⟩
  · cases condition.negated <;> rfl
  · simp only [partTests_cons, partTests_nil, allTruth, List.map_cons, List.map_nil, List.foldr_cons, List.foldr_nil,
      both_true, either_false, ite_self]
  · cases condition.negated with
    | true => rfl
    | false =>
      simp only [partTests_cons, allTruth, List.map_cons, List.map_nil, List.foldr_cons, List.foldr_nil, both_true,
        Test.truthAmid, Disjunction.truth_orElse, Disjunction.truthAmid, Conjunction.truthAmid, anyTruth,
        Bool.false_eq_true, if_false]

theorem leaves_tests (condition : Condition) (next : Nat) :
    (condition.tests next).flatMap Test.leaves =
      if condition.parts = [] then [constant condition.negated]
      else partTests condition.field condition.negated next condition.parts := by
  have leaves := leaves_partTests condition.field condition.negated next condition.parts
  rw [tests]
  match parts : condition.parts with
  | [] => rfl
  | [part] =>
    rw [parts] at leaves
    exact leaves
  | first :: second :: rest =>
    rw [parts] at leaves
    rw [if_neg (List.cons_ne_nil _ _)]
    refine Eq.trans ?_ leaves
    cases condition.negated with
    | true => rfl
    | false =>
      simp only [partTests_cons, List.flatMap_singleton, Test.leaves, Bool.false_eq_true, if_false,
        Disjunction.leaves_orElse]
      rfl

end Texts

end ProblemBoard.Condition
