import ProblemBoard.Proofs.Wording

/-! # Membership

A condition on numbers selects the rows whose number is among the given ones, or is not, wherever its text stands among
other conjuncts. A condition on identifiers does so for references, a null standing for zero, except that the opposite
of a condition passes over the rows without a reference.
-/

namespace ProblemBoard.Condition

open Sql

section Chunks

variable {condition : Condition}

/-- The parts of a condition: single values, lists of bounded length and the question for a null. -/
theorem mem_parts {part : Part} (member : part ∈ condition.parts) :
    (∃ value, part = .one value) ∨
      (∃ list, part = .several list ∧ 2 ≤ list.length ∧ list.length ≤ chunkSize) ∨
      part = .null ∧ condition.withNull = true := by
  rw [parts, List.mem_append] at member
  rcases member with listed | asked
  · obtain ⟨chunk, member, rfl⟩ := List.mem_map.mp listed
    obtain ⟨written, bounded⟩ := length_of_mem_chunks member
    rcases chunk with _ | ⟨value, _ | ⟨second, rest⟩⟩
    · exact absurd rfl written
    · exact .inl ⟨value, rfl⟩
    · exact .inr (.inl ⟨value :: second :: rest, rfl, by simp, bounded⟩)
  · split at asked
    · next wanted => exact .inr (.inr ⟨List.mem_singleton.mp asked, wanted⟩)
    · cases asked

theorem ne_of_mem_parts {part : Part} (member : part ∈ condition.parts) : part ≠ .several [] := by
  rcases mem_parts member with ⟨value, rfl⟩ | ⟨list, rfl, long, _⟩ | ⟨rfl, _⟩
  · exact nofun
  · rintro ⟨⟩
    cases long
  · exact nofun

end Chunks

section Cells

theorem foldr_both (truths : List Bool) : (truths.map some).foldr both (some true) = some (truths.all id) := by
  induction truths with
  | nil => rfl
  | cons first rest step =>
    rw [List.map_cons, List.foldr_cons, step, List.all_cons]
    cases first <;> cases rest.all id <;> rfl

/-- At a value, a condition is true or false: whether the value is among its values, or is not. -/
theorem truth_some (condition : Condition) (content : Int) :
    condition.truth (some content) = some (condition.values.contains content != condition.negated) := by
  obtain ⟨field, negated, values, withNull⟩ := condition
  have truths : (parts ⟨field, negated, values, withNull⟩).map (Part.truth negated (some content)) =
      ((chunks values).map (·.contains content != negated) ++ if withNull then [negated] else []).map some := by
    rw [parts, List.map_append, List.map_append, List.map_map, List.map_map]
    congr 1
    · exact List.map_congr_left fun chunk _ => truth_ofChunk negated chunk
    · cases withNull <;> simp [Part.truth]
  have hit : values.contains content = (chunks values).any (·.contains content) := by
    conv_lhs => rw [← flatten_chunks values, List.contains_flatten]
  simp only [truth, truths, hit]
  cases negated with
  | false =>
    rw [if_neg Bool.false_ne_true, foldr_either, List.any_append, List.any_map]
    cases withNull <;> simp
  | true =>
    rw [if_pos rfl, foldr_both, List.all_append, List.all_map]
    cases withNull <;> simp [List.all_eq_not_any_not]

theorem foldr_none {α : Type} {combine : Option Bool → Option Bool → Option Bool}
    (again : ∀ last, combine none (combine none last) = combine none last) (list : List α) (last : Option Bool) :
    (list.map fun _ => none).foldr combine last = if list.isEmpty then last else combine none last := by
  induction list with
  | nil => rfl
  | cons first rest step =>
    rw [List.map_cons, List.foldr_cons, step]
    cases rest with
    | nil => rfl
    | cons => exact again last

/-- At a null, a condition is unknown, unless it asks for a null or has no parts at all. -/
theorem truth_none (condition : Condition) :
    condition.truth none =
      if condition.withNull then some !condition.negated
      else if condition.values.isEmpty then some condition.negated
      else none := by
  obtain ⟨field, negated, values, withNull⟩ := condition
  have unknown (chunk : List Int) : (Part.ofChunk chunk).truth negated none = none := by
    unfold Part.ofChunk
    split <;> rfl
  have truths : (parts ⟨field, negated, values, withNull⟩).map (Part.truth negated none) =
      (chunks values).map (fun _ => none) ++ if withNull then [some !negated] else [] := by
    rw [parts, List.map_append, List.map_map]
    congr 1
    · exact List.map_congr_left fun chunk _ => unknown chunk
    · cases withNull <;> simp [Part.truth]
  have empty : (chunks values).isEmpty = values.isEmpty := by
    cases values <;> simp [chunks]
  have both_again (last : Option Bool) : both none (both none last) = both none last := by
    rcases last with _ | _ | _ <;> rfl
  have either_again (last : Option Bool) : either none (either none last) = either none last := by
    rcases last with _ | _ | _ <;> rfl
  simp only [truth, truths, List.foldr_append, foldr_none both_again, foldr_none either_again, empty]
  cases negated <;> cases withNull <;> cases values <;> rfl

end Cells

section Readings

variable {values : List Int} {row : Row}

/-- The conjunction that the text of a condition is read as, and its truth. -/
theorem exists_reading (condition : Condition) (column : isColumn condition.field = true) :
    ∃ conjunction : Conjunction, Sql.read condition.text = some (.one conjunction) ∧
      conjunction.leaves = (condition.tests 0).flatMap Test.leaves ∧
      ∀ tables row, conjunction.truthAmid tables condition.params row = condition.truth (row condition.field) := by
  have written (part : Part) (member : part ∈ condition.parts) : part ≠ .several [] := ne_of_mem_parts member
  have conjoins := conjoins_text condition column written
  have some_test : condition.tests 0 ≠ [] := by
    rw [tests]
    split
    · exact List.cons_ne_nil _ _
    · exact List.cons_ne_nil _ _
    · split <;> exact List.cons_ne_nil _ _
  obtain ⟨first, rest, same⟩ := List.exists_cons_of_ne_nil some_test
  refine ⟨(Conjunction.one first).followedBy rest, conjoins.read_eq same, ?_, fun tables row => ?_⟩
  · rw [same, Conjunction.leaves_followedBy]
    rfl
  · have truth_all := allTruth_tests condition tables row [] [] written
    rw [List.length_nil, List.nil_append, List.append_nil, same] at truth_all
    rw [Conjunction.truth_followedBy, ← truth_all]
    rfl

/-- A text that says of a column whether it holds one of some values, or none of them. -/
structure MeansMembership (field : String) (values : List Int) (negated : Bool) (text : String) (params : List Int) :
    Prop where
  ascending : params.Pairwise (· < ·)
  mem_params : ∀ value, value ∈ params ↔ value ∈ values
  placeholders_text : placeholders text = some params.length
  /-- Single values are compared and longer lists are bounded; without values the text is a constant. -/
  leaves : ∃ reading, Sql.read text = some reading ∧ ∀ test ∈ reading.leaves,
    (∃ index < params.length,
      test = .comparison (if negated then .unequal else .equal) (.column field) (.parameter index)) ∨
    (∃ start count, 2 ≤ count ∧ count ≤ 950 ∧ start + count ≤ params.length ∧
      test = .membership negated (.column field) ((List.range' start count).map .parameter)) ∨
    (params = [] ∧ test = .comparison .equal (.number 1) (.number (if negated then 1 else 0)))
  /-- On its own, the text tells the values apart from all others. -/
  truth_alone : ∃ reading, Sql.read text = some reading ∧ ∀ row content, row field = some content →
    reading.truth row params = some (decide (content ∈ values) != negated)
  /-- It does so as a conjunct too, with its parameters behind those in front. -/
  truth_behind : ∀ front before (bound : List Int), Sql.read front = some before →
    placeholders front = some bound.length →
    ∃ whole, Sql.read (front ++ " AND " ++ text) = some whole ∧ ∀ row content, row field = some content →
      whole.truth row (bound ++ params) =
        before.truthWith row (bound ++ params) (some (decide (content ∈ values) != negated))

theorem ascending_distinct (values : List Int) : (distinct values).Pairwise (· < ·) := by
  refine (Std.ExtTreeSet.ordered_toList (t := Std.ExtTreeSet.ofList values compare)).imp ?_
  intro front back less
  exact Int.compare_eq_lt.mp less

theorem mem_distinct {value : Int} : value ∈ distinct values ↔ value ∈ values := by
  simp [distinct]

theorem truth_ofNumbers (field : String) (values : List Int) (negated : Bool) (content : Int) :
    (ofNumbers field values negated).truth (some content) = some (decide (content ∈ values) != negated) := by
  have member : (distinct values).contains content = decide (content ∈ values) := by
    rw [Bool.eq_iff_iff]
    simp [mem_distinct]
  rw [truth_some]
  exact congrArg (fun found => some (found != negated)) member

/-- A condition on numbers, whatever their number and order, means membership wherever it stands. -/
theorem ofNumbers_meansMembership {field : String} (column : isColumn field = true) (values : List Int)
    (negated : Bool) :
    MeansMembership field values negated (ofNumbers field values negated).text
      (ofNumbers field values negated).params where
  ascending := by
    rw [params_eq]
    exact ascending_distinct values
  mem_params value := by
    rw [params_eq]
    exact mem_distinct
  placeholders_text := (conjoins_text _ column fun _ member => ne_of_mem_parts member).placeholders_eq
  leaves := by
    obtain ⟨conjunction, read, leaves, _⟩ := exists_reading (ofNumbers field values negated) column
    refine ⟨_, read, fun test member => ?_⟩
    rw [Disjunction.leaves, leaves, leaves_tests] at member
    split at member
    · next no_parts =>
      have no_params : (ofNumbers field values negated).params = [] := by rw [params, no_parts]; rfl
      exact .inr (.inr ⟨no_params, List.mem_singleton.mp member⟩)
    · obtain ⟨part, found, start, within, rfl⟩ := mem_partTests member
      rw [← params, Nat.zero_add] at within
      rcases mem_parts found with ⟨value, rfl⟩ | ⟨list, rfl, long, bounded⟩ | ⟨_, asked⟩
      · exact .inl ⟨start, within, rfl⟩
      · exact .inr (.inl ⟨start, list.length, long, bounded, within, rfl⟩)
      · cases asked
  truth_alone := by
    obtain ⟨conjunction, read, _, truth⟩ := exists_reading (ofNumbers field values negated) column
    refine ⟨_, read, fun row content held => ?_⟩
    rw [Disjunction.truth, Disjunction.truthAmid, truth, ← truth_ofNumbers field]
    exact congrArg _ held
  truth_behind front before bound front_read front_count := by
    have conjoins := conjoins_text (ofNumbers field values negated) column fun _ => ne_of_mem_parts
    refine ⟨_, conjoins.read_and front_read front_count, fun row content held => ?_⟩
    have truth_all := allTruth_tests (ofNumbers field values negated) (fun _ _ => []) row bound [] fun _ => ne_of_mem_parts
    rw [List.append_nil] at truth_all
    rw [Disjunction.truth_followedBy, truth_all, ← truth_ofNumbers field]
    exact congrArg (before.truthWith row _ <| (ofNumbers field values negated).truth ·) held

theorem ofNumbers_meansMembership_repeated :
    isColumn "trigger_id" = true ∧
      MeansMembership "trigger_id" [5, 1, 5, 3] false "trigger_id IN (?,?,?)" [1, 3, 5] ∧
      ∃ whole, Sql.read ("severity >= ?" ++ " AND " ++ "trigger_id IN (?,?,?)") = some whole ∧
        whole.truth (fun name => if name = "trigger_id" then some 5 else some 2) ([2] ++ [1, 3, 5]) = some true := by
  have column : isColumn "trigger_id" = true := by decide +kernel
  have text : (ofNumbers "trigger_id" [5, 1, 5, 3] false).text = "trigger_id IN (?,?,?)" := by decide +kernel
  have params : (ofNumbers "trigger_id" [5, 1, 5, 3] false).params = [1, 3, 5] := by decide +kernel
  have means := ofNumbers_meansMembership column [5, 1, 5, 3] false
  rw [text, params] at means
  have front_read : Sql.read "severity >= ?" =
      some (.one (.one (.comparison .atLeast (.column "severity") (.parameter 0)))) := by
    have cut : tokens? "severity >= ?".toList =
        some [.operand (.column "severity"), .relation .atLeast, .placeholder] := by decide +kernel
    exact read_of_form cut ((items?_test rfl).trans (by simp [numbered, items?])) ((AddTests.test _).form _ [])
  obtain ⟨whole, read, truth⟩ := means.truth_behind "severity >= ?" _ [2] front_read (by decide +kernel)
  exact ⟨column, means, whole, read, (truth _ 5 rfl).trans rfl⟩

theorem distinct_eq_nil_iff : distinct values = [] ↔ values = [] := by
  simp only [List.eq_nil_iff_forall_not_mem, mem_distinct]

/-- The identifiers that a condition selects at a cell without a zero. -/
theorem truth_ofIds (field : String) (values : List Int) (negated : Bool) (cell : Option Int)
    (reference : cell ≠ some 0) :
    (ofIds field values negated).truth cell = some true ↔
      if negated then cell.getD 0 ∉ values ∧ (cell ≠ none ∨ values = []) else cell.getD 0 ∈ values := by
  cases cell with
  | some content =>
    have stored : content ≠ 0 := fun zero => reference (zero ▸ rfl)
    have member : (distinct (values.filter (· ≠ 0))).contains content = decide (content ∈ values) := by
      rw [Bool.eq_iff_iff]
      simp [mem_distinct, stored]
    rw [truth_some]
    simp only [ofIds, member]
    cases negated <;> simp
  | none =>
    rw [truth_none]
    by_cases asked : (0 : Int) ∈ values
    · cases negated <;> simp [ofIds, asked]
    · have kept : values.filter (· ≠ 0) = values :=
        List.filter_eq_self.mpr fun value member => decide_eq_true fun zero => asked (zero ▸ member)
      rw [ofIds, kept]
      cases negated <;> simp [asked, List.isEmpty_iff, distinct_eq_nil_iff]

/-- A condition on identifiers selects a row if the reference of the row is among those asked for, a null standing for
zero, which no row holds. Its opposite passes over nulls, unless nothing is left out. -/
theorem ofIds_selects {field : String} (column : isColumn field = true) (values : List Int) (row : Row)
    (reference : row field ≠ some 0) :
    (∃ chosen, Sql.read (ofIds field values false).text = some chosen ∧
      (chosen.truth row (ofIds field values false).params = some true ↔ (row field).getD 0 ∈ values)) ∧
    ∃ others, Sql.read (ofIds field values true).text = some others ∧
      (others.truth row (ofIds field values true).params = some true ↔
        (row field).getD 0 ∉ values ∧ (row field ≠ none ∨ values = [])) := by
  obtain ⟨chosen, chosen_read, _, chosen_truth⟩ := exists_reading (ofIds field values false) column
  obtain ⟨others, others_read, _, others_truth⟩ := exists_reading (ofIds field values true) column
  refine ⟨⟨_, chosen_read, ?_⟩, ⟨_, others_read, ?_⟩⟩
  · rw [Disjunction.truth, Disjunction.truthAmid, chosen_truth]
    exact truth_ofIds field values false _ reference
  · rw [Disjunction.truth, Disjunction.truthAmid, others_truth]
    exact truth_ofIds field values true _ reference

/-- Rows with a reference to 7 are not among those that refer to 0 or 4. -/
theorem ofIds_selects_others :
    isColumn "parent_id" = true ∧ (some 7 : Option Int) ≠ some 0 ∧
      ∃ others, Sql.read (ofIds "parent_id" [0, 4] true).text = some others ∧
        others.truth (fun _ => some 7) (ofIds "parent_id" [0, 4] true).params = some true := by
  have column : isColumn "parent_id" = true := by decide +kernel
  obtain ⟨others, read, selected⟩ := (ofIds_selects column [0, 4] (fun _ => some 7) nofun).2
  exact ⟨column, nofun, others, read, selected.mpr ⟨by decide, .inl nofun⟩⟩

/-- Neither a condition nor its opposite selects a null that is not asked for. -/
theorem ofIds_skip_null :
    ∃ chosen others, Sql.read (ofIds "parent_id" [5] false).text = some chosen ∧
      Sql.read (ofIds "parent_id" [5] true).text = some others ∧
      chosen.truth (fun _ => none) (ofIds "parent_id" [5] false).params ≠ some true ∧
      others.truth (fun _ => none) (ofIds "parent_id" [5] true).params ≠ some true ∧ (0 : Int) ∉ [5] := by
  have column : isColumn "parent_id" = true := by decide +kernel
  obtain ⟨chosen, chosen_read, _, chosen_truth⟩ := exists_reading (ofIds "parent_id" [5] false) column
  obtain ⟨others, others_read, _, others_truth⟩ := exists_reading (ofIds "parent_id" [5] true) column
  refine ⟨_, _, chosen_read, others_read, ?_, ?_, by decide⟩
  · rw [Disjunction.truth, Disjunction.truthAmid, chosen_truth]
    intro selected
    have asked : (none : Option Int).getD 0 ∈ [5] := (truth_ofIds _ [5] false none (by decide)).mp selected
    exact absurd asked (by decide)
  · rw [Disjunction.truth, Disjunction.truthAmid, others_truth]
    intro selected
    have kept : (none : Option Int) ≠ none ∨ [(5 : Int)] = [] :=
      ((truth_ofIds _ [5] true none (by decide)).mp selected).2
    exact absurd kept (by decide)

end Readings

end ProblemBoard.Condition
