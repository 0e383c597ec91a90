import ProblemBoard.Proofs.Reading
import ProblemBoard.Proofs.Tables
import ProblemBoard.Store.Database

/-! # Tables under signed cells

An identifier below `2 ^ 63` fits into a signed cell, where it keeps its number and its place in the
order. Rows under such cells can stand for a table under identifiers. A query by membership
conditions, chunk by chunk in ascending order, then finds what a look-up of each identifier finds.
-/

namespace ProblemBoard

section Ascending

variable {κ β : Type} [Ord κ] [Std.TransOrd κ]

/-- Lists in strictly ascending order of their keys are equal if they have the same members. -/
theorem eq_of_ascending (key : β → κ) {left right : List β}
    (left_ascends : left.Pairwise fun front back => compare (key front) (key back) = .lt)
    (right_ascends : right.Pairwise fun front back => compare (key front) (key back) = .lt)
    (same : ∀ value, value ∈ left ↔ value ∈ right) : left = right := by
  have distinct {values : List β}
      (ascends : values.Pairwise fun front back => compare (key front) (key back) = .lt) :
      values.Nodup := by
    refine ascends.imp ?_
    rintro front _ less rfl
    exact absurd (less.symm.trans Std.ReflCmp.compare_self) nofun
  refine List.Perm.eq_of_pairwise ?_ left_ascends right_ascends
    ((List.perm_ext_iff_of_nodup (distinct left_ascends) (distinct right_ascends)).mpr same)
  intro front back _ _ less greater
  exact absurd (greater.symm.trans (Std.OrientedCmp.gt_of_lt less)) nofun

variable [Std.LawfulEqOrd κ] {ρ : Type}

/-- Filtering the rows of a table by ascending keys finds what looking up each key finds. -/
theorem filter_toList_eq_filterMap (table : Std.ExtTreeMap κ ρ) {keys : List κ} [DecidableEq κ]
    (ascending : keys.Pairwise fun front back => compare front back = .lt) :
    table.toList.filter (fun row => keys.contains row.1) =
      keys.filterMap fun key => (table[key]?).map (key, ·) := by
  apply eq_of_ascending Prod.fst
  · exact Std.ExtTreeMap.ordered_keys_toList.filter _
  · rw [List.pairwise_filterMap]
    refine ascending.imp ?_
    intro front back less
    simp only [Option.map_eq_some_iff]
    rintro _ ⟨_, _, rfl⟩ _ ⟨_, _, rfl⟩
    exact less
  · rintro ⟨key, row⟩
    simp only [List.mem_filter, Std.ExtTreeMap.mem_toList_iff_getElem?_eq_some, List.contains_iff_mem,
      List.mem_filterMap, Option.map_eq_some_iff, Prod.mk.injEq]
    constructor
    · rintro ⟨found, member⟩
      exact ⟨key, member, row, found, rfl, rfl⟩
    · rintro ⟨_, member, _, found, rfl, rfl⟩
      exact ⟨found, member⟩

end Ascending

namespace Condition

variable {content : Int}

theorem truth_ofChunk (negated : Bool) (chunk : List Int) :
    (Part.ofChunk chunk).truth negated (some content) = some (chunk.contains content != negated) := by
  unfold Part.ofChunk
  split
  · next value =>
    simp only [Part.truth, Option.map_some, List.contains_cons, List.contains_nil, Bool.or_false]
  · rfl

theorem foldr_either (truths : List Bool) :
    (truths.map some).foldr either (some false) = some (truths.any id) := by
  induction truths with
  | nil => rfl
  | cons first rest step =>
    rw [List.map_cons, List.foldr_cons, step, List.any_cons]
    cases first <;> cases rest.any id <;> rfl

/-- A condition on numbers selects the rows that hold one of the numbers. -/
theorem selects_ofNumbers (field : String) (values : List Int) :
    (ofNumbers field values false).selects (some content) = values.contains content := by
  have truths : (ofNumbers field values false).parts.map (Part.truth false (some content)) =
      ((chunks (distinct values)).map (·.contains content)).map some := by
    simp [parts, ofNumbers, Function.comp_def, truth_ofChunk]
  have hit : ((chunks (distinct values)).map (·.contains content)).any id =
      (distinct values).contains content := by
    rw [List.any_map]
    conv_rhs => rw [← flatten_chunks (distinct values), List.contains_flatten]
    rfl
  have known : (distinct values).contains content = values.contains content := by
    rw [Bool.eq_iff_iff]
    simp [distinct]
  have decided : (ofNumbers field values false).truth (some content) =
      ((ofNumbers field values false).parts.map (Part.truth false (some content))).foldr either
        (some false) := rfl
  rw [selects, decided, truths, foldr_either, hit, known]
  cases values.contains content <;> rfl

theorem params_ofChunk (chunk : List Int) : (Part.ofChunk chunk).params = chunk := by
  unfold Part.ofChunk
  split <;> rfl

/-- The parameters of a condition are its values. -/
theorem params_eq (condition : Condition) : condition.params = condition.values := by
  have asked : ((chunks condition.values).map Part.ofChunk).flatMap Part.params = condition.values := by
    rw [List.flatMap_map, List.flatMap_congr fun chunk _ => params_ofChunk chunk, List.flatMap_id', flatten_chunks]
  rw [params, parts, List.flatMap_append, asked]
  split
  · exact List.append_nil _
  · exact List.append_nil _

theorem length_params_ofNumbers_le (field : String) (values : List Int) (negated : Bool) :
    (ofNumbers field values negated).params.length ≤ values.length := by
  rw [params_eq]
  exact Std.ExtTreeSet.length_toList.trans_le Std.ExtTreeSet.size_ofList_le

end Condition

namespace Clause

variable {α β : Type} {clause : Clause} {selects : α → Bool} {rows : List α}

theorem find_of_le (fits : clause.params.length ≤ parameterLimit) :
    clause.find selects rows = .ok (rows.filter selects) := if_pos fits

theorem find_of_lt (exceeds : parameterLimit < clause.params.length) :
    clause.find selects rows = .error .database := if_neg (Nat.not_le.mpr exceeds)

section Chunk

variable {field : String} {chunk : List Int} {next : List α → Except StoreFault β}

/-- A chunk of values is never too much to ask for. -/
theorem find_ofCondition (short : chunk.length ≤ chunkSize) :
    (ofCondition (.ofNumbers field chunk false)).find selects rows >>= next = next (rows.filter selects) := by
  have few : chunkSize ≤ parameterLimit := by decide
  have params := (Condition.length_params_ofNumbers_le field chunk false).trans short
  exact congrArg (· >>= next) (find_of_le (params.trans few))

theorem find_ofSeverity (least : Severity) (short : chunk.length ≤ chunkSize) :
    (ofSeverity least (.ofNumbers field chunk false)).find selects rows >>= next = next (rows.filter selects) := by
  have few : chunkSize + 1 ≤ parameterLimit := by decide
  have params := (Condition.length_params_ofNumbers_le field chunk false).trans short
  have fits : (ofSeverity least (.ofNumbers field chunk false)).params.length ≤ parameterLimit :=
    (Nat.succ_le_succ params).trans few
  exact congrArg (· >>= next) (find_of_le fits)

end Chunk

end Clause

namespace Ident

variable {entity : Entity} {id other : Ident entity}

/-- A signed cell can keep the identifier. -/
def FitsCell (id : Ident entity) : Prop := id.toNat < Nat.pow 2 63

instance : Decidable id.FitsCell := inferInstanceAs (Decidable (_ < _))

/-- The number of an identifier as a signed cell keeps it. -/
def number (id : Ident entity) : Int := id.toNat

theorem number_inj : id.number = other.number ↔ id = other := by
  rw [number, number, Int.natCast_inj, toNat_inj]

theorem compare_number : compare id.number other.number = compare id other := by
  change compare (id.val.toNat : Int) other.val.toNat = compare id.val other.val
  simp only [compare, compareOfLessAndEq, UInt64.lt_iff_toNat_lt, ← UInt64.toNat_inj, Int.ofNat_lt, Int.ofNat_inj]

theorem ofIdent_eq (fits : id.FitsCell) : Cell.ofIdent id = .ok id.number := if_pos fits

theorem ofIdent_of_not_fits (unfit : ¬ id.FitsCell) : Cell.ofIdent id = .error (.idTooLarge id.val) :=
  if_neg unfit

theorem toIdent_number (fits : id.FitsCell) : Cell.toIdent id.number = .ok id :=
  Cell.toIdent_ofIdent (ofIdent_eq fits)

end Ident

namespace IdSet

variable {entity : Entity} {ids : IdSet entity}

/-- Signed cells can keep all identifiers of a set. -/
def FitsCells (ids : IdSet entity) : Prop := ∀ id ∈ ids.toList, id.FitsCell

instance : Decidable ids.FitsCells := inferInstanceAs (Decidable (∀ id ∈ ids.toList, id.FitsCell))

theorem fitsCells_empty : (∅ : IdSet entity).FitsCells := by
  intro id member
  cases member

/-- The numbers of the identifiers in a set, in ascending order. -/
def numbers (ids : IdSet entity) : List Int := ids.toList.map Ident.number

theorem ascending_numbers (ids : IdSet entity) :
    ids.numbers.Pairwise fun front back => compare front back = .lt := by
  rw [numbers, List.pairwise_map]
  refine Std.ExtTreeSet.ordered_toList.imp ?_
  intro front back less
  rw [Ident.compare_number]
  exact less

theorem contains_numbers {id : Ident entity} : ids.numbers.contains id.number = ids.contains id := by
  rw [Bool.eq_iff_iff]
  simp [numbers, Ident.number_inj]

theorem toList_ofList_numbers (ids : IdSet entity) :
    (Std.ExtTreeSet.ofList ids.numbers).toList = ids.numbers := by
  have ascending : (Std.ExtTreeSet.ofList ids.numbers).toList.Pairwise fun front back =>
      compare front back = .lt := Std.ExtTreeSet.ordered_toList
  apply eq_of_ascending id ascending ids.ascending_numbers
  simp

theorem ofList_toList (ids : IdSet entity) : Std.ExtTreeSet.ofList ids.toList = ids := by
  ext id
  simp

theorem cells_eq (fits : ids.FitsCells) : Database.cells ids = .ok ids.numbers := by
  have kept : Cell.ofIdents ids.toList = .ok ids.numbers :=
    mapM_eq_ok fun id member => Ident.ofIdent_eq (fits id member)
  rw [Database.cells, kept]
  rfl

/-- A condition on a set has a parameter for each of its identifiers. -/
theorem length_params_numbers (ids : IdSet entity) (field : String) :
    (Condition.ofNumbers field ids.numbers false).params.length = ids.size := by
  rw [Condition.params_eq]
  change (Std.ExtTreeSet.ofList ids.numbers).toList.length = _
  rw [toList_ofList_numbers, numbers, List.length_map, Std.ExtTreeSet.length_toList]

/-- Some number of a set satisfies a condition if some identifier is among those asked for. -/
theorem any_ofList_numbers {wanted : IdSet entity} (field : String) :
    (Std.ExtTreeSet.ofList ids.numbers).any
        ((Condition.ofNumbers field wanted.numbers false).selects <| some ·) =
      ids.any (wanted.contains ·) := by
  simp only [Condition.selects_ofNumbers]
  rw [Bool.eq_iff_iff, any_eq_true_iff, any_eq_true_iff]
  constructor
  · rintro ⟨number, member, hit⟩
    obtain ⟨id, present, rfl⟩ : ∃ id ∈ ids, id.number = number := by
      simpa [IdSet.numbers] using member
    exact ⟨id, present, by rwa [IdSet.contains_numbers] at hit⟩
  · rintro ⟨id, present, hit⟩
    refine ⟨id.number, ?_, by rwa [IdSet.contains_numbers]⟩
    simpa [IdSet.numbers] using ⟨id, present, rfl⟩

/-- The cells of a set read back. -/
theorem mapM_ident_numbers (fits : ids.FitsCells) :
    ids.numbers.mapM Database.ident = (.ok ids.toList : Except StoreFault (List (Ident entity))) := by
  have read (id : Ident entity) (member : id ∈ ids.toList) : Database.ident id.number = .ok id := by
    rw [Database.ident, Ident.toIdent_number (fits id member)]
    rfl
  rw [numbers, List.mapM_map]
  exact (mapM_eq_ok read).trans (congrArg _ (List.map_id' _))

end IdSet

/-- Signed cells can keep what the target names. -/
def Target.FitsCells : Target → Prop
  | .group id => id.FitsCell
  | .host id => id.FitsCell
  | .triggers ids => ∀ id ∈ ids, id.FitsCell
  | .map id => id.FitsCell

instance : (target : Target) → Decidable target.FitsCells
  | .group id => inferInstanceAs (Decidable id.FitsCell)
  | .host id => inferInstanceAs (Decidable id.FitsCell)
  | .triggers ids => inferInstanceAs (Decidable (∀ id ∈ ids, id.FitsCell))
  | .map id => inferInstanceAs (Decidable id.FitsCell)

/-- Signed cells can keep everything that the elements and links of the map name. -/
def NetworkMap.RefersToCells (map : NetworkMap) : Prop :=
  (∀ element ∈ map.elements, element.target.FitsCells) ∧ ∀ link ∈ map.links, ∀ id ∈ link.triggers, id.FitsCell

instance (map : NetworkMap) : Decidable map.RefersToCells := inferInstanceAs (Decidable (_ ∧ _))

def Trigger.FitsCells (trigger : Trigger) : Prop :=
  trigger.id.FitsCell ∧ trigger.hosts.FitsCells ∧ trigger.groups.FitsCells

instance (trigger : Trigger) : Decidable trigger.FitsCells := inferInstanceAs (Decidable (_ ∧ _ ∧ _))

def TriggerQuery.FitsCells (query : TriggerQuery) : Prop :=
  query.triggers.FitsCells ∧ query.hosts.FitsCells ∧ query.groups.FitsCells

instance (query : TriggerQuery) : Decidable query.FitsCells := inferInstanceAs (Decidable (_ ∧ _ ∧ _))

namespace TriggerQuery

/-- The names in a query, set by set, without empty sets. -/
def named (query : TriggerQuery) : List (Naming × List Int) :=
  [(.trigger, query.triggers.numbers), (.host, query.hosts.numbers), (.group, query.groups.numbers)].filter
    (!·.2.isEmpty)

/-- A query is asked with a parameter for its severity and one for each of its names. -/
def parameters (query : TriggerQuery) : Nat := 1 + query.triggers.size + query.hosts.size + query.groups.size

theorem isEmpty_iff {query : TriggerQuery} :
    query.isEmpty = true ↔ query.groups = ∅ ∧ query.hosts = ∅ ∧ query.triggers = ∅ := by
  rw [isEmpty, Bool.and_eq_true, Bool.and_eq_true, Std.ExtTreeSet.isEmpty_iff, Std.ExtTreeSet.isEmpty_iff,
    Std.ExtTreeSet.isEmpty_iff, and_assoc]

end TriggerQuery

section Chunks

variable {κ α β ε : Type}

theorem chunks_map (change : α → κ) (values : List α) :
    chunks (values.map change) = (chunks values).map (List.map change) := by
  fun_induction chunks values with
  | case1 => simp [chunks]
  | case2 value rest step =>
    rw [List.map_cons, chunks, ← List.map_take, ← List.map_drop, step]
    rfl

theorem sublist_of_mem_chunks {chunk values : List α} (member : chunk ∈ chunks values) :
    chunk.Sublist values := by
  have within := List.sublist_flatten_of_mem member
  rwa [flatten_chunks] at within

theorem length_of_mem_chunks {chunk values : List α} (member : chunk ∈ chunks values) :
    chunk ≠ [] ∧ chunk.length ≤ chunkSize := by
  fun_induction chunks values with
  | case1 => cases member
  | case2 value rest step =>
    rcases List.mem_cons.mp member with rfl | later
    · refine ⟨List.cons_ne_nil _ _, ?_⟩
      rw [List.length_cons, List.length_take, chunkSize]
      omega
    · exact step later

/-- If each chunk of a query is answered, so is the query. -/
theorem answers_of_chunks {change : α → κ} {ask : List κ → Except ε (List β)} {answer : List α → List β}
    {values : List α}
    (each : ∀ chunk, chunk.Sublist values → (chunk.map change).length ≤ chunkSize →
      ask (chunk.map change) = .ok (answer chunk)) :
    (do pure (← (chunks (values.map change)).mapM ask).flatten) =
      (.ok ((chunks values).flatMap answer) : Except ε (List β)) := by
  have asked : (chunks (values.map change)).mapM ask = .ok ((chunks values).map answer) := by
    rw [chunks_map, List.mapM_map]
    refine mapM_eq_ok fun chunk member => each chunk (sublist_of_mem_chunks member) ?_
    rw [List.length_map]
    exact (length_of_mem_chunks member).2
  rw [asked, List.flatMap_def]
  rfl

/-- Look-ups chunk by chunk are look-ups one by one. -/
theorem flatMap_chunks_filterMap (find : α → Option β) (values : List α) :
    (chunks values).flatMap (List.filterMap find) = values.filterMap find := by
  conv_rhs => rw [← flatten_chunks values, List.filterMap_flatten]
  rw [List.flatMap_def]

/-- Filtering by each chunk finds what filtering by all values finds, possibly in another order. -/
theorem flatMap_chunks_filter_perm [BEq κ] [LawfulBEq κ] {values : List κ} (distinct : values.Nodup)
    (key : β → κ) (rows : List β) :
    ((chunks values).flatMap fun chunk => rows.filter fun row => chunk.contains (key row)).Perm
      (rows.filter fun row => values.contains (key row)) := by
  have parts (lists : List (List κ)) (apart : lists.flatten.Nodup) :
      (lists.flatMap fun chunk => rows.filter fun row => chunk.contains (key row)).Perm
        (rows.filter fun row => lists.flatten.contains (key row)) := by
    induction lists with
    | nil => simp
    | cons first rest step =>
      rw [List.flatten_cons, List.nodup_append] at apart
      obtain ⟨_, rest_apart, differ⟩ := apart
      -- What the first chunk takes is missing from what is left for the others.
      have taken : rows.filter (fun row => first.contains (key row)) =
          (rows.filter fun row => (first ++ rest.flatten).contains (key row)).filter
            fun row => first.contains (key row) := by
        rw [List.filter_filter]
        refine List.filter_congr fun row _ => ?_
        rw [Bool.eq_iff_iff]
        simp
        tauto
      have left : rows.filter (fun row => rest.flatten.contains (key row)) =
          (rows.filter fun row => (first ++ rest.flatten).contains (key row)).filter
            fun row => !first.contains (key row) := by
        rw [List.filter_filter]
        refine List.filter_congr fun row _ => ?_
        have apart_here : key row ∈ rest.flatten → key row ∉ first :=
          fun later earlier => differ (key row) earlier (key row) later rfl
        rw [Bool.eq_iff_iff]
        simp only [List.contains_iff_mem, Bool.and_eq_true, Bool.not_eq_true', List.mem_append,
          ← Bool.not_eq_true]
        tauto
      rw [List.flatMap_cons, List.flatten_cons, taken]
      refine (List.Perm.append_left _ (step rest_apart)).trans ?_
      rw [left]
      exact List.filter_append_perm _ _
  have whole := parts (chunks values) (by rwa [flatten_chunks])
  rwa [flatten_chunks] at whole

end Chunks

/-- The row of a trigger with identifiers that fit into cells. -/
def Trigger.row (trigger : Trigger) : TriggerRow :=
  Database.rowOfTrigger trigger trigger.hosts.numbers trigger.groups.numbers

def Problem.row (problem : Problem) : ProblemRow :=
  ⟨problem.trigger.number, problem.severity.level, problem.acknowledged⟩

namespace Database

theorem cell_eq {entity : Entity} {id : Ident entity} (fits : id.FitsCell) :
    cell id = .ok id.number := by
  rw [cell, Ident.ofIdent_eq fits]
  rfl

theorem cell_of_not_fits {entity : Entity} {id : Ident entity} (unfit : ¬ id.FitsCell) :
    cell id = .error (.integrity (.idTooLarge id.val)) := by
  rw [cell, Ident.ofIdent_of_not_fits unfit]
  rfl

theorem fits_of_cell {entity : Entity} {id : Ident entity} {key : Int} (kept : cell id = .ok key) :
    id.FitsCell := by
  by_contra unfit
  rw [cell_of_not_fits unfit] at kept
  cases kept

/-- A set that does not fit is refused for one of its identifiers. -/
theorem cells_of_not_fits {entity : Entity} {ids : IdSet entity} (unfit : ¬ ids.FitsCells) :
    ∃ value : UInt64, Nat.pow 2 63 ≤ value.toNat ∧ cells ids = .error (.integrity (.idTooLarge value)) := by
  rw [cells]
  cases mapped : Cell.ofIdents ids.toList with
  | ok numbers =>
    refine absurd (fun id member => ?_) unfit
    obtain ⟨number, kept⟩ := exists_ok_of_mapM mapped id member
    by_contra large
    rw [Ident.ofIdent_of_not_fits large] at kept
    cases kept
  | error fault =>
    obtain ⟨id, _, refused⟩ := exists_error_of_mapM mapped
    have large : ¬ id.FitsCell := fun fits => by
      rw [Ident.ofIdent_eq fits] at refused
      cases refused
    rw [Ident.ofIdent_of_not_fits large] at refused
    obtain rfl := Except.error.inj refused
    exact ⟨id.val, Nat.not_lt.mp large, rfl⟩

theorem fits_of_cells {entity : Entity} {ids : IdSet entity} {keys : List Int} (kept : cells ids = .ok keys) :
    ids.FitsCells := by
  by_contra unfit
  obtain ⟨value, _, refused⟩ := cells_of_not_fits unfit
  rw [refused] at kept
  cases kept

/-- The condition on some names. -/
def namingCondition (named : Naming × List Int) : Naming × Condition :=
  (named.1, .ofNumbers named.1.column named.2 false)

theorem conditions_eq {query : TriggerQuery} (fits : query.FitsCells) :
    conditions query = .ok (query.named.map namingCondition) := by
  rw [conditions, IdSet.cells_eq fits.1, IdSet.cells_eq fits.2.1, IdSet.cells_eq fits.2.2]
  rfl

/-- Leaving out the empty sets leaves out no names. -/
theorem flatMap_params_filter (named : List (Naming × List Int)) :
    (named.filter (!·.2.isEmpty)).flatMap (namingCondition · |>.2.params) =
      named.flatMap (namingCondition · |>.2.params) := by
  induction named with
  | nil => rfl
  | cons first rest step =>
    obtain ⟨naming, _ | ⟨number, numbers⟩⟩ := first
    · have empty : (namingCondition (naming, [])).2.params = [] := Condition.params_eq _
      rw [List.filter_cons_of_neg (by simp), step, List.flatMap_cons, empty, List.nil_append]
    · rw [List.filter_cons_of_pos (by simp), List.flatMap_cons, List.flatMap_cons, step]

theorem length_params_clauseOf (query : TriggerQuery) :
    (clauseOf query (query.named.map namingCondition)).params.length = query.parameters := by
  have params : (clauseOf query (query.named.map namingCondition)).params =
      (query.minSeverity.level : Int) :: (query.named.map namingCondition).flatMap (·.2.params) := rfl
  rw [params, List.flatMap_map, TriggerQuery.named, flatMap_params_filter]
  simp only [List.flatMap_cons, List.flatMap_nil, List.length_cons, List.length_append, List.length_nil,
    namingCondition, IdSet.length_params_numbers, TriggerQuery.parameters]
  omega

theorem fits_of_insertMap {database changed : Database} {map : NetworkMap}
    (written : database.insertMap map = .ok changed) : map.id.FitsCell := by
  obtain ⟨_, _, written⟩ := exists_ok_of_bind written
  obtain ⟨_, key, _⟩ := exists_ok_of_bind written
  exact fits_of_cell key

theorem fits_of_insertTrigger {database changed : Database} {trigger : Trigger}
    (written : database.insertTrigger trigger = .ok changed) : trigger.FitsCells := by
  obtain ⟨_, key, written⟩ := exists_ok_of_bind written
  obtain ⟨_, hosts, written⟩ := exists_ok_of_bind written
  obtain ⟨_, groups, _⟩ := exists_ok_of_bind written
  exact ⟨fits_of_cell key, fits_of_cells hosts, fits_of_cells groups⟩

theorem insertTrigger_eq (database : Database) {trigger : Trigger} (fits : trigger.FitsCells) :
    database.insertTrigger trigger =
      .ok { database with triggers := database.triggers.insert trigger.id.number trigger.row } := by
  rw [insertTrigger, cell_eq fits.1, IdSet.cells_eq fits.2.1, IdSet.cells_eq fits.2.2]
  rfl

theorem insertProblem_eq (database : Database) {problem : Problem} (fits : problem.trigger.FitsCell) :
    database.insertProblem problem =
      if database.triggers.contains problem.trigger.number then
        .ok ({ database with
          problems := database.problems.insert (database.lastProblem + 1) problem.row
          lastProblem := database.lastProblem + 1 }, database.lastProblem + 1)
      else .error (.triggerNotFound problem.trigger) := by
  rw [insertProblem, cell_eq fits]
  rfl

end Database

/-- The rows under the numbers of identifiers stand for the values of a table under the identifiers. -/
structure Tabulates {entity : Entity} {α ρ : Type} (row : α → ρ)
    (table : Std.ExtTreeMap (Ident entity) α) (rows : Std.ExtTreeMap Int ρ) : Prop where
  fits : ∀ id ∈ table, id.FitsCell
  found : ∀ id : Ident entity, rows[id.number]? = (table[id]?).map row
  keyed : ∀ key ∈ rows, ∃ id : Ident entity, id.number = key

namespace Tabulates

variable {entity : Entity} {α ρ : Type} {row : α → ρ} {table : Std.ExtTreeMap (Ident entity) α}
  {rows : Std.ExtTreeMap Int ρ}

theorem empty : Tabulates row (∅ : Std.ExtTreeMap (Ident entity) α) ∅ where
  fits := by simp
  found := by simp
  keyed := by simp

theorem insert (tabulates : Tabulates row table rows) {id : Ident entity} (fits : id.FitsCell) (value : α) :
    Tabulates row (table.insert id value) (rows.insert id.number (row value)) where
  fits other member := by
    rw [Std.ExtTreeMap.mem_insert, Std.compare_eq_iff_eq] at member
    rcases member with rfl | member
    · exact fits
    · exact tabulates.fits other member
  found other := by
    simp only [Std.ExtTreeMap.getElem?_insert, Ident.compare_number, tabulates.found]
    split <;> rfl
  keyed key member := by
    rw [Std.ExtTreeMap.mem_insert, Std.compare_eq_iff_eq] at member
    rcases member with rfl | member
    · exact ⟨id, rfl⟩
    · exact tabulates.keyed key member

theorem erase (tabulates : Tabulates row table rows) (id : Ident entity) :
    Tabulates row (table.erase id) (rows.erase id.number) where
  fits other member := tabulates.fits other (Std.ExtTreeMap.mem_of_mem_erase member)
  found other := by
    simp only [Std.ExtTreeMap.getElem?_erase, Ident.compare_number, tabulates.found]
    split <;> rfl
  keyed key member := tabulates.keyed key (Std.ExtTreeMap.mem_of_mem_erase member)

theorem contains_eq (tabulates : Tabulates row table rows) (id : Ident entity) :
    rows.contains id.number = table.contains id := by
  rw [Std.ExtTreeMap.contains_eq_isSome_getElem?, Std.ExtTreeMap.contains_eq_isSome_getElem?,
    tabulates.found, Option.isSome_map]

/-- The rows stand in the order of the table. -/
theorem toList_eq (tabulates : Tabulates row table rows) :
    rows.toList = table.toList.map fun entry => (entry.1.number, row entry.2) := by
  apply eq_of_ascending Prod.fst
  · exact Std.ExtTreeMap.ordered_keys_toList
  · rw [List.pairwise_map]
    refine Std.ExtTreeMap.ordered_keys_toList.imp ?_
    intro front back less
    rw [Ident.compare_number]
    exact less
  · rintro ⟨key, kept⟩
    simp only [Std.ExtTreeMap.mem_toList_iff_getElem?_eq_some, List.mem_map, Prod.exists, Prod.mk.injEq]
    constructor
    · intro found
      obtain ⟨id, rfl⟩ := tabulates.keyed key (mem_iff_exists_getElem?.mpr ⟨kept, found⟩)
      rw [tabulates.found, Option.map_eq_some_iff] at found
      obtain ⟨value, held, rfl⟩ := found
      exact ⟨id, value, held, rfl, rfl⟩
    · rintro ⟨id, value, held, rfl, rfl⟩
      rw [tabulates.found, held, Option.map_some]

/-- A query by the numbers of ascending identifiers finds the rows of those that are in the table. -/
theorem filter_toList_eq (tabulates : Tabulates row table rows) {key : α → Ident entity}
    (filed : ∀ id value, table[id]? = some value → key value = id) {ids : List (Ident entity)}
    (ascending : ids.Pairwise fun front back => compare front back = .lt) :
    (rows.toList.filter fun entry => (ids.map Ident.number).contains entry.1) =
      (ids.filterMap (table[·]?)).map fun value => ((key value).number, row value) := by
  have numbers_ascend : (ids.map Ident.number).Pairwise fun front back => compare front back = .lt := by
    rw [List.pairwise_map]
    refine ascending.imp ?_
    intro front back less
    rw [Ident.compare_number]
    exact less
  rw [filter_toList_eq_filterMap rows numbers_ascend, List.filterMap_map, List.map_filterMap]
  refine List.filterMap_congr fun id _ => ?_
  simp only [Function.comp_apply, tabulates.found]
  cases held : table[id]? with
  | none => rfl
  | some value => simp [filed id value held]

end Tabulates

end ProblemBoard
