import ProblemBoard.Proofs.Chronicle
import ProblemBoard.Proofs.Mirroring
import ProblemBoard.Proofs.Numbering
import ProblemBoard.Proofs.Recording

/-! # The life cycle of a problem and the counts of a board

A problem is opened, may be acknowledged, and is resolved. Each of these writes leaves maps and triggers
alone, so what it does to the counts of a board is settled by what it does to the problems that a store gives:
one more, one less, or the same with one more acknowledged. This holds for both kinds of store, since neither
gives a number that is in use. A database reads problems from rows that others may have changed, so counting
may fail there; a write then moves the counts if there were any.
-/

namespace ProblemBoard

open Navigation

section Writes

variable {σ : Type} [Store σ]

/-- Counts move in the expected direction when problems are opened, acknowledged or resolved. -/
structure MovesCounts (store : σ) (tree : Tree) (item : Item) (bucket : Bucket) : Prop where
  opened : ∀ problem changed number, Store.insertProblem store problem = .ok (changed, number) →
    ∃ after, (Store.feeds changed).CountIn tree item after ∧ bucket.total ≤ after.total
  resolved : ∀ number changed, Store.resolve store number = .ok changed →
    ∃ after, (Store.feeds changed).CountIn tree item after ∧ after.total ≤ bucket.total
  acknowledged : ∀ number changed, Store.acknowledge store number = .ok changed →
    ∃ after, (Store.feeds changed).CountIn tree item after ∧
      (∀ severity, after.get severity ≤ bucket.get severity) ∧
      ((Store.feeds store).CountAcknowledged tree item → after = bucket)

/-- What the writes do to the problems that a store gives. -/
structure ShiftsProblems (store : σ) : Prop where
  opened : ∀ problem changed number, Store.insertProblem store problem = .ok (changed, number) →
    (Store.feeds store).Shifts (· ⊆ ·) (Store.feeds changed)
  resolved : ∀ number changed, Store.resolve store number = .ok changed →
    (Store.feeds store).Shifts (fun before after => after ⊆ before) (Store.feeds changed)
  acknowledged : ∀ number changed, Store.acknowledge store number = .ok changed →
    (Store.feeds store).Shifts Calmed (Store.feeds changed)

theorem ShiftsProblems.movesCounts {store : σ} (shifts : ShiftsProblems store) {tree : Tree} {item : Item}
    {bucket : Bucket} (distinct : (tree.items.map Item.id).Nodup) (member : item ∈ tree.items)
    (count : (Store.feeds store).CountIn tree item bucket) : MovesCounts store tree item bucket where
  opened problem changed number inserted :=
    count.grow distinct member (shifts.opened problem changed number inserted)
  resolved number changed resolved := count.shrink distinct member (shifts.resolved number changed resolved)
  acknowledged number changed acknowledged :=
    count.calm distinct member (shifts.acknowledged number changed acknowledged)

end Writes

/-- Acknowledging one of several problems calms them. -/
theorem calmed_modify (problems : Std.ExtTreeMap Int Problem) (number : Int) :
    Calmed problems.values (problems.modify number ({ · with acknowledged := true })).values where
  earlier problem member := by
    rcases mem_values_modify.mp member with ⟨before, found, rfl⟩ | ⟨other, _, found⟩
    · exact ⟨before, mem_values.mpr ⟨number, found⟩, rfl, rfl, nofun⟩
    · exact ⟨problem, mem_values.mpr ⟨other, found⟩, rfl, rfl, id⟩
  later prior member := by
    obtain ⟨other, found⟩ := mem_values.mp member
    by_cases here : other = number
    · subst here
      exact ⟨_, mem_values_modify.mpr (.inl ⟨prior, found, rfl⟩), rfl, rfl⟩
    · exact ⟨prior, mem_values_modify.mpr (.inr ⟨other, here, found⟩), rfl, rfl⟩

namespace Memory

/-- A store in memory gives one more problem, one less, or calmer ones, as long as the next number is free. -/
theorem shiftsProblems {store : Memory} (free : (store.nextProblem : Int) ∉ store.problems) :
    ShiftsProblems store where
  opened problem changed number inserted := by
    obtain ⟨_, _, rfl⟩ := insertProblem_eq_ok_iff.mp inserted
    refine ⟨rfl, rfl, fun query answer given => ⟨_, rfl, ?_⟩⟩
    cases given
    exact List.filter_subset _ (values_subset_insert free problem)
  resolved number changed resolved := by
    obtain ⟨_, rfl⟩ := resolve_eq_ok_iff.mp resolved
    refine ⟨rfl, rfl, fun query answer given => ⟨_, rfl, ?_⟩⟩
    cases given
    exact List.filter_subset _ (values_erase_subset store.problems number)
  acknowledged number changed acknowledged := by
    obtain ⟨_, rfl⟩ := acknowledge_eq_ok_iff.mp acknowledged
    refine ⟨rfl, rfl, fun query answer given => ⟨_, rfl, ?_⟩⟩
    cases given
    exact (calmed_modify store.problems number).filter fun trigger severity =>
      query.triggers.contains trigger && decide (query.minSeverity ≤ severity)

theorem exists_gather (store : Memory) (references : References) :
    ∃ ledger, Ledger.gather (Store.feeds store) references = .ok ledger := by
  refine exists_bind_ok ?_ fun grouped => exists_bind_ok ?_ fun hosted => ?_
  · rw [Ledger.gatherGroups]
    split <;> exact ⟨_, rfl⟩
  · rw [Ledger.gatherHosts]
    split <;> exact ⟨_, rfl⟩
  · simp only
    split
    · exact ⟨_, rfl⟩
    · refine exists_bind_ok ⟨_, rfl⟩ fun answer => ?_
      rw [Ledger.gatherProblems]
      split <;> exact ⟨_, rfl⟩

/-- A store in memory always counts. -/
theorem exists_countProblems (store : Memory) (tree : Tree) :
    ∃ tally, countProblems (Store.feeds store) tree = .ok tally :=
  exists_bind_ok ⟨_, Atlas.discover_ok store.mapsOf tree.referencedMaps⟩ fun _ =>
    exists_bind_ok (store.exists_gather _) fun _ => ⟨_, rfl⟩

theorem exists_countIn (store : Memory) {tree : Tree} {item : Item}
    (distinct : (tree.items.map Item.id).Nodup) (member : item ∈ tree.items) :
    ∃ bucket, (Store.feeds store).CountIn tree item bucket := by
  obtain ⟨tally, counted⟩ := store.exists_countProblems tree
  obtain ⟨atlas, _, charted⟩ := exists_ok_of_bind counted
  obtain ⟨ledger, _, same⟩ := exists_ok_of_bind charted
  cases same
  exact ⟨_, _, counted, Tally.getElem?_ofTree_of_mem distinct member⟩

end Memory

namespace Database

/-- A query wants the row of a problem, if its triggers are kept in the given cells. -/
def Wants (query : ProblemQuery) (keys : List Int) (row : ProblemRow) : Prop :=
  (query.minSeverity.level : Int) ≤ row.severity ∧ row.trigger ∈ keys

/-- The rows that a query wants, in the order of their numbers. -/
def wantedRows (database : Database) (query : ProblemQuery) (keys : List Int) : List ProblemRow :=
  database.problems.values.filter fun row =>
    decide ((query.minSeverity.level : Int) ≤ row.severity) && keys.contains row.trigger

/-- The answer to a query holds the problems of the rows that the query wants. -/
def Answers (rows : List ProblemRow) (query : ProblemQuery) (keys : List Int) (answer : List Problem) : Prop :=
  ∀ problem, problem ∈ answer ↔ ∃ row ∈ rows, Wants query keys row ∧ problemOfRow row = .ok problem

section Reading

variable {database : Database} {query : ProblemQuery} {keys : List Int} {answer : List Problem}

theorem problemOfRow_eq_ok_iff {row : ProblemRow} {problem : Problem} :
    problemOfRow row = .ok problem ↔ ident row.trigger = .ok problem.trigger ∧
      Cell.toSeverity row.severity = .ok problem.severity ∧ row.acknowledged = problem.acknowledged := by
  constructor
  · intro read
    obtain ⟨trigger, named, read⟩ := exists_ok_of_bind read
    obtain ⟨severity, graded, read⟩ := exists_ok_of_bind read
    cases read
    exact ⟨named, graded, rfl⟩
  · rintro ⟨named, graded, same⟩
    rw [problemOfRow, named, graded, same]
    rfl

theorem mem_wantedRows {row : ProblemRow} :
    row ∈ database.wantedRows query keys ↔ row ∈ database.problems.values ∧ Wants query keys row := by
  rw [wantedRows, List.mem_filter, Bool.and_eq_true, decide_eq_true_iff, List.contains_iff_mem, Wants]

theorem problemsOf_eq (database : Database) (kept : cells query.triggers = .ok keys) :
    database.problemsOf query =
      (List.flatten <$> (chunks keys).mapM fun chunk => (database.wantedRows query chunk).mapM problemOfRow) := by
  have each (chunk : List Int) (listed : chunk ∈ chunks keys) : (do
      let condition := Condition.ofNumbers "trigger_id" chunk false
      let rows ← (Clause.ofSeverity query.minSeverity condition).find
        (fun row => decide ((query.minSeverity.level : Int) ≤ row.severity) && condition.selects (some row.trigger))
        database.problems.values
      rows.mapM problemOfRow) = (database.wantedRows query chunk).mapM problemOfRow := by
    refine (Clause.find_ofSeverity _ (length_of_mem_chunks listed).2).trans ?_
    simp only [Condition.selects_ofNumbers]
    rfl
  rw [problemsOf, kept]
  exact congrArg (List.flatten <$> ·) (mapM_congr each)

/-- A query wants a row if it wants it in one of its chunks. -/
theorem wants_iff {row : ProblemRow} : Wants query keys row ↔ ∃ chunk ∈ chunks keys, Wants query chunk row := by
  conv_lhs => rw [Wants, ← flatten_chunks keys, List.mem_flatten]
  constructor
  · rintro ⟨severe, chunk, within, listed⟩
    exact ⟨chunk, within, severe, listed⟩
  · rintro ⟨chunk, within, severe, listed⟩
    exact ⟨severe, chunk, within, listed⟩

theorem answers_problemsOf (kept : cells query.triggers = .ok keys)
    (given : database.problemsOf query = .ok answer) : Answers database.problems.values query keys answer := by
  rw [database.problemsOf_eq kept] at given
  obtain ⟨answers, worked, rfl⟩ := exists_of_map_eq_ok given
  intro problem
  rw [List.mem_flatten]
  constructor
  · rintro ⟨part, listed, member⟩
    obtain ⟨chunk, within, read⟩ := (mem_iff_of_mapM worked).mp listed
    obtain ⟨row, wanted, given⟩ := (mem_iff_of_mapM read).mp member
    obtain ⟨stored, wants⟩ := mem_wantedRows.mp wanted
    exact ⟨row, stored, wants_iff.mpr ⟨chunk, within, wants⟩, given⟩
  · rintro ⟨row, stored, wants, given⟩
    obtain ⟨chunk, within, wants⟩ := wants_iff.mp wants
    obtain ⟨part, read⟩ := exists_ok_of_mapM worked chunk within
    exact ⟨part, (mem_iff_of_mapM worked).mpr ⟨chunk, within, read⟩,
      (mem_iff_of_mapM read).mpr ⟨row, mem_wantedRows.mpr ⟨stored, wants⟩, given⟩⟩

/-- A database answers a query if it can read the rows that the query wants, and only then. -/
theorem exists_problemsOf_iff (kept : cells query.triggers = .ok keys) :
    (∃ answer, database.problemsOf query = .ok answer) ↔
      ∀ row ∈ database.problems.values, Wants query keys row → ∃ problem, problemOfRow row = .ok problem := by
  rw [database.problemsOf_eq kept]
  constructor
  · rintro ⟨answer, given⟩ row stored wants
    obtain ⟨answers, worked, _⟩ := exists_of_map_eq_ok given
    obtain ⟨chunk, within, wants⟩ := wants_iff.mp wants
    obtain ⟨part, read⟩ := exists_ok_of_mapM worked chunk within
    exact exists_ok_of_mapM read row (mem_wantedRows.mpr ⟨stored, wants⟩)
  · intro readable
    have each (chunk : List Int) (within : chunk ∈ chunks keys) :
        ∃ part, (database.wantedRows query chunk).mapM problemOfRow = .ok part := by
      refine exists_mapM_ok fun row wanted => ?_
      obtain ⟨stored, wants⟩ := mem_wantedRows.mp wanted
      exact readable row stored (wants_iff.mpr ⟨chunk, within, wants⟩)
    obtain ⟨answers, worked⟩ := exists_mapM_ok each
    rw [worked]
    exact ⟨answers.flatten, rfl⟩

end Reading

section Writes

variable {database : Database} {problems : Std.ExtTreeMap Int ProblemRow}

/-- What a database gives changes with the rows of its problems. A row can still be read if there was one of
the same trigger and severity. -/
theorem shifts_of_rows {related : List Problem → List Problem → Prop} (last : Int)
    (readable : ∀ row ∈ problems.values, (∃ problem, problemOfRow row = .ok problem) ∨
      ∃ prior ∈ database.problems.values, prior.trigger = row.trigger ∧ prior.severity = row.severity)
    (relates : ∀ query keys answer other, Answers database.problems.values query keys answer →
      Answers problems.values query keys other → related answer other) :
    (Store.feeds database).Shifts related (Store.feeds { database with problems, lastProblem := last }) := by
  refine ⟨rfl, rfl, fun query answer given => ?_⟩
  change (database.problemsOf query).mapError FeedFault.backend = .ok answer at given
  cases asked : database.problemsOf query with
  | error fault =>
    rw [asked] at given
    cases given
  | ok found =>
    rw [asked] at given
    cases given
    obtain ⟨keys, kept, _⟩ := exists_ok_of_bind asked
    have read_before := (exists_problemsOf_iff kept).mp ⟨answer, asked⟩
    let changed : Database := { database with problems, lastProblem := last }
    have read_after : ∀ row ∈ changed.problems.values, Wants query keys row →
        ∃ problem, problemOfRow row = .ok problem := by
      rintro row stored ⟨severe, listed⟩
      rcases readable row stored with read | ⟨prior, there, raised, grave⟩
      · exact read
      · obtain ⟨problem, read⟩ := read_before prior there ⟨grave ▸ severe, raised ▸ listed⟩
        obtain ⟨named, graded, _⟩ := problemOfRow_eq_ok_iff.mp read
        exact ⟨{ problem with acknowledged := row.acknowledged },
          problemOfRow_eq_ok_iff.mpr ⟨raised ▸ named, grave ▸ graded, rfl⟩⟩
    obtain ⟨other, answered⟩ := (exists_problemsOf_iff kept).mpr read_after
    refine ⟨other, ?_, relates query keys answer other (answers_problemsOf kept asked)
      (answers_problemsOf kept answered)⟩
    change (changed.problemsOf query).mapError FeedFault.backend = .ok other
    rw [answered]
    rfl

/-- Acknowledging one row calms the problems that the rows hold. -/
theorem calmed_of_modify {query : ProblemQuery} {keys : List Int} {number : Int} {answer other : List Problem}
    (before : Answers problems.values query keys answer)
    (after : Answers (problems.modify number ({ · with acknowledged := true })).values query keys other) :
    Calmed answer other where
  earlier problem member := by
    obtain ⟨row, stored, wanted, read⟩ := (after problem).mp member
    rcases mem_values_modify.mp stored with ⟨prior, found, rfl⟩ | ⟨key, _, found⟩
    · obtain ⟨named, graded, acknowledged⟩ := problemOfRow_eq_ok_iff.mp read
      refine ⟨{ problem with acknowledged := prior.acknowledged }, (before _).mpr ?_, rfl, rfl,
        fun pending => ?_⟩
      · exact ⟨prior, mem_values.mpr ⟨number, found⟩, wanted, problemOfRow_eq_ok_iff.mpr ⟨named, graded, rfl⟩⟩
      · rw [← acknowledged] at pending
        cases pending
    · exact ⟨problem, (before problem).mpr ⟨row, mem_values.mpr ⟨key, found⟩, wanted, read⟩, rfl, rfl, id⟩
  later prior member := by
    obtain ⟨row, stored, wanted, read⟩ := (before prior).mp member
    obtain ⟨key, found⟩ := mem_values.mp stored
    by_cases here : key = number
    · subst here
      obtain ⟨named, graded, _⟩ := problemOfRow_eq_ok_iff.mp read
      refine ⟨{ prior with acknowledged := true },
        (after _).mpr ⟨{ row with acknowledged := true }, ?_, wanted, ?_⟩, rfl, rfl⟩
      · exact mem_values_modify.mpr (.inl ⟨row, found, rfl⟩)
      · exact problemOfRow_eq_ok_iff.mpr ⟨named, graded, rfl⟩
    · refine ⟨prior, (after prior).mpr ⟨row, ?_, wanted, read⟩, rfl, rfl⟩
      exact mem_values_modify.mpr (.inr ⟨key, here, found⟩)

/-- A database gives one more problem, one less, or calmer ones, as long as the next number is free. -/
theorem shiftsProblems (free : database.lastProblem + 1 ∉ database.problems) : ShiftsProblems database where
  opened problem changed number inserted := by
    obtain ⟨key, kept, _⟩ := exists_ok_of_bind inserted
    have fits := fits_of_cell kept
    change database.insertProblem problem = _ at inserted
    rw [insertProblem_eq database fits] at inserted
    split at inserted
    · cases inserted
      refine shifts_of_rows _ (fun row stored => ?_)
        fun query keys answer other before after problem member => ?_
      · rcases eq_or_mem_of_mem_values_insert stored with rfl | stored
        · exact .inl ⟨problem, problemOfRow_row fits⟩
        · exact .inr ⟨row, stored, rfl, rfl⟩
      · obtain ⟨row, stored, wanted, read⟩ := (before problem).mp member
        exact (after problem).mpr ⟨row, values_subset_insert free _ stored, wanted, read⟩
    · cases inserted
  resolved number changed resolved := by
    change database.resolve number = _ at resolved
    rw [resolve] at resolved
    split at resolved
    · cases resolved
      have subset := values_erase_subset database.problems number
      refine shifts_of_rows _ (fun row stored => .inr ⟨row, subset stored, rfl, rfl⟩)
        fun query keys answer other before after problem member => ?_
      obtain ⟨row, stored, wanted, read⟩ := (after problem).mp member
      exact (before problem).mpr ⟨row, subset stored, wanted, read⟩
    · cases resolved
  acknowledged number changed acknowledged := by
    change database.acknowledge number = _ at acknowledged
    rw [acknowledge] at acknowledged
    split at acknowledged
    · next row found =>
      cases acknowledged
      rw [insert_eq_modify found ({ · with acknowledged := true })]
      refine shifts_of_rows _ (fun row stored => ?_) fun _ _ _ _ => calmed_of_modify
      rcases mem_values_modify.mp stored with ⟨prior, there, rfl⟩ | ⟨key, _, there⟩
      · exact .inr ⟨prior, mem_values.mpr ⟨number, there⟩, rfl, rfl⟩
      · exact .inr ⟨row, mem_values.mpr ⟨key, there⟩, rfl, rfl⟩
    · cases acknowledged

end Writes

end Database

/-- Opening a problem never takes triggers away from an item's count, resolving one never adds any, and
acknowledging one lets no slot grow and changes nothing where acknowledged problems count. This holds for a
store in memory after any calls, which always counts, and for a database in any state in which it counts. -/
theorem counts_follow_problems (items : List Item) {item : Item} (member : item ∈ (Tree.ofItems items).items) :
    (∀ operations,
      let store := (performAll Snapshot.load operations (Store.empty : Memory)).2
      ∃ bucket, (Store.feeds store).CountIn (Tree.ofItems items) item bucket ∧
        MovesCounts store (Tree.ofItems items) item bucket) ∧
    ∀ database : Database, database.Reachable → ∀ bucket,
      (Store.feeds database).CountIn (Tree.ofItems items) item bucket →
        MovesCounts database (Tree.ofItems items) item bucket := by
  have distinct := (Tree.repaired_ofItems items).nodup_ids
  constructor
  · intro operations store
    -- A number in use would be given to another problem, and a trigger might not count any longer.
    have free : (store.nextProblem : Int) ∉ store.problems := fun taken =>
      lt_irrefl _ ((Memory.remembers_empty.afterAll operations).number_lt taken)
    obtain ⟨bucket, count⟩ := store.exists_countIn distinct member
    exact ⟨bucket, count, (Memory.shiftsProblems free).movesCounts distinct member count⟩
  · intro database reachable bucket count
    exact (Database.shiftsProblems reachable.numbered.next_not_mem).movesCounts distinct member count

/-- A map that shows what nobody has acknowledged, and a problem of the trigger on it. -/
def pendingCalls : List Operation := [
  .change (.insertMap ⟨⟨1⟩, "", .notClassified, true, [⟨.triggers [⟨7⟩], .read⟩], [], ∅⟩),
  .change (.insertTrigger ⟨⟨7⟩, .high, ∅, ∅, false⟩),
  .change (.insertProblem ⟨⟨7⟩, .high, false⟩)]

def pendingItem : Item := ⟨⟨1⟩, "", .zero, ⟨1⟩, ∅⟩

/-- One trigger of high severity counts, and none once its problem is acknowledged. -/
theorem counts_follow_problems_pending :
    let tree := Tree.ofItems [pendingItem]
    let store := (performAll Snapshot.load pendingCalls (Store.empty : Memory)).2
    let database := (performAll Database.take pendingCalls (Store.empty : Database)).2
    pendingItem ∈ tree.items ∧ database.Reachable ∧
      (∃ bucket, (Store.feeds store).CountIn tree pendingItem bucket ∧
        MovesCounts store tree pendingItem bucket) ∧
      (Store.feeds database).CountIn tree pendingItem (.ofList [.high]) ∧
      MovesCounts database tree pendingItem (.ofList [.high]) ∧
      ∃ changed, Store.acknowledge database 1 = .ok changed ∧
        (Store.feeds changed).CountIn tree pendingItem .empty := by
  intro tree store database
  have member : pendingItem ∈ tree.items := by decide +kernel
  have reachable : database.Reachable := Database.Reachable.empty.performAll pendingCalls
  have count : (Store.feeds database).CountIn tree pendingItem (.ofList [.high]) := by decide +kernel
  obtain ⟨in_memory, in_tables⟩ := counts_follow_problems [pendingItem] member
  exact ⟨member, reachable, in_memory pendingCalls, count, in_tables database reachable _ count,
    { database with problems := database.problems.insert 1 ⟨7, 4, true⟩ }, by decide +kernel, by decide +kernel⟩

end ProblemBoard
