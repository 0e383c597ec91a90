import ProblemBoard.Proofs.Loading
import ProblemBoard.Store.Edit

/-! # How a database numbers problems

A database gives a problem the number after the highest one that it ever gave. No call takes this mark back,
and no edit behind its back gives a number to a problem, so the next number is always free.
-/

namespace ProblemBoard

theorem Edit.modify_fst {ρ : Type} (rows : Std.ExtTreeMap Int ρ) (key : Int) (change : ρ → ρ) :
    (modify rows key change).1 = rows.modify key change := by
  rw [modify]
  split
  · next row found => exact insert_eq_modify found change
  · next missing =>
    ext other row
    rw [Std.ExtTreeMap.getElem?_modify]
    split
    · next same =>
      obtain rfl := Std.compare_eq_iff_eq.mp same
      simp [missing]
    · rfl

namespace Database

/-- The states that a database gets into by calls, and by edits behind its back. -/
inductive Reachable : Database → Prop
  | empty : Reachable empty
  | perform {database : Database} : Reachable database → (operation : Operation) →
      Reachable (operation.perform take database).2
  | edit {database changed : Database} {edit : Edit} {rows : Nat} : Reachable database →
      database.edit edit = .ok (changed, rows) → Reachable changed

/-- No problem has a number above the highest one that was given. -/
def Numbered (database : Database) : Prop := ∀ number ∈ database.problems, number ≤ database.lastProblem

namespace Numbered

variable {database changed : Database}

theorem empty : Database.empty.Numbered := by
  intro number member
  cases member

theorem next_not_mem (numbered : database.Numbered) : database.lastProblem + 1 ∉ database.problems := by
  intro member
  have := numbered _ member
  omega

/-- Problems may go as long as the highest number stays. -/
theorem of_subset (numbered : database.Numbered)
    (kept : ∀ number ∈ changed.problems, number ∈ database.problems)
    (last : changed.lastProblem = database.lastProblem) : changed.Numbered := by
  intro number member
  rw [last]
  exact numbered number (kept number member)

theorem insertMap (numbered : database.Numbered) {map : NetworkMap}
    (written : database.insertMap map = .ok changed) : changed.Numbered := by
  obtain ⟨_, _, written⟩ := exists_ok_of_bind written
  obtain ⟨key, _, written⟩ := exists_ok_of_bind written
  cases written
  exact numbered

theorem deleteMap (numbered : database.Numbered) {id : MapId} (written : database.deleteMap id = .ok changed) :
    changed.Numbered := by
  obtain ⟨key, _, written⟩ := exists_ok_of_bind written
  split at written
  · cases written
    exact numbered
  · cases written

theorem insertTrigger (numbered : database.Numbered) {trigger : Trigger}
    (written : database.insertTrigger trigger = .ok changed) : changed.Numbered := by
  rw [insertTrigger_eq database (fits_of_insertTrigger written)] at written
  cases written
  exact numbered

theorem appendProblem (numbered : database.Numbered) (row : ProblemRow) : (database.appendProblem row).Numbered := by
  intro number member
  change number ∈ database.problems.insert (database.lastProblem + 1) row at member
  rw [Std.ExtTreeMap.mem_insert, Std.compare_eq_iff_eq] at member
  rcases member with rfl | member
  · exact Int.le_refl _
  · exact Int.le_trans (numbered number member) (Int.le_of_lt (Int.lt_succ _))

theorem insertProblem (numbered : database.Numbered) {problem : Problem} {number : Int}
    (written : database.insertProblem problem = .ok (changed, number)) : changed.Numbered := by
  obtain ⟨key, _, written⟩ := exists_ok_of_bind written
  split at written
  · cases written
    exact numbered.appendProblem _
  · cases written

theorem acknowledge (numbered : database.Numbered) {id : Int}
    (written : database.acknowledge id = .ok changed) : changed.Numbered := by
  rw [Database.acknowledge] at written
  split at written
  · next row found =>
    cases written
    refine numbered.of_subset (fun number member => ?_) rfl
    rwa [insert_eq_modify found ({ · with acknowledged := true }), Std.ExtTreeMap.mem_modify] at member
  · cases written

theorem resolve (numbered : database.Numbered) {id : Int} (written : database.resolve id = .ok changed) :
    changed.Numbered := by
  rw [Database.resolve] at written
  split at written
  · cases written
    exact numbered.of_subset (fun _ => Std.ExtTreeMap.mem_of_mem_erase) rfl
  · cases written

theorem insertInto (numbered : database.Numbered) {snapshot : Snapshot}
    (inserted : snapshot.insertInto database = .ok changed) : changed.Numbered := by
  obtain ⟨_, maps, inserted⟩ := exists_ok_of_bind inserted
  obtain ⟨_, triggers, inserted⟩ := exists_ok_of_bind inserted
  obtain ⟨_, problems, configured⟩ := exists_ok_of_bind inserted
  have mapped := keeps_of_foldlM (fun _ _ _ numbered => insertMap numbered) numbered maps
  have triggered := keeps_of_foldlM (fun _ _ _ numbered => insertTrigger numbered) mapped triggers
  have opens (database : Database) (problem : Problem) (changed : Database) (numbered : database.Numbered)
      (opened : (Store.insertProblem database problem).map Prod.fst = .ok changed) : changed.Numbered := by
    obtain ⟨⟨_, _⟩, written, rfl⟩ := exists_of_map_eq_ok opened
    exact numbered.insertProblem written
  have raised := keeps_of_foldlM opens triggered problems
  split at configured
  · cases configured
    exact raised
  · cases configured
    exact raised

theorem apply (numbered : database.Numbered) {change : Change} {answer : Answer}
    (made : change.apply database = .ok (answer, changed)) : changed.Numbered := by
  have written {result : Except StoreFault Database}
      (made : result.map (Answer.done, ·) = .ok (answer, changed)) : result = .ok changed := by
    obtain ⟨_, rfl, same⟩ := exists_of_map_eq_ok made
    cases same
    rfl
  cases change with
  | insertMap map => exact numbered.insertMap (written made)
  | deleteMap id => exact numbered.deleteMap (written made)
  | insertTrigger trigger => exact numbered.insertTrigger (written made)
  | insertProblem problem =>
    obtain ⟨_, opened, same⟩ := exists_of_map_eq_ok made
    cases same
    exact numbered.insertProblem opened
  | acknowledge problem => exact numbered.acknowledge (written made)
  | resolve problem => exact numbered.resolve (written made)
  | setSeverityConfig | setEntry | deleteEntry | setSelected =>
    cases made
    exact numbered
  | setOpened _ _ _ isOpen =>
    cases made
    cases isOpen <;> exact numbered

/-- After any call, whatever its outcome. -/
theorem perform (numbered : database.Numbered) (operation : Operation) :
    (operation.perform take database).2.Numbered := by
  cases operation with
  | ask question => exact numbered
  | change change =>
    simp only [Operation.perform]
    cases made : change.apply database with
    | error fault => exact numbered
    | ok result => exact numbered.apply made
  | take snapshot =>
    simp only [Operation.perform]
    cases taken : take snapshot database with
    | mk result after =>
      cases result with
      | error fault => exact take_eq_error taken ▸ numbered
      | ok summary => exact numbered.insertInto (take_eq_ok_iff.mp taken).2.2

theorem addMembership (numbered : database.Numbered) {key member : Int}
    {members : TriggerRow → Std.ExtTreeSet Int} {add : TriggerRow → TriggerRow} {rows : Nat}
    (edited : database.addMembership key member members add = .ok (changed, rows)) : changed.Numbered := by
  rw [Database.addMembership] at edited
  split at edited
  · cases edited
  · split at edited
    · cases edited
    · cases edited
      exact numbered

theorem edit (numbered : database.Numbered) {edit : Edit} {rows : Nat}
    (edited : database.edit edit = .ok (changed, rows)) : changed.Numbered := by
  cases edit with
  | mapSeverity | mapUnacknowledged | mapElements | mapLinks | triggerSeverity | deleteStyle | version =>
    cases edited
    exact numbered
  | mapKey | styleKey =>
    obtain ⟨_, _, edited⟩ := exists_ok_of_bind edited
    cases edited
    exact numbered
  | addTriggerHost | addTriggerGroup => exact numbered.addMembership edited
  | deleteTrigger key =>
    cases edited
    exact numbered.of_subset (fun _ => Std.ExtTreeMap.mem_of_mem_filter) rfl
  | problemSeverity key cell =>
    cases edited
    refine numbered.of_subset (fun number member => ?_) rfl
    change number ∈ (Edit.modify database.problems key _).1 at member
    rwa [Edit.modify_fst, Std.ExtTreeMap.mem_modify] at member

end Numbered

theorem Reachable.performAll {database : Database} (reachable : database.Reachable)
    (operations : List Operation) : (performAll take operations database).2.Reachable := by
  induction operations generalizing database with
  | nil => exact reachable
  | cons operation rest ih => exact ih (reachable.perform operation)

theorem Reachable.numbered {database : Database} (reachable : database.Reachable) : database.Numbered := by
  induction reachable with
  | empty => exact .empty
  | perform _ operation numbered => exact numbered.perform operation
  | edit _ edited numbered => exact numbered.edit edited

end Database

end ProblemBoard
