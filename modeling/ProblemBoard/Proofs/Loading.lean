import ProblemBoard.Proofs.Histories
import ProblemBoard.Proofs.Transactions

/-! # Snapshots are taken in as a whole or not at all

A snapshot that passes its check is inserted piece by piece: maps, triggers, problems, and then the
configuration. A store in memory accepts every piece of such a snapshot, because each trigger stays in the
store once it is there. A database also accepts each piece, as long as the identifiers that it keeps in
cells fit there; where one does not, an import leaves the database as it was.
-/

namespace ProblemBoard

namespace Snapshot

section Writing

variable {σ α : Type} {write : σ → α → Except StoreFault σ} {values : List α} {store : σ}

theorem writeAll_of_foldlM {after : σ} (success : values.foldlM write store = .ok after) :
    writeAll write values store = (.ok (), after) := by
  induction values generalizing store with
  | nil => exact congrArg (Except.ok (), ·) (Except.ok.inj success)
  | cons first rest step =>
    rw [List.foldlM_cons] at success
    obtain ⟨changed, written, success⟩ := exists_ok_of_bind success
    rw [writeAll, written]
    exact step success

theorem writeAll_fst_of_foldlM {fault : StoreFault} (failure : values.foldlM write store = .error fault) :
    (writeAll write values store).1 = .error fault := by
  induction values generalizing store with
  | nil => cases failure
  | cons first rest step =>
    rw [List.foldlM_cons] at failure
    rw [writeAll]
    cases written : write store first with
    | error reason =>
      rw [written] at failure
      exact congrArg Except.error (Except.error.inj failure)
    | ok changed =>
      rw [written] at failure
      exact step failure

end Writing

section Insertion

variable {σ : Type} [Store σ]

/-- The store after everything in a snapshot has been inserted: the maps, then the triggers, then the
problems, each in the order of the snapshot, and then the configuration in place of the one before. -/
def insertInto (snapshot : Snapshot) (store : σ) : Except StoreFault σ := do
  let store ← snapshot.maps.foldlM Store.insertMap store
  let store ← snapshot.triggers.foldlM Store.insertTrigger store
  let store ← snapshot.problems.foldlM
    (fun store problem => (Store.insertProblem store problem).map Prod.fst) store
  match snapshot.config with
  | some config => Store.setSeverityConfig store config
  | none => pure store

theorem foldlM_writes (snapshot : Snapshot) (store : σ) :
    snapshot.writes.foldlM (fun store write => write store) store = snapshot.insertInto store := by
  simp only [writes, List.foldlM_append, List.foldlM_map, insertInto, bind_assoc]
  cases snapshot.config <;> simp

variable {snapshot : Snapshot} {store : σ}

theorem load_of_check_error {fault : StoreFault} (failed : snapshot.check store = .error fault) :
    snapshot.load store = (.error fault, store) := by
  rw [load, failed]

theorem load_of_insertInto {after : σ} (passed : snapshot.check store = .ok ())
    (inserted : snapshot.insertInto store = .ok after) : snapshot.load store = (.ok snapshot.summary, after) := by
  rw [← foldlM_writes] at inserted
  rw [load, passed]
  simp only [writeAll_of_foldlM inserted]
  rfl

theorem load_fst_of_insertInto {fault : StoreFault} (passed : snapshot.check store = .ok ())
    (refused : snapshot.insertInto store = .error fault) : (snapshot.load store).1 = .error fault := by
  rw [← foldlM_writes] at refused
  rw [load, passed]
  simp only [writeAll_fst_of_foldlM refused]
  rfl

end Insertion

section Checks

variable {σ : Type} [Store σ] {snapshot : Snapshot} {store : σ}

/-- One of the triggers of the snapshot has the identifier. -/
def Brings (snapshot : Snapshot) (id : TriggerId) : Prop := ∃ trigger ∈ snapshot.triggers, trigger.id = id

/-- The check of one problem. -/
def checkProblem (snapshot : Snapshot) (store : σ) (problem : Problem) : Except StoreFault Unit :=
  if (Std.ExtTreeSet.ofList (snapshot.triggers.map Trigger.id)).contains problem.trigger then pure ()
  else (Store.trigger store problem.trigger).map fun _ => ()

theorem check_eq : snapshot.check store = (do
    snapshot.maps.forM fun map => map.validate.mapError .invalidModel
    snapshot.problems.forM (snapshot.checkProblem store)) := rfl

theorem brings_iff {id : TriggerId} :
    (Std.ExtTreeSet.ofList (snapshot.triggers.map Trigger.id)).contains id = true ↔ snapshot.Brings id := by
  simp [Brings]

theorem checkMap_eq_ok_iff {map : NetworkMap} :
    map.validate.mapError StoreFault.invalidModel = .ok () ↔ map.fault? = none := by
  rw [NetworkMap.validate]
  cases map.fault? <;> simp

theorem checkProblem_eq_ok_iff {problem : Problem} : snapshot.checkProblem store problem = .ok () ↔
    snapshot.Brings problem.trigger ∨ ∃ trigger, Store.trigger store problem.trigger = .ok trigger := by
  rw [checkProblem, ← brings_iff]
  split
  · next own => simp [own, pure, Except.pure]
  · next foreign =>
    cases Store.trigger store problem.trigger <;> simp [foreign, Except.map]

theorem check_eq_ok_iff : snapshot.check store = .ok () ↔ (∀ map ∈ snapshot.maps, map.fault? = none) ∧
    ∀ problem ∈ snapshot.problems, snapshot.Brings problem.trigger ∨
      ∃ trigger, Store.trigger store problem.trigger = .ok trigger := by
  simp only [← checkMap_eq_ok_iff, ← checkProblem_eq_ok_iff, ← forM_eq_ok_iff]
  rw [check_eq]
  cases snapshot.maps.forM fun map => map.validate.mapError StoreFault.invalidModel with
  | error fault =>
    constructor
    · exact nofun
    · rintro ⟨fine, _⟩
      cases fine
  | ok => exact (and_iff_right rfl).symm

end Checks

section Acceptance

variable {σ : Type} {has : σ → TriggerId → Prop}

/-- A loop of insertions goes through if each of them can be made while the store has certain triggers, and
if none of them takes a trigger away. -/
theorem foldlM_accepted {α : Type} {step : σ → α → Except StoreFault σ} {values : List α}
    (needs gains : α → TriggerId → Prop)
    (each : ∀ value ∈ values, ∀ store, (∀ id, needs value id → has store id) →
      ∃ changed, step store value = .ok changed ∧ (∀ id, gains value id → has changed id) ∧
        ∀ id, has store id → has changed id)
    {store : σ} (needed : ∀ value ∈ values, ∀ id, needs value id → has store id) :
    ∃ after, values.foldlM step store = .ok after ∧ (∀ value ∈ values, ∀ id, gains value id → has after id) ∧
      ∀ id, has store id → has after id := by
  induction values generalizing store with
  | nil => exact ⟨store, rfl, by simp, fun _ => id⟩
  | cons first rest ih =>
    rw [List.forall_mem_cons] at needed each
    obtain ⟨changed, stepped, gained, kept⟩ := each.1 store needed.1
    obtain ⟨after, success, gained_rest, kept_rest⟩ :=
      ih each.2 fun value member id need => kept id (needed.2 value member id need)
    refine ⟨after, ?_, ?_, fun id there => kept_rest id (kept id there)⟩
    · rw [List.foldlM_cons, stepped]
      exact success
    · exact List.forall_mem_cons.mpr ⟨fun id gain => kept_rest id (gained id gain), gained_rest⟩

variable [Store σ]

/-- What a store accepts: maps and triggers that fit, and problems whose trigger it has. No insertion takes
a trigger away. -/
structure Accepts (mapFits : NetworkMap → Prop) (triggerFits : Trigger → Prop)
    (has : σ → TriggerId → Prop) : Prop where
  insertMap : ∀ (store : σ) (map : NetworkMap), map.fault? = none → mapFits map →
    ∃ changed, Store.insertMap store map = .ok changed ∧ ∀ id, has store id → has changed id
  insertTrigger : ∀ (store : σ) (trigger : Trigger), triggerFits trigger →
    ∃ changed, Store.insertTrigger store trigger = .ok changed ∧ has changed trigger.id ∧
      ∀ id, has store id → has changed id
  insertProblem : ∀ (store : σ) (problem : Problem), has store problem.trigger →
    ∃ changed number, Store.insertProblem store problem = .ok (changed, number) ∧
      ∀ id, has store id → has changed id
  setSeverityConfig : ∀ (store : σ) (config : SeverityConfig),
    ∃ changed, Store.setSeverityConfig store config = .ok changed

/-- Everything in a snapshot is accepted if its maps and triggers fit and its problems have triggers. -/
theorem Accepts.insertInto_ok {mapFits : NetworkMap → Prop} {triggerFits : Trigger → Prop}
    (accepts : Accepts mapFits triggerFits has) {snapshot : Snapshot} {store : σ}
    (maps : ∀ map ∈ snapshot.maps, map.fault? = none ∧ mapFits map)
    (triggers : ∀ trigger ∈ snapshot.triggers, triggerFits trigger)
    (problems : ∀ problem ∈ snapshot.problems, snapshot.Brings problem.trigger ∨ has store problem.trigger) :
    ∃ after, snapshot.insertInto store = .ok after := by
  have inserts_maps : ∃ mapped, snapshot.maps.foldlM Store.insertMap store = .ok mapped ∧
      (∀ map ∈ snapshot.maps, ∀ id, False → has mapped id) ∧ ∀ id, has store id → has mapped id := by
    refine foldlM_accepted (fun _ _ => False) (fun _ _ => False) (fun map member before _ => ?_) nofun
    obtain ⟨changed, inserted, kept⟩ := accepts.insertMap before map (maps map member).1 (maps map member).2
    exact ⟨changed, inserted, nofun, kept⟩
  obtain ⟨mapped, maps_inserted, _, kept⟩ := inserts_maps
  have inserts_triggers : ∃ triggered, snapshot.triggers.foldlM Store.insertTrigger mapped = .ok triggered ∧
      (∀ trigger ∈ snapshot.triggers, ∀ id : TriggerId, trigger.id = id → has triggered id) ∧
        ∀ id, has mapped id → has triggered id := by
    refine foldlM_accepted (fun _ _ => False) (fun (trigger : Trigger) id => trigger.id = id)
      (fun trigger member before _ => ?_) nofun
    obtain ⟨changed, inserted, gained, kept⟩ := accepts.insertTrigger before trigger (triggers trigger member)
    exact ⟨changed, inserted, fun _ own => own ▸ gained, kept⟩
  obtain ⟨triggered, triggers_inserted, gained, kept_then⟩ := inserts_triggers
  have inserts_problems : ∃ filled, snapshot.problems.foldlM
      (fun store problem => (Store.insertProblem store problem).map Prod.fst) triggered = .ok filled ∧
      (∀ problem ∈ snapshot.problems, ∀ id, False → has filled id) ∧ ∀ id, has triggered id → has filled id := by
    refine foldlM_accepted (fun problem id => problem.trigger = id) (fun _ _ => False)
      (fun problem member before needed => ?_) ?_
    · obtain ⟨changed, number, inserted, kept⟩ := accepts.insertProblem before problem (needed _ rfl)
      exact ⟨changed, by rw [inserted]; rfl, nofun, kept⟩
    · rintro problem member _ rfl
      rcases problems problem member with ⟨trigger, brought, own⟩ | there
      · exact gained trigger brought _ own
      · exact kept_then _ (kept _ there)
  obtain ⟨filled, problems_inserted, _⟩ := inserts_problems
  simp only [insertInto, maps_inserted, triggers_inserted, problems_inserted, bind, Except.bind]
  cases snapshot.config with
  | none => exact ⟨filled, rfl⟩
  | some config => exact accepts.setSeverityConfig filled config

end Acceptance

end Snapshot

namespace Memory

/-- A store in memory accepts every map that is fit, every trigger, and problems of stored triggers. -/
theorem accepts : Snapshot.Accepts (fun _ => True) (fun _ => True) fun (store : Memory) id => id ∈ store.triggers where
  insertMap store map valid _ := by
    have passed := NetworkMap.validate_eq_ok_iff.mpr valid
    refine ⟨{ store with maps := store.maps.insert map.id { map with submaps := ∅ } }, ?_, fun _ => id⟩
    change Memory.insertMap store map = _
    rw [Memory.insertMap, passed]
    rfl
  insertTrigger store trigger _ := by
    refine ⟨store.insertTrigger trigger, rfl, ?_, fun id there => ?_⟩
    · exact Std.ExtTreeMap.mem_insert_self
    · exact Std.ExtTreeMap.mem_insert.mpr (.inr there)
  insertProblem store problem there :=
    ⟨_, _, if_pos (Std.ExtTreeMap.contains_iff_mem.mpr there), fun _ => id⟩
  setSeverityConfig store config := ⟨_, rfl⟩

theorem map_eq_ok_iff {store : Memory} {id : MapId} {map : NetworkMap} :
    store.map id = .ok map ↔ store.maps[id]? = some map := by
  rw [Memory.map]
  cases store.maps[id]? <;> simp [pure, Except.pure, throw, throwThe, MonadExceptOf.throw]

theorem trigger_eq_ok_iff {store : Memory} {id : TriggerId} {trigger : Trigger} :
    Store.trigger store id = .ok trigger ↔ store.triggers[id]? = some trigger := by
  change Memory.trigger store id = _ ↔ _
  rw [Memory.trigger]
  cases store.triggers[id]? <;> simp [pure, Except.pure, throw, throwThe, MonadExceptOf.throw]

theorem mem_triggers_iff {store : Memory} {id : TriggerId} :
    id ∈ store.triggers ↔ ∃ trigger, Store.trigger store id = .ok trigger := by
  simp only [mem_iff_exists_getElem?, trigger_eq_ok_iff]

/-- A snapshot that passes its check is inserted into a store in memory as a whole. -/
theorem insertInto_of_check {snapshot : Snapshot} {store : Memory} (passed : snapshot.check store = .ok ()) :
    ∃ after, snapshot.insertInto store = .ok after := by
  obtain ⟨maps, problems⟩ := Snapshot.check_eq_ok_iff.mp passed
  refine accepts.insertInto_ok (fun map member => ⟨maps map member, trivial⟩) (fun _ _ => trivial) ?_
  exact fun problem member => (problems problem member).imp_right mem_triggers_iff.mpr

end Memory

namespace Database

/-- The database has the row of a trigger. -/
def Has (database : Database) (id : TriggerId) : Prop := id.FitsCell ∧ id.number ∈ database.triggers

/-- A database accepts what a store in memory accepts, as long as identifiers fit into cells. -/
theorem accepts : Snapshot.Accepts (fun map => map.id.FitsCell) Trigger.FitsCells Database.Has where
  insertMap database map valid fits := by
    have passed := NetworkMap.validate_eq_ok_iff.mpr valid
    refine ⟨{ database with maps := database.maps.insert map.id.number (rowOfMap map) }, ?_, fun _ => id⟩
    change Database.insertMap database map = _
    rw [Database.insertMap, passed, cell_eq fits]
    rfl
  insertTrigger database trigger fits := by
    refine ⟨{ database with triggers := database.triggers.insert trigger.id.number trigger.row },
      insertTrigger_eq database fits, ⟨fits.1, Std.ExtTreeMap.mem_insert_self⟩, fun id there => ?_⟩
    exact ⟨there.1, Std.ExtTreeMap.mem_insert.mpr (.inr there.2)⟩
  insertProblem database problem there := by
    have kept : Database.insertProblem database problem = _ :=
      (insertProblem_eq database there.1).trans (if_pos (Std.ExtTreeMap.contains_iff_mem.mpr there.2))
    exact ⟨_, _, kept, fun _ => id⟩
  setSeverityConfig database config := ⟨_, rfl⟩

/-- A database that finds a trigger has its row. -/
theorem has_of_trigger {database : Database} {id : TriggerId} {trigger : Trigger}
    (found : Store.trigger database id = .ok trigger) : database.Has id := by
  change Database.trigger database id = .ok trigger at found
  rw [Database.trigger] at found
  by_cases fits : id.FitsCell
  · by_contra missing
    have nothing : database.triggersAt ([id].map Ident.number) = .ok ((chunks [id]).flatMap fun _ => []) := by
      refine answers_of_chunks fun chunk part short => (Clause.find_ofCondition short).trans ?_
      have none_there : (database.triggers.toList.filter fun row =>
          (Condition.ofNumbers "trigger_id" (chunk.map Ident.number) false).selects (some row.1)) = [] := by
        rw [List.filter_eq_nil_iff]
        rintro ⟨key, row⟩ listed selected
        rw [Condition.selects_ofNumbers, List.contains_iff_mem, List.mem_map] at selected
        obtain ⟨other, member, rfl⟩ := selected
        obtain rfl := List.mem_singleton.mp (part.subset member)
        rw [Std.ExtTreeMap.mem_toList_iff_getElem?_eq_some] at listed
        exact missing ⟨fits, mem_iff_exists_getElem?.mpr ⟨row, listed⟩⟩
      simp only [none_there]
      rfl
    have empty : (chunks [id]).flatMap (fun _ => ([] : List Trigger)) = [] := by simp
    rw [cell_eq fits] at found
    change (database.triggersAt ([id].map Ident.number) >>= _) = .ok trigger at found
    rw [nothing, empty] at found
    cases found
  · rw [cell_of_not_fits fits] at found
    cases found

/-- After its check, a snapshot is inserted as a whole if its maps and triggers fit into cells. -/
theorem insertInto_of_check {snapshot : Snapshot} {database : Database}
    (passed : snapshot.check database = .ok ()) (maps : ∀ map ∈ snapshot.maps, map.id.FitsCell)
    (triggers : ∀ trigger ∈ snapshot.triggers, trigger.FitsCells) :
    ∃ after, snapshot.insertInto database = .ok after := by
  obtain ⟨valid, problems⟩ := Snapshot.check_eq_ok_iff.mp passed
  refine accepts.insertInto_ok (fun map member => ⟨valid map member, maps map member⟩) triggers ?_
  exact fun problem member => (problems problem member).imp_right fun ⟨_, found⟩ => has_of_trigger found

/-- A database refuses maps and triggers that do not fit into cells. -/
theorem fits_of_insertInto {snapshot : Snapshot} {database after : Database}
    (inserted : snapshot.insertInto database = .ok after) :
    (∀ map ∈ snapshot.maps, map.id.FitsCell) ∧ ∀ trigger ∈ snapshot.triggers, trigger.FitsCells := by
  obtain ⟨mapped, maps_inserted, inserted⟩ := exists_ok_of_bind inserted
  obtain ⟨triggered, triggers_inserted, _⟩ := exists_ok_of_bind inserted
  constructor
  · intro map member
    obtain ⟨before, changed, written⟩ := exists_step_of_foldlM maps_inserted map member
    exact fits_of_insertMap written
  · intro trigger member
    obtain ⟨before, changed, written⟩ := exists_step_of_foldlM triggers_inserted trigger member
    exact fits_of_insertTrigger written

theorem take_of_check_error {snapshot : Snapshot} {database : Database} {fault : StoreFault}
    (failed : snapshot.check database = .error fault) : take snapshot database = (.error fault, database) := by
  rw [take_eq, Snapshot.load_of_check_error failed]

theorem take_eq_ok_iff {snapshot : Snapshot} {database after : Database} {summary : LoadSummary} :
    take snapshot database = (.ok summary, after) ↔
      snapshot.check database = .ok () ∧ summary = snapshot.summary ∧ snapshot.insertInto database = .ok after := by
  cases passed : snapshot.check database with
  | error fault => simp [take_of_check_error passed]
  | ok =>
    rw [take_eq]
    cases inserted : snapshot.insertInto database with
    | ok loaded => simp [Snapshot.load_of_insertInto passed inserted, eq_comm]
    | error fault =>
      have refused := Snapshot.load_fst_of_insertInto passed inserted
      rcases loaded : snapshot.load database with ⟨result, partly⟩
      rw [loaded] at refused
      obtain rfl : result = .error fault := refused
      simp

theorem take_eq_error {snapshot : Snapshot} {database after : Database} {fault : StoreFault}
    (refused : take snapshot database = (.error fault, after)) : after = database := by
  rw [take_eq] at refused
  rcases loaded : snapshot.load database with ⟨_ | _, partly⟩
  · rw [loaded] at refused
    exact (congrArg Prod.snd refused).symm
  · rw [loaded] at refused
    cases refused

end Database

namespace Snapshot

/-- A map, and a trigger too large for a cell. -/
def oversized : Snapshot where
  maps := [⟨⟨1⟩, "", .notClassified, false, [], [], ∅⟩]
  triggers := [⟨⟨9223372036854775808⟩, .high, ∅, ∅, false⟩]
  problems := []
  config := none

-- Before the transaction is taken back, the map has been written.
example : let within := (Connection.beginWriting.on (.ofTables .empty true)).2
    (((Connection.load oversized).on within).2.tables.maps.size,
      ((Connection.take oversized).on (.ofTables .empty true)).2.tables.maps.size) = (1, 0) := by decide +kernel

end Snapshot

end ProblemBoard
