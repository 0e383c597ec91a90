import ProblemBoard.Proofs.Cells
import ProblemBoard.Store.Connection

/-! # Transactions

A session that makes writes on a connection does to its tables what the writes do, and leaves everything
else of the connection alone. What is written at a savepoint is written completely or not at all, and so
are triggers and configurations. An import leaves no transaction open: if it succeeds, its writes last, and
if it fails, the connection is as it was, whatever had been written up to then.
-/

namespace ProblemBoard

namespace Session

variable {α β : Type}

/-- On a connection that may write, the session changes nothing but the tables, and does so by a function of
the tables alone. -/
def Acts (session : Session α) (act : Database → Except StoreFault α × Database) : Prop :=
  ∀ connection : Connection, connection.writable = true →
    session.on connection =
      ((act connection.tables).1, { connection with tables := (act connection.tables).2 })

namespace Acts

variable {session : Session α} {act : Database → Except StoreFault α × Database}

theorem pure (value : α) : Acts (Pure.pure value) fun tables => (.ok value, tables) := fun _ _ => rfl

theorem bind {next : α → Session β} {onward : α → Database → Except StoreFault β × Database}
    (first : Acts session act) (second : ∀ value, Acts (next value) (onward value)) :
    Acts (session >>= next) fun tables =>
      match act tables with
      | (.ok value, after) => onward value after
      | (.error fault, after) => (.error fault, after) := by
  intro connection writable
  rw [on_bind, first connection writable]
  dsimp only
  rcases act connection.tables with ⟨_ | value, after⟩
  · rfl
  · exact second value { connection with tables := after } writable

end Acts

/-- A write that is made or refused as a whole. -/
def wholly (change : Database → Except StoreFault Database) (tables : Database) : Except StoreFault Unit × Database :=
  match change tables with
  | .ok changed => (.ok (), changed)
  | .error fault => (.error fault, tables)

namespace Acts

theorem write (change : Database → Except StoreFault Database) : Acts (Connection.write change) (wholly change) := by
  intro connection writable
  rw [Connection.write, on_bind, on_get]
  dsimp only
  rw [if_pos writable, on_bind, on_liftM, wholly]
  cases change connection.tables <;> rfl

/-- A write that depends on a result which needs no connection. -/
theorem lift {result : Except StoreFault α} {next : α → Session Unit}
    {change : α → Database → Except StoreFault Database}
    (going : ∀ value, result = .ok value → Acts (next value) (wholly (change value))) :
    Acts (liftM result >>= next) (wholly fun tables => result >>= fun value => change value tables) := by
  intro connection writable
  rw [on_bind, on_liftM]
  cases result with
  | error fault => rfl
  | ok value => exact going value rfl connection writable

/-- A loop of writes makes them one after the other, up to the first that is refused. -/
theorem forM {session : α → Session Unit} {change : Database → α → Except StoreFault Database} {values : List α}
    (each : ∀ value ∈ values, Acts (session value) (wholly (change · value))) :
    Acts (values.forM session) (Snapshot.writeAll change values) := by
  induction values with
  | nil => exact pure ()
  | cons first rest ih =>
    rw [List.forall_mem_cons] at each
    intro connection writable
    have stepped := (each.1.bind fun _ => ih each.2) connection writable
    rw [List.forM_eq_forM, List.forM_cons]
    refine stepped.trans ?_
    dsimp only
    rw [Snapshot.writeAll, wholly]
    cases change connection.tables first <;> rfl

/-- At a savepoint, writes that fail are taken back. -/
theorem nested {session : Session Unit} {act : Database → Except StoreFault Unit × Database}
    (acts : Acts session act) :
    Acts (Connection.nested session) fun tables =>
      match act tables with
      | (.ok _, after) => (.ok (), after)
      | (.error fault, _) => (.error fault, tables) := by
  intro connection writable
  let inside : Connection := { connection with savepoints := connection.tables :: connection.savepoints }
  have marked : Connection.savepoint.on connection = (.ok (), inside) := rfl
  have written := acts inside writable
  rw [Connection.nested, on_bind, marked]
  dsimp only
  rw [on_tryCatch, on_bind, written]
  dsimp only [inside]
  rcases act connection.tables with ⟨_ | _, after⟩ <;> rfl

end Acts

end Session

namespace Connection

open Session

theorem insertMap_acts (map : NetworkMap) : (insertMap map).Acts (wholly (·.insertMap map)) :=
  Acts.lift fun _ _ => Acts.lift fun _ _ => Acts.write _

section Triggers

variable {tables : Database} {key : Int} {row : TriggerRow}

theorem insert_again {ρ : Type} (rows : Std.ExtTreeMap Int ρ) (key : Int) (row other : ρ) :
    (rows.insert key row).insert key other = rows.insert key other := by
  ext at_key found
  simp only [Std.ExtTreeMap.getElem?_insert]
  split <;> rfl

theorem editTrigger_insert (change : TriggerRow → TriggerRow) :
    ({ tables with triggers := tables.triggers.insert key row }.editTrigger key change).1 =
      { tables with triggers := tables.triggers.insert key (change row) } := by
  simp only [Database.editTrigger, Edit.modify, Std.ExtTreeMap.getElem?_insert_self, insert_again]

/-- Members are added to a trigger one by one, as long as none of them is there already. -/
theorem writeAll_addMember (members : TriggerRow → Std.ExtTreeSet Int)
    (withMembers : TriggerRow → Std.ExtTreeSet Int → TriggerRow)
    (held : ∀ row set, members (withMembers row set) = set)
    (replaced : ∀ row set other, withMembers (withMembers row set) other = withMembers row other)
    (same : ∀ row, withMembers row (members row) = row)
    {values : List Int} (distinct : values.Nodup) (new : ∀ value ∈ values, value ∉ members row) :
    Snapshot.writeAll (fun (tables : Database) value =>
          (tables.addMembership key value members fun row => withMembers row ((members row).insert value)).map Prod.fst)
        values { tables with triggers := tables.triggers.insert key row } =
      (.ok (), { tables with
        triggers := tables.triggers.insert key (withMembers row ((members row).insertMany values)) }) := by
  induction values generalizing row with
  | nil => rw [Std.ExtTreeSet.insertMany_nil, same, Snapshot.writeAll]
  | cons first rest ih =>
    rw [List.forall_mem_cons] at new
    rw [List.nodup_cons] at distinct
    have added : ({ tables with triggers := tables.triggers.insert key row }.addMembership key first members
        fun row => withMembers row ((members row).insert first)).map Prod.fst =
        .ok { tables with triggers := tables.triggers.insert key (withMembers row ((members row).insert first)) } := by
      have absent : (members row).contains first = false := by
        rw [← Bool.not_eq_true, Std.ExtTreeSet.contains_iff_mem]
        exact new.1
      simp only [Database.addMembership, Std.ExtTreeMap.getElem?_insert_self, absent, Bool.false_eq_true, if_false]
      exact congrArg Except.ok (editTrigger_insert _)
    have still_new : ∀ value ∈ rest, value ∉ members (withMembers row ((members row).insert first)) := by
      intro value member there
      rw [held, Std.ExtTreeSet.mem_insert] at there
      rcases there with same | there
      · exact distinct.1 (Std.LawfulEqOrd.eq_of_compare same ▸ member)
      · exact new.2 value member there
    rw [Snapshot.writeAll, added]
    dsimp only
    rw [ih distinct.2 still_new, held, replaced, Std.ExtTreeSet.insertMany_cons]

theorem nodup_of_cells {entity : Entity} {ids : IdSet entity} {values : List Int}
    (kept : Database.cells ids = .ok values) : values.Nodup := by
  rw [IdSet.cells_eq (Database.fits_of_cells kept)] at kept
  obtain rfl := Except.ok.inj kept
  refine ids.ascending_numbers.imp fun {front back} less same => ?_
  rw [same, Std.ReflOrd.compare_self] at less
  cases less

theorem writeAll_addTriggerHost {hosts : List Int} (distinct : hosts.Nodup) (new : ∀ host ∈ hosts, host ∉ row.hosts) :
    Snapshot.writeAll (fun (tables : Database) host => (tables.edit (.addTriggerHost key host)).map Prod.fst) hosts
        { tables with triggers := tables.triggers.insert key row } =
      (.ok (), { tables with
        triggers := tables.triggers.insert key { row with hosts := row.hosts.insertMany hosts } }) :=
  writeAll_addMember TriggerRow.hosts (fun row hosts => { row with hosts }) (fun _ _ => rfl) (fun _ _ _ => rfl)
    (fun _ => rfl) distinct new

theorem writeAll_addTriggerGroup {groups : List Int} (distinct : groups.Nodup)
    (new : ∀ group ∈ groups, group ∉ row.groups) :
    Snapshot.writeAll (fun (tables : Database) group => (tables.edit (.addTriggerGroup key group)).map Prod.fst) groups
        { tables with triggers := tables.triggers.insert key row } =
      (.ok (), { tables with
        triggers := tables.triggers.insert key { row with groups := row.groups.insertMany groups } }) :=
  writeAll_addMember TriggerRow.groups (fun row groups => { row with groups }) (fun _ _ => rfl) (fun _ _ _ => rfl)
    (fun _ => rfl) distinct new

/-- A trigger is written as its row with all hosts and groups, or not at all. -/
theorem insertTrigger_acts (trigger : Trigger) : (insertTrigger trigger).Acts (wholly (·.insertTrigger trigger)) := by
  refine Acts.lift fun key _ => Acts.lift fun hosts hosted => Acts.lift fun groups grouped => ?_
  have body := (Acts.write fun tables => pure (upsertTrigger tables key trigger)).bind fun _ =>
    (Acts.write fun tables => pure (tables.editTrigger key ({ · with hosts := ∅ })).1).bind fun _ =>
    (Acts.write fun tables => pure (tables.editTrigger key ({ · with groups := ∅ })).1).bind fun _ =>
    (Acts.forM fun host (_ : host ∈ hosts) =>
      Acts.write fun tables => (tables.edit (.addTriggerHost key host)).map Prod.fst).bind fun _ =>
    Acts.forM fun group (_ : group ∈ groups) =>
      Acts.write fun tables => (tables.edit (.addTriggerGroup key group)).map Prod.fst
  intro connection writable
  refine (body.nested connection writable).trans ?_
  simp (disch := simp) only [wholly, pure, Except.pure, upsertTrigger, editTrigger_insert,
    writeAll_addTriggerHost (nodup_of_cells hosted), writeAll_addTriggerGroup (nodup_of_cells grouped),
    Database.rowOfTrigger, Std.ExtTreeSet.ofList_eq_insertMany_empty]

end Triggers

/-- The number given back is that of the new problem. -/
theorem insertProblem_on (problem : Problem) {connection : Connection} (writable : connection.writable = true) :
    (insertProblem problem).on connection =
      match connection.tables.insertProblem problem with
      | .ok (changed, number) => (.ok number, { connection with tables := changed })
      | .error fault => (.error fault, connection) := by
  rw [insertProblem, Database.insertProblem, on_bind, on_liftM]
  cases Database.cell problem.trigger with
  | error fault => rfl
  | ok key =>
    dsimp only
    rw [on_bind, on_get]
    dsimp only
    change (ite _ _ _ : Session Int).on connection = match (ite _ _ _ : Except StoreFault (Database × Int)) with
      | .ok (changed, number) => _
      | .error fault => _
    split
    · rw [on_bind, Acts.write _ connection writable]
      rfl
    · rfl

theorem insertProblem_acts (problem : Problem) :
    (discard (insertProblem problem) : Session Unit).Acts (wholly fun tables => (tables.insertProblem problem).map Prod.fst) := by
  intro connection writable
  change (insertProblem problem >>= fun _ => pure ()).on connection = _
  rw [on_bind, insertProblem_on problem writable, wholly]
  cases connection.tables.insertProblem problem <;> rfl

section Styles

variable {tables : Database}

/-- Styles are added one by one, as long as there is none for the severity already. -/
theorem writeAll_insertStyle {styles : List (Severity × Style)} (distinct : (styles.map Prod.fst).Nodup)
    (new : ∀ entry ∈ styles, (entry.1.level : Int) ∉ tables.styles) :
    Snapshot.writeAll (fun tables entry => insertStyle tables entry.1.level entry.2) styles tables =
      (.ok (), { tables with
        styles := tables.styles.insertMany (styles.map fun entry => ((entry.1.level : Int), entry.2)) }) := by
  induction styles generalizing tables with
  | nil => rw [List.map_nil, Std.ExtTreeMap.insertMany_nil, Snapshot.writeAll]
  | cons first rest ih =>
    rw [List.map_cons, List.nodup_cons] at distinct
    rw [List.forall_mem_cons] at new
    have added : insertStyle tables first.1.level first.2 =
        .ok { tables with styles := tables.styles.insert first.1.level first.2 } := by
      refine if_neg ?_
      rw [Std.ExtTreeMap.contains_iff_mem]
      exact new.1
    rw [Snapshot.writeAll, added]
    refine (ih distinct.2 fun entry member there => ?_).trans ?_
    · rcases Std.ExtTreeMap.mem_insert.mp there with same | there
      · have levels : first.1.level = entry.1.level := Int.ofNat_inj.mp (Std.LawfulEqOrd.eq_of_compare same)
        exact distinct.1 (Severity.level_inj.mp levels ▸ List.mem_map_of_mem member)
      · exact new.2 entry member there
    · rw [List.map_cons, Std.ExtTreeMap.insertMany_cons]

theorem setSeverityConfig_acts (config : SeverityConfig) :
    (setSeverityConfig config).Acts (wholly fun tables => pure (tables.setSeverityConfig config)) := by
  have body := (Acts.write fun tables => pure { tables with styles := ∅ }).bind fun _ =>
    Acts.forM fun entry (_ : entry ∈ config.toList) =>
      Acts.write fun tables => insertStyle tables entry.1.level entry.2
  have distinct : (config.toList.map Prod.fst).Nodup := by
    rw [Levels.map_fst_toList]
    decide
  intro connection writable
  refine (body.nested connection writable).trans ?_
  simp (disch := simp) only [wholly, pure, Except.pure, writeAll_insertStyle distinct, Database.setSeverityConfig,
    Std.ExtTreeMap.ofList_eq_insertMany_empty]

end Styles

section Loading

theorem writeAll_append {σ α : Type} {write : σ → α → Except StoreFault σ} (front back : List α) (store : σ) :
    Snapshot.writeAll write (front ++ back) store =
      match Snapshot.writeAll write front store with
      | (.ok _, after) => Snapshot.writeAll write back after
      | (.error fault, after) => (.error fault, after) := by
  induction front generalizing store with
  | nil => rfl
  | cons first rest ih =>
    rw [List.cons_append, Snapshot.writeAll, Snapshot.writeAll]
    cases write store first with
    | error fault => rfl
    | ok changed => exact ih changed

theorem writeAll_map {σ α : Type} (write : σ → α → Except StoreFault σ) (values : List α) (store : σ) :
    Snapshot.writeAll (fun store write => write store) (values.map fun value store => write store value) store =
      Snapshot.writeAll write values store := by
  induction values generalizing store with
  | nil => rfl
  | cons first rest ih =>
    rw [List.map_cons, Snapshot.writeAll, Snapshot.writeAll]
    dsimp only
    cases write store first with
    | error fault => rfl
    | ok changed => exact ih changed

/-- The value is given back if all writes are made, one after the other. -/
def makeAll {α : Type} (writes : List (Database → Except StoreFault Database)) (value : α) (tables : Database) :
    Except StoreFault α × Database :=
  let (result, after) := Snapshot.writeAll (fun tables write => write tables) writes tables
  (result.map fun _ => value, after)

/-- A loop of writes in front of others. -/
theorem forM_bind_acts {α β : Type} {session : α → Session Unit} {change : Database → α → Except StoreFault Database}
    {values : List α} (each : ∀ value ∈ values, (session value).Acts (wholly (change · value)))
    {next : Session β} {writes : List (Database → Except StoreFault Database)} {last : β}
    (later : next.Acts (makeAll writes last)) :
    (values.forM session >>= fun _ => next).Acts
      (makeAll (values.map (fun value tables => change tables value) ++ writes) last) := by
  intro connection writable
  refine ((Acts.forM each).bind (fun _ => later) connection writable).trans ?_
  simp only [makeAll, writeAll_append, writeAll_map]
  rcases Snapshot.writeAll change values connection.tables with ⟨_ | _, after⟩ <;> rfl

/-- A snapshot is loaded into the tables as into any store, and what was written before a fault stays. -/
theorem load_acts (snapshot : Snapshot) : (load snapshot).Acts snapshot.load := by
  have loops := forM_bind_acts (fun map (_ : map ∈ snapshot.maps) => insertMap_acts map) <|
    forM_bind_acts (fun trigger (_ : trigger ∈ snapshot.triggers) => insertTrigger_acts trigger) <|
    forM_bind_acts (fun problem (_ : problem ∈ snapshot.problems) => insertProblem_acts problem) <|
    forM_bind_acts (fun config (_ : config ∈ snapshot.config.toList) => setSeverityConfig_acts config) <|
    show (Pure.pure snapshot.summary : Session LoadSummary).Acts (makeAll [] snapshot.summary) from Acts.pure _
  rw [List.append_nil, ← List.append_assoc, ← List.append_assoc] at loops
  intro connection writable
  rw [load, on_bind, on_get]
  dsimp only
  rw [on_bind, on_liftM, Snapshot.load]
  cases snapshot.check connection.tables with
  | error fault => rfl
  | ok => exact loops connection writable

/-- The connection within a transaction that has not written anything. -/
def begunOn (tables : Database) : Connection := ⟨tables, true, some tables, []⟩

/-- An import closes its transaction. If everything is loaded, that lasts; if not, the connection is as it was,
whatever has been written up to the fault. -/
theorem take_on (snapshot : Snapshot) (tables : Database) :
    (take snapshot).on (ofTables tables true) =
      match snapshot.load tables with
      | (.ok summary, loaded) => (.ok summary, ofTables loaded true)
      | (.error fault, _) => (.error fault, ofTables tables true) := by
  have opened : beginWriting.on (ofTables tables true) = (.ok (), begunOn tables) := rfl
  have loaded := load_acts snapshot (begunOn tables) rfl
  rw [take, on_bind, opened]
  dsimp only
  rw [on_tryCatch, on_bind, loaded]
  dsimp only [begunOn]
  rcases snapshot.load tables with ⟨_ | _, after⟩ <;> rfl

end Loading

end Connection

theorem Database.take_eq (snapshot : Snapshot) (database : Database) : take snapshot database =
    match snapshot.load database with
    | (.ok summary, loaded) => (.ok summary, loaded)
    | (.error fault, _) => (.error fault, database) := by
  rw [take, Connection.take_on]
  rcases snapshot.load database with ⟨_ | _, after⟩ <;> rfl

end ProblemBoard
