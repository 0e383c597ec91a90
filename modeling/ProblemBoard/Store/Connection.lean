import ProblemBoard.Snapshot
import ProblemBoard.Store.Edit

/-! # Connections to a database

A connection sees the tables as its own statements have left them. Outside of a transaction every
statement lasts as soon as it is done. A transaction lasts when it is committed, and a rollback takes
back all of it. Savepoints nest: what was written behind one can be taken back on its own, while the
transaction goes on. A statement that fails changes nothing, but those before it stand.

A trigger and a configuration are each written by several statements at a savepoint. A snapshot is
imported in one transaction around all its writes.
-/

namespace ProblemBoard

/-- A database in use. -/
structure Connection where
  /-- The tables as they are seen here. -/
  tables : Database
  writable : Bool
  /-- The tables as they were before the transaction, if one has been begun. -/
  begun : Option Database
  /-- The tables as they were at the open savepoints, the latest first. -/
  savepoints : List Database
  deriving DecidableEq

/-- A database that has just been opened, with what it takes to keep its changes. -/
structure OpenDatabase (κ : Type) where
  database : Database
  writable : Bool
  handle : κ

/-- Statements on one connection, up to the first that fails. -/
abbrev Session := ExceptT StoreFault (StateM Connection)

namespace Session

variable {α β : Type}

/-- The result of a session, and the connection as it is left. -/
def on (session : Session α) (connection : Connection) : Except StoreFault α × Connection :=
  (session.run.run connection).run

@[simp] theorem on_get (connection : Connection) :
    (get : Session Connection).on connection = (.ok connection, connection) := rfl

@[simp] theorem on_liftM (result : Except StoreFault α) (connection : Connection) :
    (liftM result : Session α).on connection = (result, connection) := rfl

/-- What comes next starts from the connection as it was left. -/
theorem on_bind (session : Session α) (next : α → Session β) (connection : Connection) :
    (session >>= next).on connection =
      match session.on connection with
      | (.ok value, after) => (next value).on after
      | (.error fault, after) => (.error fault, after) := by
  change on ((ExceptT.mk (pure (session.on connection).1) : Session α) >>= next)
    (session.on connection).2 = _
  rcases session.on connection with ⟨_ | _, _⟩ <;> rfl

/-- A fault is handled on the connection as it was left. -/
theorem on_tryCatch (session : Session α) (handle : StoreFault → Session α)
    (connection : Connection) :
    (tryCatch session handle).on connection =
      match session.on connection with
      | (.ok value, after) => (.ok value, after)
      | (.error fault, after) => (handle fault).on after := by
  change on (tryCatch (ExceptT.mk (pure (session.on connection).1) : Session α) handle)
    (session.on connection).2 = _
  rcases session.on connection with ⟨_ | _, _⟩ <;> rfl

end Session

namespace Connection

def ofTables (tables : Database) (writable : Bool) : Connection := ⟨tables, writable, none, []⟩

/-- Whether every statement is a transaction of its own. -/
def isAutocommit (connection : Connection) : Bool :=
  connection.begun.isNone && connection.savepoints.isEmpty

/-- The tables as others see them, and as they are found when the connection is gone: what an open
transaction has done does not count. A transaction may also start with a savepoint. -/
def durable (connection : Connection) : Database :=
  (connection.begun.or connection.savepoints.getLast?).getD connection.tables

section Transactions

/-- Begin a transaction that is going to write. -/
def beginWriting : Session Unit := do
  let connection ← get
  if connection.isAutocommit && connection.writable then
    set { connection with begun := some connection.tables }
  else throw .database

def commit : Session Unit := do
  let connection ← get
  if connection.isAutocommit then throw .database
  else set { connection with begun := none, savepoints := [] }

def rollback : Session Unit := do
  let connection ← get
  if connection.isAutocommit then throw .database
  else set { connection with tables := connection.durable, begun := none, savepoints := [] }

def savepoint : Session Unit :=
  modify fun connection =>
    { connection with savepoints := connection.tables :: connection.savepoints }

/-- Take back what was written behind the latest savepoint, which stays open. -/
def rollbackToSavepoint : Session Unit := do
  let connection ← get
  match connection.savepoints with
  | [] => throw .database
  | tables :: _ => set { connection with tables }

/-- Close the latest savepoint and let what was written behind it stand. -/
def release : Session Unit := do
  let connection ← get
  match connection.savepoints with
  | [] => throw .database
  | _ :: savepoints => set { connection with savepoints }

/-- Make some writes at a savepoint, and take all of them back if one fails. -/
def nested (writes : Session Unit) : Session Unit := do
  savepoint
  try
    writes
    release
  catch fault =>
    rollbackToSavepoint
    release
    throw fault

end Transactions

section Statements

/-- Change the tables by one statement. -/
def write (change : Database → Except StoreFault Database) : Session Unit := do
  let connection ← get
  if connection.writable then
    let tables ← change connection.tables
    set { connection with tables }
  else throw .database

def insertMap (map : NetworkMap) : Session Unit := do
  (map.validate.mapError .invalidModel : Except StoreFault Unit)
  let key ← Database.cell map.id
  write fun tables =>
    pure { tables with maps := tables.maps.insert key (Database.rowOfMap map) }

/-- Make the row of a trigger, or change the one that is there, with its hosts and groups left to it. -/
def upsertTrigger (tables : Database) (key : Int) (trigger : Trigger) : Database :=
  let row : TriggerRow := tables.triggers[key]?.getD ⟨0, false, ∅, ∅⟩
  { tables with
    triggers := tables.triggers.insert key
      { row with severity := trigger.severity.level, suppressed := trigger.suppressed } }

/-- Keep a trigger: its row, and new rows for its hosts and groups in place of the old ones. -/
def insertTrigger (trigger : Trigger) : Session Unit := do
  let key ← Database.cell trigger.id
  let hosts ← Database.cells trigger.hosts
  let groups ← Database.cells trigger.groups
  nested do
    write fun tables => pure (upsertTrigger tables key trigger)
    write fun tables => pure (tables.editTrigger key ({ · with hosts := ∅ })).1
    write fun tables => pure (tables.editTrigger key ({ · with groups := ∅ })).1
    hosts.forM fun host =>
      write fun tables => (tables.edit (.addTriggerHost key host)).map Prod.fst
    groups.forM fun group =>
      write fun tables => (tables.edit (.addTriggerGroup key group)).map Prod.fst

/-- Open a problem on a stored trigger; its number is given back. -/
def insertProblem (problem : Problem) : Session Int := do
  let key ← Database.cell problem.trigger
  if (← get).tables.triggers.contains key then
    write fun tables =>
      pure (tables.appendProblem ⟨key, problem.severity.level, problem.acknowledged⟩)
    pure (← get).tables.lastProblem
  else throw (.triggerNotFound problem.trigger)

/-- Add a style; the database refuses one for a severity that has one. -/
def insertStyle (tables : Database) (key : Int) (style : Style) : Except StoreFault Database :=
  if tables.styles.contains key then throw .database
  else pure { tables with styles := tables.styles.insert key style }

/-- Keep the styles of all severities in place of those that were there. -/
def setSeverityConfig (config : SeverityConfig) : Session Unit :=
  nested do
    write fun tables => pure { tables with styles := ∅ }
    config.toList.forM fun (severity, style) =>
      write fun tables => insertStyle tables severity.level style

/-- Change the users' settings by one statement. -/
def changeEntries (change : Database → Database) : Session Unit :=
  write fun tables => pure (change tables)

end Statements

section Snapshots

/-- Load a snapshot, one write after the other. -/
def load (snapshot : Snapshot) : Session LoadSummary := do
  snapshot.check (← get).tables
  snapshot.maps.forM insertMap
  snapshot.triggers.forM insertTrigger
  snapshot.problems.forM fun problem => discard (insertProblem problem)
  snapshot.config.toList.forM setSeverityConfig
  pure snapshot.summary

/-- Take back a transaction that is still open. A rollback that fails is left at that. -/
def abandon : Session Unit := do
  if (← get).isAutocommit then pure ()
  else try rollback catch _ => pure ()

/-- Load a snapshot in one transaction, which is taken back if anything in it fails. -/
def take (snapshot : Snapshot) : Session LoadSummary := do
  beginWriting
  try
    let summary ← load snapshot
    commit
    pure summary
  catch fault =>
    abandon
    throw fault

end Snapshots

end Connection

/-- Import a snapshot into a database on a connection of its own. What the connection leaves behind is
the database afterwards. -/
def Database.take (snapshot : Snapshot) (database : Database) :
    Except StoreFault LoadSummary × Database :=
  let (result, connection) := (Connection.take snapshot).on (.ofTables database true)
  (result, connection.durable)

/-- The database that a successful import leaves. -/
def Snapshot.importInto (snapshot : Snapshot) (database : Database) :
    Except StoreFault (LoadSummary × Database) :=
  let (result, after) := Database.take snapshot database
  result.map (·, after)

end ProblemBoard
