import ProblemBoard.Store.Database

/-! # Edits behind the store's back

A database may be changed by other programs, which check nothing. An edit overwrites single cells,
or adds and removes rows; the database itself only keeps keys unique and memberships attached to a
trigger. Each edit tells how many rows it changed.
-/

namespace ProblemBoard

/-- A change of cells without any check. The first number names the row, the second is the new cell
or key. -/
inductive Edit where
  | mapSeverity (key cell : Int)
  | mapUnacknowledged (key cell : Int)
  | mapElements (key : Int) (text : String)
  | mapLinks (key : Int) (text : String)
  | mapKey (key newKey : Int)
  | triggerSeverity (key cell : Int)
  | addTriggerHost (key host : Int)
  | addTriggerGroup (key group : Int)
  /-- Its memberships and problems go with a trigger. -/
  | deleteTrigger (key : Int)
  | problemSeverity (key cell : Int)
  | styleKey (key newKey : Int)
  | deleteStyle (key : Int)
  | version (version : Int)
  deriving DecidableEq, Repr

namespace Edit

/-- Change the row with a key, if there is one; also the number of rows changed. -/
def modify {ρ : Type} (rows : Std.ExtTreeMap Int ρ) (key : Int) (change : ρ → ρ) :
    Std.ExtTreeMap Int ρ × Nat :=
  match rows[key]? with
  | some row => (rows.insert key (change row), 1)
  | none => (rows, 0)

/-- Give the row with a key another one; the database refuses a key that is in use. -/
def rename {ρ : Type} (rows : Std.ExtTreeMap Int ρ) (key newKey : Int) :
    Except StoreFault (Std.ExtTreeMap Int ρ × Nat) :=
  match rows[key]? with
  | none => pure (rows, 0)
  | some row =>
      if newKey = key then pure (rows, 1)
      else if rows.contains newKey then throw .database
      else pure ((rows.erase key).insert newKey row, 1)

/-- Remove the row with a key, if there is one; also the number of rows changed. -/
def remove {ρ : Type} (rows : Std.ExtTreeMap Int ρ) (key : Int) : Std.ExtTreeMap Int ρ × Nat :=
  if rows.contains key then (rows.erase key, 1) else (rows, 0)

end Edit

namespace Database

def editMap (database : Database) (key : Int) (change : MapRow → MapRow) : Database × Nat :=
  let (maps, changed) := Edit.modify database.maps key change
  ({ database with maps }, changed)

def editTrigger (database : Database) (key : Int) (change : TriggerRow → TriggerRow) :
    Database × Nat :=
  let (triggers, changed) := Edit.modify database.triggers key change
  ({ database with triggers }, changed)

/-- Add a membership to a trigger; the database refuses one that is there already, and one of a
trigger that is not. -/
def addMembership (database : Database) (key member : Int)
    (members : TriggerRow → Std.ExtTreeSet Int) (add : TriggerRow → TriggerRow) :
    Except StoreFault (Database × Nat) :=
  match database.triggers[key]? with
  | none => throw .database
  | some row =>
      if (members row).contains member then throw .database else pure (database.editTrigger key add)

/-- Edit a database; also the number of rows changed. -/
def edit (database : Database) : Edit → Except StoreFault (Database × Nat)
  | .mapSeverity key cell => pure (database.editMap key ({ · with severity := cell }))
  | .mapUnacknowledged key cell => pure (database.editMap key ({ · with unacknowledged := cell }))
  | .mapElements key text => pure (database.editMap key ({ · with elements := text }))
  | .mapLinks key text => pure (database.editMap key ({ · with links := text }))
  | .mapKey key newKey => do
      let (maps, changed) ← Edit.rename database.maps key newKey
      pure ({ database with maps }, changed)
  | .triggerSeverity key cell => pure (database.editTrigger key ({ · with severity := cell }))
  | .addTriggerHost key host =>
      database.addMembership key host TriggerRow.hosts fun row =>
        { row with hosts := row.hosts.insert host }
  | .addTriggerGroup key group =>
      database.addMembership key group TriggerRow.groups fun row =>
        { row with groups := row.groups.insert group }
  | .deleteTrigger key =>
      let (triggers, changed) := Edit.remove database.triggers key
      pure ({ database with
        triggers
        problems := database.problems.filter fun _ row => row.trigger != key }, changed)
  | .problemSeverity key cell =>
      let (problems, changed) := Edit.modify database.problems key ({ · with severity := cell })
      pure ({ database with problems }, changed)
  | .styleKey key newKey => do
      let (styles, changed) ← Edit.rename database.styles key newKey
      pure ({ database with styles }, changed)
  | .deleteStyle key =>
      let (styles, changed) := Edit.remove database.styles key
      pure ({ database with styles }, changed)
  | .version version => pure ({ database with version }, 0)

end Database

end ProblemBoard
