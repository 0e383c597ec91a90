import ProblemBoard.Cell
import ProblemBoard.NetworkMap.Json
import ProblemBoard.Store
import ProblemBoard.Store.Clause

/-! # The store on database tables

Rows hold signed cells and texts. The elements and links of a map are kept as JSON and read again
with the map; whatever else is read from a cell is checked too, because a database may have been
changed by others. Only rows that are read can be at fault.

Queries by identifier go through membership conditions, one question for each chunk of the identifiers,
and their answers follow the order of the chunks. Only which triggers a query wants is asked all at
once, so that a query that names too much is refused.
-/

namespace ProblemBoard

/-- The row of a map. -/
structure MapRow where
  name : String
  severity : Int
  /-- Whether only unacknowledged problems count: any number but zero means yes. -/
  unacknowledged : Int
  elements : String
  links : String
  deriving DecidableEq, Repr

/-- The row of a trigger, with the rows of its hosts and groups. -/
structure TriggerRow where
  severity : Int
  suppressed : Bool
  hosts : Std.ExtTreeSet Int
  groups : Std.ExtTreeSet Int
  deriving DecidableEq

/-- The row of a problem. -/
structure ProblemRow where
  trigger : Int
  severity : Int
  acknowledged : Bool
  deriving DecidableEq, Repr

/-- The tables, by their keys. -/
structure Database where
  maps : Std.ExtTreeMap Int MapRow
  triggers : Std.ExtTreeMap Int TriggerRow
  problems : Std.ExtTreeMap Int ProblemRow
  /-- The highest number ever given to a problem. -/
  lastProblem : Int
  styles : Std.ExtTreeMap Int Style
  profile : Profile
  /-- The version of the schema. -/
  version : Int
  deriving DecidableEq

namespace Database

/-- The version of the schema that is in use. -/
def currentVersion : Int := 1

def empty : Database := ⟨∅, ∅, ∅, 0, ∅, ∅, currentVersion⟩

/-- Open an existing database. One with another version of the schema is refused. -/
def checkVersion (database : Database) : Except StoreFault Unit :=
  if database.version = currentVersion then pure () else throw .migration

/-- The cells that keep some identifiers. -/
def cells {entity : Entity} (ids : IdSet entity) : Except StoreFault (List Int) :=
  (Cell.ofIdents ids.toList).mapError .integrity

def cell {entity : Entity} (id : Ident entity) : Except StoreFault Int :=
  (Cell.ofIdent id).mapError .integrity

/-- The identifier kept in a cell. -/
def ident {entity : Entity} (cell : Int) : Except StoreFault (Ident entity) :=
  (Cell.toIdent cell).mapError .integrity

section Maps

/-- The row that keeps a map. -/
def rowOfMap (map : NetworkMap) : MapRow where
  name := map.name
  severity := map.severityFloor.level
  unacknowledged := if map.unacknowledgedOnly then 1 else 0
  elements := (Json.array (map.elements.map Element.toJson)).compact
  links := (Json.array (map.links.map Link.toJson)).compact

/-- The map that a row keeps. -/
def mapOfRow (key : Int) (row : MapRow) : Except StoreFault NetworkMap := do
  let elements ← ((Decoder.list Element.decoder).run row.elements).mapError .unreadable
  let links ← ((Decoder.list Link.fields.decoder).run row.links).mapError .unreadable
  let id ← ident key
  let severityFloor ← Cell.toSeverity row.severity
  pure
    { id, severityFloor, elements, links
      name := row.name
      unacknowledgedOnly := row.unacknowledged != 0
      submaps := ∅ }

/-- The stored maps among those asked for. -/
def mapsOf (database : Database) (ids : IdSet .map) : Except StoreFault (List NetworkMap) := do
  let answers ← (chunks (← cells ids)).mapM fun chunk => do
    let condition := Condition.ofNumbers "map_id" chunk false
    let rows ← (Clause.ofCondition condition).find
      (fun row => condition.selects (some row.1)) database.maps.toList
    rows.mapM fun row => mapOfRow row.1 row.2
  pure answers.flatten

/-- Keep a map; what is nested in it is not kept. -/
def insertMap (database : Database) (map : NetworkMap) : Except StoreFault Database := do
  map.validate.mapError .invalidModel
  let key ← cell map.id
  pure { database with maps := database.maps.insert key (rowOfMap map) }

def map (database : Database) (id : MapId) : Except StoreFault NetworkMap := do
  match ← database.mapsOf {id} with
  | [] => throw (.mapNotFound id)
  | map :: _ => pure map

def deleteMap (database : Database) (id : MapId) : Except StoreFault Database := do
  let key ← cell id
  if database.maps.contains key then pure { database with maps := database.maps.erase key }
  else throw (.mapNotFound id)

def mapIds (database : Database) : Except StoreFault (List MapId) := database.maps.keys.mapM ident

end Maps

section Triggers

/-- The row that keeps a trigger. -/
def rowOfTrigger (trigger : Trigger) (hosts groups : List Int) : TriggerRow where
  severity := trigger.severity.level
  suppressed := trigger.suppressed
  hosts := .ofList hosts
  groups := .ofList groups

/-- Keep a trigger. The open problems of a trigger that was there stay. -/
def insertTrigger (database : Database) (trigger : Trigger) : Except StoreFault Database := do
  let key ← cell trigger.id
  let hosts ← cells trigger.hosts
  let groups ← cells trigger.groups
  pure { database with triggers := database.triggers.insert key (rowOfTrigger trigger hosts groups) }

/-- The triggers with the given keys. Of a chunk, the rows of triggers are read before those of
hosts, and those before the rows of groups. -/
def triggersAt (database : Database) (keys : List Int) : Except StoreFault (List Trigger) := do
  let answers ← (chunks keys).mapM fun chunk => do
    let condition := Condition.ofNumbers "trigger_id" chunk false
    let rows ← (Clause.ofCondition condition).find
      (fun row => condition.selects (some row.1)) database.triggers.toList
    let bare ← rows.mapM fun (key, row) => do
      let id ← ident key
      let severity ← Cell.toSeverity row.severity
      pure (fun hosts groups =>
        Trigger.mk id severity (.ofList hosts) (.ofList groups) row.suppressed)
    let hosts ← rows.mapM fun (_, row) => row.hosts.toList.mapM ident
    let groups ← rows.mapM fun (_, row) => row.groups.toList.mapM ident
    pure (List.zipWith (· ·) (List.zipWith (· ·) bare hosts) groups)
  pure answers.flatten

/-- Whether a condition on names selects a trigger. -/
def namedBy (key : Int) (row : TriggerRow) (condition : Condition) : Naming → Bool
  | .trigger => condition.selects (some key)
  | .host => row.hosts.any (condition.selects <| some ·)
  | .group => row.groups.any (condition.selects <| some ·)

/-- The conditions on names that a query makes: one for each of its sets that is not empty. -/
def conditions (query : TriggerQuery) : Except StoreFault (List (Naming × Condition)) := do
  let triggers ← cells query.triggers
  let hosts ← cells query.hosts
  let groups ← cells query.groups
  let named := [(.trigger, triggers), (.host, hosts), (.group, groups)].filter (!·.2.isEmpty)
  pure (named.map fun (naming, numbers) => (naming, .ofNumbers naming.column numbers false))

/-- The clause of a query with some conditions on names. -/
def clauseOf (query : TriggerQuery) (conditions : List (Naming × Condition)) : Clause where
  text :=
    "t.priority >= ?" ++ (if query.skipDependent then " AND t.suppressed = 0" else "") ++ " AND (" ++
      " OR ".intercalate (conditions.map fun (naming, condition) => naming.text condition.text) ++ ")"
  params := (query.minSeverity.level : Int) :: conditions.flatMap (·.2.params)

/-- The keys of the triggers that a query wants, in ascending order. Severities are compared as they
stand in their cells. -/
def wantedKeys (database : Database) (query : TriggerQuery) : Except StoreFault (List Int) := do
  let conditions ← conditions query
  let rows ← (clauseOf query conditions).find
    (fun (key, row) =>
      decide ((query.minSeverity.level : Int) ≤ row.severity) &&
        !(query.skipDependent && row.suppressed) &&
        conditions.any fun (naming, condition) => namedBy key row condition naming)
    database.triggers.toList
  pure (rows.map Prod.fst)

/-- The triggers that a query wants, in ascending order. -/
def triggersOf (database : Database) (query : TriggerQuery) : Except StoreFault (List Trigger) := do
  if query.isEmpty then pure [] else database.triggersAt (← database.wantedKeys query)

def trigger (database : Database) (id : TriggerId) : Except StoreFault Trigger := do
  match ← database.triggersAt [← cell id] with
  | [] => throw (.triggerNotFound id)
  | trigger :: _ => pure trigger

end Triggers

section Problems

/-- The problem that a row keeps. -/
def problemOfRow (row : ProblemRow) : Except StoreFault Problem := do
  let trigger ← ident row.trigger
  let severity ← Cell.toSeverity row.severity
  pure ⟨trigger, severity, row.acknowledged⟩

/-- The problems that a query wants: chunk after chunk of the triggers, and within a chunk in the
order of their numbers. Severities are compared as they stand in their cells. -/
def problemsOf (database : Database) (query : ProblemQuery) : Except StoreFault (List Problem) := do
  let answers ← (chunks (← cells query.triggers)).mapM fun chunk => do
    let condition := Condition.ofNumbers "trigger_id" chunk false
    let rows ← (Clause.ofSeverity query.minSeverity condition).find
      (fun row => decide ((query.minSeverity.level : Int) ≤ row.severity) &&
        condition.selects (some row.trigger))
      database.problems.values
    rows.mapM problemOfRow
  pure answers.flatten

/-- Add the row of a problem under a number never used before. -/
def appendProblem (database : Database) (row : ProblemRow) : Database :=
  let number := database.lastProblem + 1
  { database with problems := database.problems.insert number row, lastProblem := number }

/-- Open a problem on a stored trigger. -/
def insertProblem (database : Database) (problem : Problem) :
    Except StoreFault (Database × Int) := do
  let key ← cell problem.trigger
  if database.triggers.contains key then
    let database :=
      database.appendProblem ⟨key, problem.severity.level, problem.acknowledged⟩
    pure (database, database.lastProblem)
  else throw (.triggerNotFound problem.trigger)

def acknowledge (database : Database) (id : Int) : Except StoreFault Database :=
  match database.problems[id]? with
  | some row =>
      pure { database with problems := database.problems.insert id { row with acknowledged := true } }
  | none => throw (.problemNotFound id)

def resolve (database : Database) (id : Int) : Except StoreFault Database :=
  if database.problems.contains id then
    pure { database with problems := database.problems.erase id }
  else throw (.problemNotFound id)

end Problems

section Configuration

/-- The stored styles over the defaults. -/
def severityConfig (database : Database) : Except StoreFault SeverityConfig := do
  let styles ← database.styles.toList.mapM fun (key, style) => do
    pure (← Cell.toSeverity key, style)
  pure (.ofStyles styles)

/-- Keep the styles of all severities in place of those that were there. -/
def setSeverityConfig (database : Database) (config : SeverityConfig) : Database :=
  { database with
    styles := .ofList (config.toList.map fun (severity, style) => ((severity.level : Int), style)) }

end Configuration

section Entries

variable (database : Database) (user widget : Int)

/-- Whether a row has the key of an entry. -/
def isRowOf (name : String) (key : ProfileKey) : Bool :=
  key.user == user && key.name == name && key.widget == widget

/-- The text in the first row of an entry. -/
def entryText? (name : String) : Option String :=
  (database.profile.toList.find? fun row => isRowOf user widget name row.1).map Prod.snd

/-- Write the row of an entry; one with the same key gets the new text. -/
def setEntry (name value : String) : Database :=
  { database with profile := database.profile.insert ⟨user, widget, name⟩ value }

/-- Delete the rows of an entry, if there are any. -/
def deleteEntry (name : String) : Database :=
  { database with profile := database.profile.filter fun key _ => !isRowOf user widget name key }

/-- The database puts the names of a user and a widget in order, and those that begin and end as
they should are chosen from its answer. -/
def entryNames (front back : String) : List String :=
  let rows := database.profile.toList.filter fun row =>
    row.1.user == user && row.1.widget == widget
  let names := (rows.map fun row => row.1.name).mergeSort
    fun left right => (compare left right).isLE
  names.filter fun name =>
    front.toList.isPrefixOf name.toList && back.toList.isSuffixOf name.toList

end Entries

instance : Store Database where
  empty := empty
  get? := entryText?
  set := setEntry
  delete := deleteEntry
  find := entryNames
  feeds database :=
    { maps := fun ids => (database.mapsOf ids).mapError .backend
      triggers := fun query => (database.triggersOf query).mapError .backend
      problems := fun query => (database.problemsOf query).mapError .backend }
  insertMap := insertMap
  map := map
  deleteMap := deleteMap
  mapIds := mapIds
  insertTrigger := insertTrigger
  trigger := trigger
  insertProblem := insertProblem
  acknowledge := acknowledge
  resolve := resolve
  severityConfig := severityConfig
  setSeverityConfig database config := pure (database.setSeverityConfig config)
  profile := profile
  setProfile database profile := { database with profile := profile }

end Database

end ProblemBoard
