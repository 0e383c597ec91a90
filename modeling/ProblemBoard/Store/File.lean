import ProblemBoard.Store.Database

/-! # Database files

A database is kept in a file as the JSON text of its tables, behind a mark of one byte. The mark
occurs in no UTF-8 text, so nobody reads a database file as a snapshot or a request. An empty file
holds an empty database; any other bytes are no database at all.
-/

namespace ProblemBoard

namespace MapRow

def toJson (key : Int) (row : MapRow) : Json :=
  .object [("map_id", .int key), ("name", .string row.name), ("severity", .int row.severity),
    ("unacknowledged", .int row.unacknowledged), ("elements", .string row.elements),
    ("links", .string row.links)]

/-- A row with its key. -/
def fields : Fields (Int × MapRow) :=
  (fun key name severity unacknowledged elements links =>
      (key, ⟨name, severity, unacknowledged, elements, links⟩)) <$>
    .required "map_id" .int <*> .required "name" .string <*> .required "severity" .int <*>
    .required "unacknowledged" .int <*> .required "elements" .string <*> .required "links" .string

end MapRow

namespace TriggerRow

def toJson (key : Int) (row : TriggerRow) : Json :=
  .object [("trigger_id", .int key), ("severity", .int row.severity),
    ("suppressed", .bool row.suppressed), ("hosts", .array (row.hosts.toList.map .int)),
    ("groups", .array (row.groups.toList.map .int))]

/-- A row with its key. -/
def fields : Fields (Int × TriggerRow) :=
  (fun key severity suppressed hosts groups =>
      (key, ⟨severity, suppressed, .ofList hosts, .ofList groups⟩)) <$>
    .required "trigger_id" .int <*> .required "severity" .int <*> .required "suppressed" .bool <*>
    .required "hosts" (.list .int) <*> .required "groups" (.list .int)

end TriggerRow

namespace ProblemRow

def toJson (key : Int) (row : ProblemRow) : Json :=
  .object [("problem_id", .int key), ("trigger_id", .int row.trigger),
    ("severity", .int row.severity), ("acknowledged", .bool row.acknowledged)]

/-- A row with its key. -/
def fields : Fields (Int × ProblemRow) :=
  (fun key trigger severity acknowledged => (key, ⟨trigger, severity, acknowledged⟩)) <$>
    .required "problem_id" .int <*> .required "trigger_id" .int <*> .required "severity" .int <*>
    .required "acknowledged" .bool

end ProblemRow

namespace ProfileKey

def toJson (key : ProfileKey) (value : String) : Json :=
  .object [("user_id", .int key.user), ("widget_id", .int key.widget), ("name", .string key.name),
    ("value", .string value)]

/-- A key with the text kept under it. -/
def fields : Fields (ProfileKey × String) :=
  (fun user widget name value => (⟨user, widget, name⟩, value)) <$>
    .required "user_id" .int <*> .required "widget_id" .int <*> .required "name" .string <*>
    .required "value" .string

end ProfileKey

namespace Database

/-- The row of a style; its key may be any number. -/
def styleToJson (key : Int) (style : Style) : Json :=
  .object [("severity", .int key), ("style", style.toJson)]

/-- A style with its key. -/
def styleFields : Fields (Int × Style) :=
  Prod.mk <$> .required "severity" .int <*> .required "style" Style.fields.decoder

/-- All tables. -/
def toJson (database : Database) : Json :=
  .object
    [("version", .int database.version),
      ("maps", .array (database.maps.toList.map fun row => row.2.toJson row.1)),
      ("triggers", .array (database.triggers.toList.map fun row => row.2.toJson row.1)),
      ("problems", .array (database.problems.toList.map fun row => row.2.toJson row.1)),
      ("last_problem", .int database.lastProblem),
      ("styles", .array (database.styles.toList.map fun row => styleToJson row.1 row.2)),
      ("profile", .array (database.profile.toList.map fun row => row.1.toJson row.2))]

def fields : Fields Database :=
  (fun version maps triggers problems lastProblem styles profile =>
      ⟨.ofList maps, .ofList triggers, .ofList problems, lastProblem, .ofList styles,
        .ofList profile, version⟩) <$>
    .required "version" .int <*> .required "maps" (.list MapRow.fields.decoder) <*>
    .required "triggers" (.list TriggerRow.fields.decoder) <*>
    .required "problems" (.list ProblemRow.fields.decoder) <*> .required "last_problem" .int <*>
    .required "styles" (.list styleFields.decoder) <*>
    .required "profile" (.list ProfileKey.fields.decoder)

/-- The first byte of a database file. -/
def fileMark : UInt8 := 0xFF

/-- The bytes of a database file. -/
def toFile (database : Database) : ByteArray :=
  ⟨#[fileMark]⟩ ++ database.toJson.compact.toUTF8

/-- The database that a file holds. -/
def ofFile? (bytes : ByteArray) : Option Database :=
  match bytes[0]? with
  | none => some empty
  | some first =>
      if first = fileMark then do
        let text ← String.fromUTF8? (bytes.extract 1 bytes.size)
        (fields.decoder.run text).toOption
      else none

end Database

end ProblemBoard
