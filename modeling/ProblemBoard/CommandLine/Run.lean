import ProblemBoard.CommandLine.Arguments
import ProblemBoard.Store.Connection
import ProblemBoard.Widget.View

/-! # Running commands

A command works on the text of one file and on one database. The file is looked at first, and only what
is left to do then, an `Action`, needs the database; so a command with a bad file does not open one. An
action makes its statements on one connection, and gives an exit code and the text to print.

Files and databases are found by way of a `Ground`, which is all that the program knows of the system it
runs on. Whether the tables of a database have the schema in use is looked at when it has been opened.
-/

namespace ProblemBoard.CommandLine

/-- What a command leaves to see. -/
structure Outcome where
  exit : Nat
  output : String
  deriving DecidableEq, Repr

namespace Outcome

def success (output : String) : Outcome := ⟨0, output⟩

/-- The input is malformed. -/
def badInput : Outcome := ⟨1, ""⟩

/-- The command line makes no sense. -/
def badUsage : Outcome := ⟨2, ""⟩

/-- A file or a database cannot be used. -/
def failure : Outcome := ⟨3, ""⟩

end Outcome

/-- The printed form of a value. -/
def printed (pretty : Bool) (value : Json) : String :=
  (if pretty then value.pretty else value.compact) ++ "\n"

/-- The file that a command reads. -/
def Command.file? : Command → Option String
  | .load file => some file
  | .render file _ _ => some file
  | _ => none

/-- What is left to do of a command, once its file has been read: statements on one connection. -/
abbrev Action := StateM Connection Outcome

namespace Action

/-- An action that looks at the tables only. -/
def reading (look : Database → Outcome) : Action := do pure (look (← get).tables)

/-- An action that ends at the first fault, which is not printed. -/
def session (session : Session String) : Action := do
  match ← session.run with
  | .ok output => pure (.success output)
  | .error _ => pure .failure

def load (snapshot : Snapshot) : Action :=
  session do pure (printed false (← Connection.take snapshot).toJson)

/-- A fault of the view is printed too. -/
def faultOutcome (pretty : Bool) (fault : ViewFault) : Outcome where
  exit := if fault.isInput then 1 else 3
  output := printed pretty (.object
    [("code", .string fault.code), ("message", .string (fault.message?.getD ""))])

def render (request : Widget.Request) (user : Int) (pretty : Bool) : Action :=
  .reading fun database =>
    match Widget.view database user request with
    | .ok response => .success (printed pretty response.toJson)
    | .error fault => faultOutcome pretty fault

/-- The identifiers and names of all maps. -/
def listMaps (database : Database) : Except StoreFault (List Json) := do
  (← database.mapIds).mapM fun id => do
    let map ← database.map id
    pure (.object [("map_id", id.toJson), ("name", .string map.name)])

def maps : Action :=
  .reading fun database =>
    match listMaps database with
    | .ok maps => .success (printed true (.array maps))
    | .error _ => .failure

/-- Change the users' settings. -/
def changeEntries (change : Database → Database) : Action :=
  session do
    Connection.changeEntries change
    pure ""

end Action

/-- What is left to do of a command, given the text of its file if that can be read. -/
def Command.action (command : Command) (text : Option String) : Except Outcome Action :=
  match command with
  | .load _ =>
      match text with
      | none => .error .failure
      | some text => ((Snapshot.ofText text).mapError fun _ => .badInput).map Action.load
  | .render _ user pretty =>
      match text with
      | none => .error .failure
      | some text =>
          ((Widget.Request.ofText text).mapError fun _ => .badInput).map
            (Action.render · user pretty)
  | .maps => .ok .maps
  | .toggle user widget item opened =>
      .ok (.changeEntries (ProfileStore.setOpened · user widget item opened))
  | .select user widget item => .ok (.changeEntries (ProfileStore.setSelected · user widget item))

/-- The database that is used if none is named. -/
def defaultDatabase : String := "./navtree.db"

/-- The database of an invocation: the one it names, or else the one that the environment names. -/
def Invocation.databasePath (invocation : Invocation) (environment : Option String) : String :=
  (invocation.database.or environment).getD defaultDatabase

/-- What the program finds around it: files that it reads, and databases that it opens by their names
and changes. -/
structure Ground (m : Type → Type) (κ : Type) where
  /-- The text of a file, if the file can be read and holds a text. -/
  readText : String → m (Option String)
  connect : String → m (Option (OpenDatabase κ))
  /-- Let the changes of a database last. The result says whether that could be done. -/
  keep : κ → Database → m Bool

namespace Ground

variable {m : Type → Type} [Monad m] {κ : Type} (ground : Ground m κ)

/-- Do what is left to do on an open database, unless its schema is not the one in use. What an open
transaction has done is lost. -/
def act (action : Action) (opened : OpenDatabase κ) : m Outcome := do
  match opened.database.checkVersion with
  | .error _ => pure .failure
  | .ok () =>
      let (outcome, connection) := action.run (.ofTables opened.database opened.writable)
      if connection.durable = opened.database then pure outcome
      else if ← ground.keep opened.handle connection.durable then pure outcome
      else pure .failure

/-- Do what is left to do on the database with a name. -/
def perform (action : Action) (name : String) : m Outcome := do
  match ← ground.connect name with
  | none => pure .failure
  | some opened => ground.act action opened

/-- Read the file of a command, if it has one. -/
def readFile (file : Option String) : m (Option String) :=
  match file with
  | none => pure none
  | some file => ground.readText file

/-- Run a command line, with the database that the environment names, if any. -/
def run (arguments : List String) (environment : Option String) : m Outcome := do
  match Invocation.ofArguments arguments with
  | .error .help => pure (.success "")
  | .error .usage => pure .badUsage
  | .ok invocation =>
      match invocation.command.action (← ground.readFile invocation.command.file?) with
      | .error outcome => pure outcome
      | .ok action => ground.perform action (invocation.databasePath environment)

end Ground

end ProblemBoard.CommandLine
