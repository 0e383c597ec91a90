import ProblemBoard.CommandLine.Run
import ProblemBoard.Disk.Address
import ProblemBoard.Store.File

/-! # The command of the board

The outer layer: the files and databases of the system, on which a command line is run, and the printing
of what comes out. What a command line does is said by `Ground.run`.
-/

namespace ProblemBoard.CommandLine

/-- The environment variable that names the database. -/
def databaseVariable : String := "NAVTREE_DB_PATH"

/-- The text of a file, if the file can be read and holds a text. -/
def readText (path : String) : IO (Option String) := do
  match ← (IO.FS.readBinFile path).toBaseIO with
  | .ok bytes => return String.fromUTF8? bytes
  | .error _ => return none

/-- The file of an address as the system is told of it, from the directory where the program was
started. -/
def systemPath? (written : List UInt8) : IO (Option String) := do
  let here := Path.names (Text.bytes (← IO.currentDir).toString)
  let start := if Path.isAbsolute written then [] else here.filter (!·.isIdle)
  let path := Path.simplify (fun _ => true) start (Path.names written)
  return path.bind fun names =>
    String.fromUTF8? ⟨(names.flatMap (Path.separator :: ·)).toArray⟩

/-- Whether the file that has to be there is there. -/
def hasModel (terms : OpeningTerms) : IO Bool := do
  match terms.model with
  | none => return true
  | some written =>
      match String.fromUTF8? ⟨written.toArray⟩ with
      | none => return false
      | some path => return (← (IO.FS.realPath path).toBaseIO).isOk

/-- Put a database into its file. The result says whether that could be done. -/
def writeDatabase (path : String) (database : Database) : IO Bool :=
  return (← (IO.FS.writeBinFile path database.toFile).toBaseIO).isOk

/-- The database in a file. It is new if there is no such file and one may be made. -/
def openFile (path : String) (terms : OpeningTerms) : IO (Option Database) := do
  match ← (IO.FS.readBinFile path).toBaseIO with
  | .ok bytes => return Database.ofFile? bytes
  | .error (.noFileOrDirectory ..) =>
      if terms.access = .create && !terms.immutable then
        if ← writeDatabase path .empty then return some .empty
      return none
  | .error _ => return none

/-- Open the database with a path or an address. Its changes go into a file, if there is one. -/
def openDatabase (text : String) : IO (Option (OpenDatabase (Option String))) := do
  match Address.ofText? text with
  | none => return none
  | some .temporary => return some ⟨.empty, true, none⟩
  | some (.file written terms) =>
      match ← hasModel terms, ← systemPath? written with
      | true, some path =>
          let writable := terms.access ≠ .readOnly && !terms.immutable
          return (← openFile path terms).map (⟨·, writable, some path⟩)
      | _, _ => return none

/-- The files and databases of the system. -/
def systemGround : Ground IO (Option String) where
  readText := readText
  connect := openDatabase
  keep
    | none, _ => return true
    | some path, database => writeDatabase path database

/-- Print what a command has to say, and give back its exit code. -/
def report (outcome : Outcome) : IO UInt32 := do
  let out ← IO.getStdout
  out.putStr outcome.output
  out.flush
  return outcome.exit.toUInt32

end ProblemBoard.CommandLine

def main (arguments : List String) : IO UInt32 := do
  let environment ← IO.getEnv ProblemBoard.CommandLine.databaseVariable
  ProblemBoard.CommandLine.report
    (← ProblemBoard.CommandLine.systemGround.run arguments environment)
