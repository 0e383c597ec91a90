import ProblemBoard.CommandLine.Run
import ProblemBoard.Disk.Opening

/-! # Running commands on a disk

A command line is run in the home of a disk, and the disk afterwards is part of the answer. A database
that was new is kept even if the command fails, and one that is only read stays as it is.
-/

namespace ProblemBoard

open CommandLine

namespace Disk

/-- Open a database by its path or its address. -/
def openDatabase (disk : Disk) (text : String) : Option (OpenDatabase Keeping) × Disk :=
  match Address.ofText? text with
  | none => (none, disk)
  | some address => disk.openAddress address

/-- The files and databases on a disk. -/
def ground : Ground (StateM Disk) Keeping where
  readText file := do pure ((← get).readText file)
  connect name := modifyGet (·.openDatabase name)
  keep keeping database := do
    modify (·.keep keeping database)
    pure true

/-- Run a command line, with the database that the environment names, if any. -/
def run (disk : Disk) (arguments : List String) (environment : Option String) : Outcome × Disk :=
  (ground.run arguments environment).run disk

end Disk

end ProblemBoard
