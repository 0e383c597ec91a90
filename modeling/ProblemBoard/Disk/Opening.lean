import ProblemBoard.Disk
import ProblemBoard.Disk.Address
import ProblemBoard.Store.Connection

/-! # Opening databases on a disk

A database is kept in one file. While it is in use there may be two more beside it: the log, which
collects changes, and the index of the log. Users who lock the file keep a log, so that they can read
while others write; a database remembers whether it has one. Other users cannot use a log.

Disks are for databases that were closed in order: no change has been broken off, and a log holds
nothing that is not in the file. A log that is left all the same is cleared away when the database is
opened, so even an attempt that fails may leave its traces on the disk.
-/

namespace ProblemBoard

/-- What a file is when it is opened as a database. -/
inductive DatabaseKind where
  /-- Nothing has been written to it yet. -/
  | blank
  | database (database : Database) (logged : Bool)
  | foreign

/-- A file of at most one byte is blank. -/
def Content.databaseKind : Content → DatabaseKind
  | .text held => if held.utf8ByteSize ≤ 1 then .blank else .foreign
  | .database tables logged => .database tables logged
  | .binary => .foreign
  | .device => .foreign

namespace DatabaseKind

def isBlank : DatabaseKind → Bool
  | .blank => true
  | _ => false

end DatabaseKind

/-- How the changes of an open database are kept. -/
inductive Keeping where
  /-- Nowhere: they are gone when the database is closed. -/
  | nowhere
  /-- In a file, which may have a log. -/
  | file (path : Path) (logged : Bool)

namespace Disk

/-! ## Paths of databases -/

/-- The most bytes in the path of a database, with the longest of the endings. -/
def pathLimit : Nat := 512

/-- The most bytes that are added to the path of a database. -/
def endingLimit : Nat := 8

/-- Whether a path can lead to or through a database file. -/
def admitsPath (disk : Disk) (path : Path) : Bool :=
  path.size < pathLimit &&
    match disk.entryFrom [] path with
    | .blocked => false
    | _ => true

/-- The path of a database as it is written. Two dots take back any name before them, so the names
that are taken back need not lead to directories. -/
def databasePath? (disk : Disk) (written : List UInt8) : Option Path :=
  (Path.simplify disk.admitsPath (disk.start written) (Path.names written)).filter fun path =>
    !path.isEmpty && path.size + endingLimit ≤ pathLimit

/-! ## Files beside a database -/

def logPath (path : Path) : Path := path.withEnding "-wal"
def indexPath (path : Path) : Path := path.withEnding "-shm"
def lockPath (path : Path) : Path := path.withEnding ".lock"

/-- Whether the files beside a database can be made, and its guard can be had. -/
def admitsUse (disk : Disk) (path : Path) (guard : Guard) : Bool :=
  (path.getLast?.getD []).length + endingLimit ≤ FileName.sizeLimit &&
    [logPath path, indexPath path].all (!disk.isDirectory ·) &&
    !(guard = .lockFile &&
      ((disk.file? (lockPath path)).isSome || disk.isDirectory (lockPath path)))

/-- Look for the log that is left of a former use. The result says whether it is followed; a blank
file has none. -/
def findLog (disk : Disk) (path : Path) (terms : OpeningTerms) (kind : DatabaseKind) :
    Option (Bool × Disk) :=
  let log := logPath path
  if !disk.holds log then some (false, disk)
  else if kind.isBlank then some (false, disk.remove log)
  else if terms.guard = .locks then some (true, disk)
  else none

/-- Leave a log. Who may change nothing else still leaves an empty log and its index. -/
def leaveLog (disk : Disk) (path : Path) (terms : OpeningTerms) : Disk :=
  let log := logPath path
  if terms.access = .readOnly then
    let disk := if (disk.file? log).isSome then disk else disk.put log (.text "")
    disk.put (indexPath path) .binary
  else (disk.remove log).remove (indexPath path)

/-! ## Opening -/

/-- Open a file whose log has been found or not. -/
def useFile (disk : Disk) (path : Path) (terms : OpeningTerms) (follows : Bool) :
    DatabaseKind → Option (OpenDatabase Keeping) × Disk
  | .foreign => (none, if follows then disk.leaveLog path terms else disk)
  | .blank =>
      if terms.access = .readOnly then (none, disk)
      else
        let logged := terms.guard = .locks
        let disk := if logged then disk.leaveLog path terms else disk
        (some ⟨.empty, true, .file path logged⟩,
          disk.put path (.database .empty logged))
  | .database database true =>
      if terms.guard = .locks then
        (some ⟨database, terms.access ≠ .readOnly, .file path true⟩,
          disk.leaveLog path terms)
      else (none, disk)
  | .database database false =>
      if terms.guard ≠ .locks then
        (some ⟨database, terms.access ≠ .readOnly, .file path false⟩, disk)
      else if follows then
        (some ⟨database, terms.access ≠ .readOnly, .file path false⟩,
          disk.leaveLog path terms)
      else if terms.access = .readOnly then (none, disk)
      else
        (some ⟨database, true, .file path true⟩,
          (disk.leaveLog path terms).put path (.database database true))

/-- Open a file that is there. Of a file that nobody changes nothing is looked at but the file. -/
def openFile (disk : Disk) (path : Path) (terms : OpeningTerms) (content : Content) :
    Option (OpenDatabase Keeping) × Disk :=
  let kind := content.databaseKind
  if terms.immutable then
    match kind with
    | .database database _ => (some ⟨database, false, .nowhere⟩, disk)
    | _ => (none, disk)
  else if !disk.admitsUse path terms.guard then (none, disk)
  else
    match disk.findLog path terms kind with
    | none => (none, disk)
    | some (follows, disk) => disk.useFile path terms follows kind

/-- Open the database at an address. -/
def openAddress (disk : Disk) : Address → Option (OpenDatabase Keeping) × Disk
  | .temporary => (some ⟨.empty, true, .nowhere⟩, disk)
  | .file written terms =>
      match disk.databasePath? written with
      | none => (none, disk)
      | some path =>
          if !terms.model.all disk.hasEntry then (none, disk)
          else
            match disk.entryFrom [] path with
            | .file content => disk.openFile path terms content
            | .vacant =>
                if terms.access = .create then
                  (disk.put path (.text "")).openFile path terms (.text "")
                else (none, disk)
            | _ => (none, disk)

/-- Keep a database that has been changed. -/
def keep (disk : Disk) (keeping : Keeping) (database : Database) : Disk :=
  match keeping with
  | .nowhere => disk
  | .file path logged => disk.put path (.database database logged)

end Disk

end ProblemBoard
