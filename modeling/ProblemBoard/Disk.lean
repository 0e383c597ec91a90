import ProblemBoard.Disk.Path
import ProblemBoard.Store.Database

/-! # Disks

A disk holds files in directories. A program works in one of the directories, its home, and paths
that do not start at the root start there. Whatever can be said about a path is its `Entry`.
-/

namespace ProblemBoard

/-- What a file holds. -/
inductive Content where
  | text (text : String)
  /-- A database, which may keep a log beside it. -/
  | database (database : Database) (logged : Bool)
  /-- Bytes that are neither text nor database. -/
  | binary
  /-- A device that gives nothing to read. -/
  | device

/-- Files by their paths, and directories, of which those above a file need not be named. -/
structure Disk where
  home : Path
  directories : List Path
  files : List (Path × Content)

/-- What there is at a path. -/
inductive Entry where
  | directory
  | file (content : Content)
  /-- Nothing, in a directory where a file of that name can be made. -/
  | vacant
  /-- Nothing, for a directory on the way is missing. -/
  | missing
  /-- Nothing, for a file stands on the way, or a name is too long. -/
  | blocked

namespace Disk

def file? (disk : Disk) (path : Path) : Option Content := disk.files.lookup path

def isDirectory (disk : Disk) (path : Path) : Bool :=
  path.isPrefixOf disk.home || disk.directories.any path.isPrefixOf ||
    disk.files.any fun file => path.isPrefixOf file.1 && path != file.1

/-- Take a file from the disk. -/
def remove (disk : Disk) (path : Path) : Disk :=
  { disk with files := disk.files.filter (·.1 != path) }

/-- Put a file on the disk, in place of the one that was there. -/
def put (disk : Disk) (path : Path) (content : Content) : Disk :=
  { disk with files := (path, content) :: (disk.remove path).files }

@[simp] theorem file?_remove_self (disk : Disk) (path : Path) :
    (disk.remove path).file? path = none := by
  rw [file?, List.lookup_eq_none_iff]
  intro file member
  have differ := (List.mem_filter.mp member).2
  rw [bne_iff_ne] at differ
  simpa using fun same => differ same.symm

/-- Whether there is a file that holds anything. -/
def holds (disk : Disk) (path : Path) : Bool :=
  match disk.file? path with
  | none => false
  | some (.text text) => text != ""
  | some _ => true

/-- What names lead to from a directory. -/
def entryFrom (disk : Disk) : Path → List FileName → Entry
  | _, [] => .directory
  | place, name :: rest =>
      if name.isIdle then disk.entryFrom place rest
      else if name = .up then disk.entryFrom place.dropLast rest
      else if disk.isDirectory (place ++ [name]) then disk.entryFrom (place ++ [name]) rest
      else
        match disk.file? (place ++ [name]) with
        | some content => if rest.isEmpty then .file content else .blocked
        | none =>
            if FileName.sizeLimit < name.length then .blocked
            else if rest.isEmpty then .vacant
            else .missing

/-- The directory in which a written path starts. -/
def start (disk : Disk) (written : List UInt8) : Path :=
  if Path.isAbsolute written then [] else disk.home

/-- The most bytes of a written path that can be followed. -/
def writtenLimit : Nat := 4095

/-- What a written path leads to. -/
def entry (disk : Disk) (written : List UInt8) : Entry :=
  if written.isEmpty then .missing
  else if writtenLimit < written.length then .blocked
  else disk.entryFrom (disk.start written) (Path.names written)

/-- Whether a written path leads to anything. -/
def hasEntry (disk : Disk) (written : List UInt8) : Bool :=
  match disk.entry written with
  | .directory | .file _ => true
  | _ => false

/-- The text in a file. A database is no text. -/
def readText (disk : Disk) (path : String) : Option String :=
  match disk.entry (Text.bytes path) with
  | .file (.text text) => some text
  | .file .device => some ""
  | _ => none

end Disk

end ProblemBoard
