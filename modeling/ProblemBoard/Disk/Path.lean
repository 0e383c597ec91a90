import ProblemBoard.Text.Bytes
import ProblemBoard.Text.Split

/-! # Paths

A path leads from the root of a disk to a place on it. It is written with slashes between the names;
an empty name and a dot lead nowhere, and two dots lead back. `Path.simplify` follows a written path
without a look at the disk, so that two dots take back even a name that does not exist.
-/

namespace ProblemBoard

/-- A name of a file or a directory, as bytes. -/
abbrev FileName := List UInt8

/-- The names on the way from the root. -/
abbrev Path := List FileName

namespace FileName

/-- The name by which a directory calls itself. -/
def here : FileName := Text.bytes "."

/-- The name by which a directory calls the one that it is in. -/
def up : FileName := Text.bytes ".."

/-- Whether a name leads nowhere. -/
def isIdle (name : FileName) : Bool := name.isEmpty || name == here

/-- The most bytes that a name can have. -/
def sizeLimit : Nat := 255

end FileName

namespace Path

def separator : UInt8 := '/'.toUInt8

/-- Whether a written path starts at the root. -/
def isAbsolute (written : List UInt8) : Bool := written.head? == some separator

/-- The names that are written in a path. -/
def names (written : List UInt8) : List FileName := Text.splitAll separator written

/-- The length of a path when it is written from the root. -/
def size (path : Path) : Nat := (path.map fun name => name.length + 1).foldr (· + ·) 0

/-- The path with an ending at its last name. -/
def withEnding (path : Path) (ending : String) : Path :=
  path.dropLast ++ [path.getLast?.getD [] ++ Text.bytes ending]

/-- Follow names from a place, one by one, as long as every place they lead to is allowed. -/
def simplify (allowed : Path → Bool) : Path → List FileName → Option Path
  | place, [] => some place
  | place, name :: rest =>
      if name.isIdle then simplify allowed place rest
      else if name = .up then simplify allowed place.dropLast rest
      else if allowed (place ++ [name]) then simplify allowed (place ++ [name]) rest
      else none

end Path

end ProblemBoard
