import ProblemBoard.Disk.Path
import ProblemBoard.Text.Ends

/-! # Database addresses

A database is named by its path, or by an address: the word `file` and a colon, a path, and terms
behind a question mark, up to a hash sign. In an address a byte may be written as a percent sign
with two hexadecimal digits. The terms say how the database is opened. What asks for something that
cannot be granted is no address.
-/

namespace ProblemBoard

/-- What may be done with the file of a database. -/
inductive Access where
  | readOnly
  | readWrite
  /-- A missing file is made. -/
  | create
  deriving DecidableEq, Repr

/-- How users of one database are kept apart. -/
inductive Guard where
  /-- By locks on the file. -/
  | locks
  /-- By a file beside it that is there as long as the database is in use. -/
  | lockFile
  | unguarded
  deriving DecidableEq, Repr

/-- How a file is opened as a database. -/
structure OpeningTerms where
  access : Access
  guard : Guard
  /-- Whether the file is taken for one that nobody changes. -/
  immutable : Bool
  /-- A written path that has to lead to something. -/
  model : Option (List UInt8)
  deriving DecidableEq, Repr

/-- Where a database is kept. -/
inductive Address where
  /-- In memory, as long as it is in use. -/
  | temporary
  /-- In the file with a written path. -/
  | file (written : List UInt8) (terms : OpeningTerms)
  deriving DecidableEq, Repr

namespace Address

/-! ## Percent signs -/

/-- The value of a hexadecimal digit. -/
def hexDigit? (c : Char) : Option Nat :=
  if '0' ≤ c && c ≤ '9' then some (c.toNat - '0'.toNat)
  else if 'a' ≤ c && c ≤ 'f' then some (c.toNat - 'a'.toNat + 10)
  else if 'A' ≤ c && c ≤ 'F' then some (c.toNat - 'A'.toNat + 10)
  else none

/-- The bytes that a part of an address stands for. A zero byte ends the part; a percent sign that
stands before anything but two digits stands for itself. -/
def decode : List Char → List UInt8
  | '%' :: high :: low :: rest =>
      match hexDigit? high, hexDigit? low with
      | some high, some low =>
          if 16 * high + low = 0 then [] else (16 * high + low).toUInt8 :: decode rest
      | _, _ => String.utf8EncodeChar '%' ++ decode (high :: low :: rest)
  | c :: rest => String.utf8EncodeChar c ++ decode rest
  | [] => []

/-! ## Terms -/

/-- A term: its name and its value. -/
abbrev Term := List UInt8 × List UInt8

/-- The terms that are written in an address. One without a name does not count. -/
def terms (query : List Char) : List Term :=
  (Text.splitAll '&' query).filterMap fun piece =>
    let (name, value) := Text.splitFirst '=' piece
    if (decode name).isEmpty then none else some (decode name, decode (value.getD []))

/-- The value of the first term with a name. -/
def term? (terms : List Term) (name : String) : Option (List UInt8) :=
  terms.lookup (Text.bytes name)

/-- The number that the digits at the front of a text write. -/
def frontNumber (base : Nat) (chars : List Char) : Nat :=
  let digits := chars.map fun c => (hexDigit? c).filter (· < base)
  (digits.takeWhile Option.isSome).foldl (fun total digit => base * total + digit.getD 0) 0

/-- The number at the front of a text, in decimal or, behind `0x`, in hexadecimal digits. It counts
as zero if it does not fit in 31 bits. -/
def leadingNumber (chars : List Char) : Nat :=
  let number :=
    match chars with
    | '0' :: 'x' :: rest => frontNumber 16 rest
    | '0' :: 'X' :: rest => frontNumber 16 rest
    | _ => frontNumber 10 chars
  if number < Nat.pow 2 31 then number else 0

/-- Whether the value of a term means yes. Of a number only the last eight bits count. -/
def meansYes (value : List UInt8) : Bool :=
  let chars := value.map fun byte => Char.ofNat byte.toNat
  if chars.head?.any Char.isDigit then leadingNumber chars % 256 != 0
  else ["on", "yes", "true"].contains (String.ofList (chars.map Char.toLower))

/-- Whether the first term with a name says yes. -/
def flag (terms : List Term) (name : String) : Bool := (term? terms name).any meansYes

/-! ## What the terms ask for -/

/-- What keeps the bytes of a database. -/
inductive Keeper where
  | file (guard : Guard)
  | memory
  deriving DecidableEq, Repr

def keepers : List (String × Keeper) :=
  [("unix", .file .locks), ("unix-excl", .file .locks), ("unix-dotfile", .file .lockFile),
    ("unix-none", .file .unguarded), ("memdb", .memory)]

/-- The keeper that the last of the terms for it names. -/
def keeper? (terms : List Term) : Option Keeper :=
  match term? terms.reverse "vfs" with
  | none => some (.file .locks)
  | some name => Text.lookupBytes keepers name

/-- How much is allowed: an access to a file, or all of it in memory. -/
inductive Allowance where
  | file (access : Access)
  | memory
  deriving DecidableEq, Repr

def allowances : List (String × Allowance) :=
  [("ro", .file .readOnly), ("rw", .file .readWrite), ("rwc", .file .create), ("memory", .memory)]

namespace Allowance

def rank : Allowance → Nat
  | .file .readOnly => 0
  | .file .readWrite => 1
  | .file .create => 2
  | .memory => 3

/-- Whether one allowance may give way to another: an access to a smaller one, and any of them to
memory. -/
def admits (allowance next : Allowance) : Bool := next = .memory || next.rank ≤ allowance.rank

/-- Heed one more term. -/
def heed (allowance : Allowance) (term : Term) : Option Allowance :=
  if term.1 = Text.bytes "mode" then (Text.lookupBytes allowances term.2).filter allowance.admits
  else if term.1 = Text.bytes "cache" then
    if term.2 = Text.bytes "shared" || term.2 = Text.bytes "private" then some allowance else none
  else some allowance

end Allowance

/-! ## Addresses -/

/-- The path that stands for a database in memory. -/
def memoryName : List UInt8 := Text.bytes ":memory:"

/-- The address with a path and terms. A database in memory is new, so nobody can ask for one and
not be allowed to write. -/
def ofTerms (written : List UInt8) (terms : List Term) : Option Address := do
  let keeper ← keeper? terms
  let immutable := flag terms "immutable"
  match ← terms.foldlM Allowance.heed (.file .create) with
  | .memory => some .temporary
  | .file access =>
      let temporary := if access = .readOnly then none else some .temporary
      if written.isEmpty || written = memoryName then temporary
      else
        match keeper with
        | .memory => if immutable then none else temporary
        | .file guard =>
            let guard := if flag terms "nolock" then .unguarded else guard
            some (.file written ⟨access, guard, immutable, term? terms "modeof"⟩)

/-- The path and the terms of an address. Between two slashes and a third one stands the machine,
which has to be this one. -/
def afterMachine? (chars : List Char) : Option (List Char) :=
  match chars with
  | '/' :: '/' :: rest =>
      let machine := rest.takeWhile (· != '/')
      if machine = [] || machine = "localhost".toList then some (rest.dropWhile (· != '/'))
      else none
  | _ => some chars

/-- The address that a text stands for. -/
def ofText? (text : String) : Option Address :=
  match Text.dropFront? "file:".toList text.toList with
  | none => ofTerms (Text.bytes text) []
  | some rest => do
      let rest ← afterMachine? rest
      let (path, query) := Text.splitFirst '?' (rest.takeWhile (· != '#'))
      ofTerms (decode path) (terms (query.getD []))

end Address

end ProblemBoard
