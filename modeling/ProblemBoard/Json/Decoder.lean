import ProblemBoard.Json.Value
import ProblemBoard.Severity.Levels
import ProblemBoard.NetworkMap

/-! # Reading models from JSON

A decoder turns a node into a model, or reports what is wrong with it. Of several faults it reports
the first in the order of the text, and that rule includes faults of the text itself.

Most models are records, described once by `Fields` and read in two forms: as an object, whose keys
may come in any order and among others that are ignored, or as an array of the field values in the
order of the description.
-/

namespace ProblemBoard

/-- Why a model cannot be read. -/
inductive ReadFault where
  /-- The text is not JSON, or not of the form that the model has. -/
  | malformed
  | invalidSeverity (number : Nat)
  | invalidPermission (number : Nat)
  /-- A flag is neither a boolean nor a number. -/
  | invalidFlag
  deriving DecidableEq, Repr

/-- What there is to say about a fault, beyond that the text has the wrong form. -/
def ReadFault.message? : ReadFault → Option String
  | malformed => none
  | invalidSeverity number => some s!"invalid severity: {number}"
  | invalidPermission number => some s!"invalid permission level: {number}"
  | invalidFlag => some "expected 0, 1 or a boolean"

/-- Reads a node that has some number of arrays and objects around it. -/
abbrev Decoder (α : Type) := Nat → Json.Node → Except ReadFault α

namespace Decoder

open Json

variable {α β : Type}

/-- Read a whole text. -/
def run (decoder : Decoder α) (text : String) : Except ReadFault α := do
  let document := Document.ofText text
  let value ← decoder 0 document.root
  if document.complete then pure value else throw .malformed

/-- Read a value that is already at hand. -/
def runJson (decoder : Decoder α) (value : Json) : Except ReadFault α := decoder 0 value.toNode

/-- Change what is read. -/
def map (change : α → β) (decoder : Decoder α) : Decoder β := fun depth node =>
  (decoder depth node).map change

/-- An integer written without point and exponent. -/
def int : Decoder Int := fun _ node =>
  match node with
  | .number numeral => (numeral.int?).elim (throw .malformed) pure
  | _ => throw .malformed

/-- An integer from `low` up to, but not including, `high`. -/
def intBetween (low high : Int) : Decoder Int := fun depth node => do
  let value ← int depth node
  if low ≤ value ∧ value < high then pure value else throw .malformed

/-- A natural number below a limit. -/
def natBelow (limit : Nat) : Decoder Nat := (intBetween 0 limit).map Int.toNat

/-- A signed integer of 64 bits. -/
def int64 : Decoder Int := intBetween (-(Nat.pow 2 63)) (Nat.pow 2 63)

def ident {entity : Entity} : Decoder (Ident entity) :=
  (natBelow UInt64.size).map fun value => ⟨value.toUInt64⟩

def bool : Decoder Bool := fun _ node =>
  match node with
  | .bool value => pure value
  | _ => throw .malformed

def string : Decoder String := fun _ node =>
  match node with
  | .string quoted => (quoted.text?).elim (throw .malformed) pure
  | _ => throw .malformed

/-- A severity, by its number. -/
def severity : Decoder Severity := fun depth node => do
  let level ← natBelow 256 depth node
  (Severity.ofLevel? level).elim (throw (.invalidSeverity level)) pure

/-- A permission, by its number. -/
def permission : Decoder Permission := fun depth node => do
  let level ← natBelow 256 depth node
  (Permission.ofLevel? level).elim (throw (.invalidPermission level)) pure

/-- Nothing, written as `null`, or something. -/
def nullable (decoder : Decoder α) : Decoder (Option α) := fun depth node =>
  match node with
  | .null => pure none
  | node => (decoder depth node).map some

/-- Any JSON value. -/
def json : Decoder Json := fun depth node => (Json.ofNode? depth node).elim (throw .malformed) pure

/-- The values of an array, each read with the same decoder. -/
def list (decoder : Decoder α) : Decoder (List α) := fun depth node =>
  match node with
  | .array items closed => do
      let values ← items.mapM (decoder (depth + 1))
      if closed then pure values else throw .malformed
  | _ => throw .malformed

/-- A set of identifiers, written as an array in any order. -/
def idSet {entity : Entity} : Decoder (IdSet entity) :=
  (list ident).map fun ids => Std.ExtTreeSet.ofList ids

/-- A number that serves as a key: plain digits without a leading zero, below a limit. -/
def numericKey? (limit : Nat) (key : Quoted) : Option Nat :=
  match key.verbatim? with
  | none => none
  | some chars =>
      match chars.mapM Decimal.digit? with
      | none => none
      | some digits =>
          let value := Decimal.value digits
          if Decimal.digits value = digits ∧ value < limit then some value else none

/-- The members of an object, with keys and values read in the order of the text. -/
def entries (readKey : Quoted → Except ReadFault α) (decoder : Decoder β) : Decoder (List (α × β)) :=
  fun depth node =>
    match node with
    | .object members closed => do
        let values ← members.mapM fun (key, node) => do
          let key ← readKey key
          let value ← decoder (depth + 1) node
          pure (key, value)
        if closed then pure values else throw .malformed
    | _ => throw .malformed

/-- A severity as a key. -/
def severityKey (key : Quoted) : Except ReadFault Severity :=
  match numericKey? 256 key with
  | none => throw .malformed
  | some level => (Severity.ofLevel? level).elim (throw (.invalidSeverity level)) pure

/-- An identifier as a key. -/
def identKey {entity : Entity} (key : Quoted) : Except ReadFault (Ident entity) :=
  (numericKey? UInt64.size key).elim (throw .malformed) fun value => pure ⟨value.toUInt64⟩

/-- One value for each severity: those given, over others. Of repeated severities the last counts. -/
def levels (others : Levels α) (decoder : Decoder α) : Decoder (Levels α) :=
  (entries severityKey decoder).map others.setAll

end Decoder

/-- The fields of a record with the values that a text gives them, in the order of the text. -/
abbrev FieldValues := List (String × Json.Node)

/-- The result of reading fields, or the place and kind of the first fault. -/
abbrev Placed (α : Type) := Except (Nat × ReadFault) α

namespace Placed

/-- Two results together, or the fault that comes first. -/
def both {α β : Type} : Placed (α → β) → Placed α → Placed β
  | .ok change, .ok value => .ok (change value)
  | .ok _, .error fault => .error fault
  | .error fault, .ok _ => .error fault
  | .error left, .error right => .error (if right.1 < left.1 then right else left)

end Placed

/-- A record that is read field by field: the names of the fields, and how to make the record of
their values. -/
structure Fields (α : Type) where
  names : List String
  read : Nat → FieldValues → Placed α

namespace Fields

open Json

variable {α β : Type}

instance : Functor Fields where
  map change fields := ⟨fields.names, fun depth values => (fields.read depth values).map change⟩

/-- A record of one value and then of others. -/
def andThen (front : Fields (α → β)) (back : Fields α) : Fields β where
  names := front.names ++ back.names
  read depth values := (front.read depth values).both (back.read depth values)

instance : Seq Fields := ⟨fun front back => front.andThen (back ())⟩

/-- The first value that a text gives a field, with its place. -/
def find? (name : String) (values : FieldValues) : Option (Nat × Node) :=
  (values.zipIdx.find? fun entry => entry.1.1 == name).map fun entry => (entry.2, entry.1.2)

/-- A field with its decoder, and what the field is where it is missing. -/
def field (name : String) (decoder : Decoder α) (missing : Except ReadFault α) : Fields α where
  names := [name]
  read depth values :=
    match find? name values with
    | some (place, node) => (decoder depth node).mapError ((place, ·))
    | none => missing.mapError ((values.length, ·))

/-- A field that must be there. -/
def required (name : String) (decoder : Decoder α) : Fields α :=
  field name decoder (.error .malformed)

/-- A field that may be missing. -/
def optional (name : String) (decoder : Decoder α) (default : α) : Fields α :=
  field name decoder (.ok default)

/-- The values that the members of an object give to some fields, up to the first key that stands for
no text or names a field once more. The result also says whether there is no such key. -/
def collect (names seen : List String) : List (Quoted × Node) → FieldValues × Bool
  | [] => ([], true)
  | (key, node) :: rest =>
      match key.text? with
      | none => ([], false)
      | some name =>
          if names.contains name then
            if seen.contains name then ([], false)
            else
              let (values, intact) := collect names (name :: seen) rest
              ((name, node) :: values, intact)
          else collect names seen rest

/-- The record that some values make, if the text around them is intact. -/
def finish (fields : Fields α) (depth : Nat) (values : FieldValues) (intact : Bool) :
    Except ReadFault α :=
  match fields.read depth values with
  | .error (_, fault) => .error fault
  | .ok record => if intact then .ok record else .error .malformed

/-- The record given by the members of an object. -/
def ofMembers (fields : Fields α) (depth : Nat) (members : List (Quoted × Node)) (closed : Bool) :
    Except ReadFault α :=
  let (values, intact) := collect fields.names [] members
  fields.finish depth values (intact && closed)

/-- The record given by the items of an array, in the order of the fields. -/
def ofItems (fields : Fields α) (depth : Nat) (items : List Node) (closed : Bool) :
    Except ReadFault α :=
  fields.finish depth (fields.names.zip items)
    (decide (items.length ≤ fields.names.length) && closed)

/-- Reads a record in either form. -/
def decoder (fields : Fields α) : Decoder α := fun depth node =>
  match node with
  | .object members closed => fields.ofMembers (depth + 1) members closed
  | .array items closed => fields.ofItems (depth + 1) items closed
  | _ => .error .malformed

end Fields

end ProblemBoard
