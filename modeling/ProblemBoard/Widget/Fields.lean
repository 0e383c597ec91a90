import ProblemBoard.Fault
import ProblemBoard.Navigation
import ProblemBoard.Text.Blank
import ProblemBoard.Text.Ends
import ProblemBoard.Text.Natural

/-! # The fields of a board

A board is set up by a flat list of named fields. Item `N` of its navigation tree is described by
`map.parent.N`, the item above it; `mapid.N`, the map it shows; and `map.name.N`, its name. One more
field, `show_unavailable`, holds for the whole board. Numbers may be given as JSON numbers or as
text.

An item exists if its parent is a number. What is wrong with other fields of an item that does not
exist makes no difference.
-/

namespace ProblemBoard.Widget

open Navigation

/-- The fields of a board by name. -/
abbrev FieldTable := Std.ExtTreeMap String Json

/-- A number, given as such or as text with blanks around it. -/
def numeric? : Json → Option UInt64
  | .number value => value.natural?
  | .string value => Text.natural? (Text.trim value.toList)
  | _ => none

/-- A flag, given as a boolean or as a number, of which all but zero mean yes. -/
def flag? : Json → Option Bool
  | .bool value => some value
  | value => (numeric? value).map (· != 0)

/-- A name, given as text or as a number. -/
def name? : Json → Option String
  | .string value => some value
  | .number value => some value.text
  | _ => none

/-- The item whose parent a field gives. -/
def parentField? (name : String) : Option ItemId := do
  let digits ← Text.dropFront? "map.parent.".toList name.toList
  let number ← Text.plainNatural? digits
  pure ⟨number⟩

def mapField (id : ItemId) : String := "mapid." ++ Decimal.natText id.toNat

def nameField (id : ItemId) : String := "map.name." ++ Decimal.natText id.toNat

/-- The name of the field that holds for the whole board. -/
def unavailableField : String := "show_unavailable"

/-- A number in a field, or zero if the field is missing or null. -/
def numberOrZero (fields : FieldTable) (name : String) : Except ViewFault UInt64 :=
  match fields[name]? with
  | none | some .null => pure 0
  | some value => (numeric? value).elim (throw (.invalidField name .notANumber)) pure

/-- A flag in a field, or no if the field is missing or null. -/
def flagOrNo (fields : FieldTable) (name : String) : Except ViewFault Bool :=
  match fields[name]? with
  | none | some .null => pure false
  | some value => (flag? value).elim (throw (.invalidField name .notAFlag)) pure

/-- The item that a field describes, if it gives the parent of one. -/
def itemOfField (fields : FieldTable) (name : String) (value : Json) :
    Except ViewFault (Option Item) :=
  match parentField? name, numeric? value with
  | some id, some parent => do
      let linked ← numberOrZero fields (mapField id)
      pure (some
        { id
          name := ((fields[nameField id]?).bind name?).getD ""
          parent := ⟨parent⟩
          linked := ⟨linked⟩
          childMaps := ∅ })
  | _, _ => pure none

/-- How a board is set up. -/
structure Setup where
  /-- The items in ascending order; items of one number stay in the order of their fields. -/
  items : List Item
  showUnavailable : Bool
  deriving DecidableEq

namespace Setup

/-- Read the fields of a board. The first item with a fault is reported, in the order of the field
names, and the flag only after all items. -/
def ofFields (fields : FieldTable) : Except ViewFault Setup := do
  let items ← fields.toList.mapM fun (name, value) => itemOfField fields name value
  let showUnavailable ← flagOrNo fields unavailableField
  pure
    { items := (items.filterMap id).mergeSort fun left right => (compare left.id right.id).isLE
      showUnavailable }

/-- The navigation tree of a board. -/
def tree (setup : Setup) : Tree := .ofItems setup.items

end Setup

end ProblemBoard.Widget
