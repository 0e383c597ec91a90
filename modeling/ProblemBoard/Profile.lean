import ProblemBoard.Text.Ends
import ProblemBoard.Text.Natural
import Std.Data.ExtTreeMap

/-! # What users have set

Texts are kept under names, apart for each user and each widget. The board keeps two things among
them: which navigation items a user has opened, one entry for each, and which item is selected. How
the entries are kept is left to a store; a profile is a table of them in order.

The name of an item's entry holds the item's number. Any digits that read as that number name the
same item, so the items found by name may repeat; the board itself writes the plain form only.
-/

namespace ProblemBoard

/-- Whose entry it is, for which widget, and its name. -/
structure ProfileKey where
  user : Int
  widget : Int
  name : String
  deriving DecidableEq, Repr

namespace ProfileKey

/-- Entries are ordered by user, then by widget, then by name. -/
instance : Ord ProfileKey :=
  ⟨compareLex (compareOn ProfileKey.user)
    (compareLex (compareOn ProfileKey.widget) (compareOn ProfileKey.name))⟩

instance : Std.TransOrd ProfileKey :=
  inferInstanceAs (Std.TransCmp (compareLex (compareOn ProfileKey.user)
    (compareLex (compareOn ProfileKey.widget) (compareOn ProfileKey.name))))

instance : Std.LawfulEqOrd ProfileKey where
  eq_of_compare {left right} same := by
    have same : (compareLex (compareOn ProfileKey.user) (compareLex (compareOn ProfileKey.widget)
        (compareOn ProfileKey.name))) left right = .eq := same
    rw [compareLex_eq_eq, compareLex_eq_eq] at same
    obtain ⟨user, widget, name⟩ := same
    cases left
    cases right
    congr
    · exact Std.LawfulEqCmp.eq_of_compare user
    · exact Std.LawfulEqCmp.eq_of_compare widget
    · exact Std.LawfulEqCmp.eq_of_compare name

end ProfileKey

namespace Profile

/-- How the name of an item's entry begins. -/
def toggleFront : String := "web.dashbrd.navtree-"

/-- How the name of an item's entry ends. -/
def toggleBack : String := ".toggle"

/-- The name of the entry for the selected item. -/
def selectedName : String := "web.dashbrd.navtree.item.selected"

/-- The name of an item's entry. -/
def toggleName (item : ItemId) : String :=
  toggleFront ++ Decimal.natText item.toNat ++ toggleBack

/-- The item whose entry has the given name. -/
def itemOfName? (name : String) : Option ItemId := do
  let rest ← Text.dropFront? toggleFront.toList name.toList
  let middle ← Text.dropBack? toggleBack.toList rest
  let number ← Text.natural? middle
  pure ⟨number⟩

end Profile

/-- What keeps the entries of all users. -/
class ProfileStore (σ : Type) where
  get? (store : σ) (user widget : Int) (name : String) : Option String
  /-- Write an entry, in place of the one that is there. -/
  set (store : σ) (user widget : Int) (name value : String) : σ
  /-- Take an entry away, if there is one. -/
  delete (store : σ) (user widget : Int) (name : String) : σ
  /-- The names of a user's entries for a widget that begin and end in given ways, in ascending
  order. Beginning and end may overlap. -/
  find (store : σ) (user widget : Int) (front back : String) : List String

namespace ProfileStore

variable {σ : Type} [ProfileStore σ] (store : σ) (user widget : Int)

/-- The items that a user has opened in a widget, in ascending order. -/
def opened : List ItemId :=
  ((find store user widget Profile.toggleFront Profile.toggleBack).filterMap
    Profile.itemOfName?).mergeSort fun left right => (compare left right).isLE

/-- Open or close an item. -/
def setOpened (item : ItemId) (open_ : Bool) : σ :=
  if open_ then set store user widget (Profile.toggleName item) "1"
  else delete store user widget (Profile.toggleName item)

/-- The item that a user has selected in a widget; the root if there is none. -/
def selected : ItemId :=
  match (get? store user widget Profile.selectedName).bind
      fun text => Text.natural? text.toList with
  | some number => ⟨number⟩
  | none => .zero

def setSelected (item : ItemId) : σ :=
  set store user widget Profile.selectedName (Decimal.natText item.toNat)

end ProfileStore

/-- The entries of all users, in order of their keys. -/
abbrev Profile := Std.ExtTreeMap ProfileKey String

namespace Profile

def get? (profile : Profile) (user widget : Int) (name : String) : Option String :=
  profile[ProfileKey.mk user widget name]?

def set (profile : Profile) (user widget : Int) (name value : String) : Profile :=
  profile.insert ⟨user, widget, name⟩ value

def delete (profile : Profile) (user widget : Int) (name : String) : Profile :=
  profile.erase ⟨user, widget, name⟩

/-- The keys of a user's entries for a widget follow the order of their names. -/
def find (profile : Profile) (user widget : Int) (front back : String) : List String :=
  (profile.keys.filter fun key =>
    key.user == user && key.widget == widget && front.toList.isPrefixOf key.name.toList &&
      back.toList.isSuffixOf key.name.toList).map ProfileKey.name

instance : ProfileStore Profile := ⟨get?, set, delete, find⟩

def opened (profile : Profile) (user widget : Int) : List ItemId :=
  ProfileStore.opened profile user widget

def setOpened (profile : Profile) (user widget : Int) (item : ItemId) (open_ : Bool) : Profile :=
  ProfileStore.setOpened profile user widget item open_

def selected (profile : Profile) (user widget : Int) : ItemId :=
  ProfileStore.selected profile user widget

def setSelected (profile : Profile) (user widget : Int) (item : ItemId) : Profile :=
  ProfileStore.setSelected profile user widget item

end Profile

end ProblemBoard
