import ProblemBoard.Ident
import ProblemBoard.Severity

/-! # Network maps

A network map shows hosts, host groups, single triggers and other maps as elements, joined by links
that carry triggers of their own. Every element and link has the permission that the current user
holds on it; only readable ones contribute to a count. A map also sets two display rules: the lowest
severity it counts, and whether acknowledged problems count.

`NetworkMap.fault?` finds the first element that stands for nothing; a map without one is fit to be
stored.
-/

namespace ProblemBoard

/-- What the current user may do with an element or a link. -/
inductive Permission where
  | deny
  | read
  | readWrite
  deriving DecidableEq, Repr

namespace Permission

instance : Inhabited Permission := ⟨deny⟩

/-- The number that written models carry; 1 is not in use. -/
def level : Permission → Nat
  | deny => 0
  | read => 2
  | readWrite => 3

/-- The permission with the given number. -/
def ofLevel? : Nat → Option Permission
  | 0 => some deny
  | 2 => some read
  | 3 => some readWrite
  | _ => none

def isReadable : Permission → Bool
  | deny => false
  | read => true
  | readWrite => true

@[simp] theorem ofLevel?_level (permission : Permission) :
    ofLevel? permission.level = some permission := by
  cases permission <;> rfl

end Permission

/-- What a map element stands for. -/
inductive Target where
  /-- All triggers of a host group. -/
  | group (id : GroupId)
  /-- All triggers of a host. -/
  | host (id : HostId)
  /-- The listed triggers. -/
  | triggers (ids : List TriggerId)
  /-- Another map, embedded in this one. -/
  | map (id : MapId)
  deriving DecidableEq, Repr

/-- An element placed on a map. -/
structure Element where
  target : Target
  permission : Permission
  deriving DecidableEq, Repr

/-- The map that an element embeds. -/
def Element.submap? (element : Element) : Option MapId :=
  match element.target with
  | .map id => some id
  | _ => none

/-- A connector between two elements, coloured by its triggers. -/
structure Link where
  triggers : List TriggerId
  permission : Permission
  deriving DecidableEq, Repr

/-- Why an element stands for nothing. -/
inductive ElementFault where
  | noTriggers
  | noTargetMap
  deriving DecidableEq, Repr

def Element.fault? (element : Element) : Option ElementFault :=
  match element.target with
  | .triggers [] => some .noTriggers
  | .map id => if id.isZero then some .noTargetMap else none
  | _ => none

/-- A network map with its display rules. -/
structure NetworkMap where
  id : MapId
  name : String
  /-- The lowest severity that this map counts. -/
  severityFloor : Severity
  /-- Whether only problems that nobody has acknowledged count. -/
  unacknowledgedOnly : Bool
  elements : List Element
  links : List Link
  /-- The maps that can be reached through readable map elements; known once the maps around this
  one are known. -/
  submaps : IdSet .map
  deriving DecidableEq

namespace NetworkMap

/-- The maps embedded directly, whatever the permission, in the order of the elements. -/
def embedded (map : NetworkMap) : List MapId := map.elements.filterMap Element.submap?

def readableElements (map : NetworkMap) : List Element :=
  map.elements.filter (·.permission.isReadable)

def readableLinks (map : NetworkMap) : List Link :=
  map.links.filter (·.permission.isReadable)

/-- The maps embedded directly through readable elements, in the order of the elements. -/
def readableEmbedded (map : NetworkMap) : List MapId :=
  map.readableElements.filterMap Element.submap?

/-- The first element that stands for nothing, whatever its permission. -/
def fault? (map : NetworkMap) : Option ElementFault := map.elements.findSome? Element.fault?

theorem mem_embedded {map : NetworkMap} {id : MapId} :
    id ∈ map.embedded ↔ ∃ element ∈ map.elements, element.submap? = some id := by
  simp [embedded]

theorem mem_readableEmbedded {map : NetworkMap} {id : MapId} :
    id ∈ map.readableEmbedded ↔
      ∃ element ∈ map.elements, element.permission.isReadable = true ∧ element.submap? = some id := by
  simp [readableEmbedded, readableElements, and_assoc]

theorem readableEmbedded_subset (map : NetworkMap) : map.readableEmbedded ⊆ map.embedded := by
  intro id member
  obtain ⟨element, present, _, target⟩ := mem_readableEmbedded.mp member
  exact mem_embedded.mpr ⟨element, present, target⟩

theorem fault?_eq_none_iff {map : NetworkMap} :
    map.fault? = none ↔ ∀ element ∈ map.elements, element.fault? = none := by
  simp [fault?]

end NetworkMap

end ProblemBoard
