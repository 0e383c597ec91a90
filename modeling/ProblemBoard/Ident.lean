import Std.Data.ExtTreeSet

/-! # Identifiers of monitored entities

Maps, navigation items, triggers, hosts and host groups are named by unsigned 64-bit numbers. One
type serves all five, indexed by what it names, so that a host cannot be passed for a trigger while
order and set operations are stated once. Zero is reserved: it is "no map" among maps and the root
among navigation items.
-/

namespace ProblemBoard

/-- The things that identifiers name. -/
inductive Entity where
  | map
  | item
  | trigger
  | host
  | group
  deriving DecidableEq, Repr

/-- The identifier of one entity of the given kind. -/
structure Ident (entity : Entity) where
  val : UInt64
  deriving DecidableEq, Repr, Hashable

abbrev MapId := Ident .map
abbrev ItemId := Ident .item
abbrev TriggerId := Ident .trigger
abbrev HostId := Ident .host
abbrev GroupId := Ident .group

namespace Ident

variable {entity : Entity}

/-- The reserved identifier: no map, or the root of the navigation tree. -/
def zero : Ident entity := ⟨0⟩

instance : Inhabited (Ident entity) := ⟨zero⟩

def isZero (id : Ident entity) : Bool := id.val == 0

@[simp] theorem isZero_iff {id : Ident entity} : id.isZero = true ↔ id = zero := by
  cases id
  simp [isZero, zero]

/-- Identifiers are ordered by their numbers. -/
instance : Ord (Ident entity) := ⟨fun left right => compare left.val right.val⟩

theorem compare_def (left right : Ident entity) : compare left right = compare left.val right.val :=
  rfl

instance : Std.TransOrd (Ident entity) :=
  inferInstanceAs (Std.TransCmp (compareOn fun id : Ident entity => id.val))

instance : Std.LawfulEqOrd (Ident entity) where
  eq_of_compare {left right} same := by
    cases left
    cases right
    exact congrArg Ident.mk (Std.LawfulEqOrd.eq_of_compare same)

/-- The identifier with the given number, if the number has 64 bits. -/
def ofNat? (number : Nat) : Option (Ident entity) :=
  if number < UInt64.size then some ⟨number.toUInt64⟩ else none

def toNat (id : Ident entity) : Nat := id.val.toNat

theorem toNat_lt (id : Ident entity) : id.toNat < UInt64.size := id.val.toNat_lt

theorem toNat_inj {left right : Ident entity} : left.toNat = right.toNat ↔ left = right := by
  cases left
  cases right
  simp [toNat, UInt64.toNat_inj]

@[simp] theorem ofNat?_toNat (id : Ident entity) : ofNat? id.toNat = some id := by
  rw [ofNat?, if_pos id.toNat_lt]
  simp [toNat]

theorem ofNat?_eq_some_iff {number : Nat} {id : Ident entity} :
    ofNat? number = some id ↔ id.toNat = number := by
  constructor
  · intro success
    unfold ofNat? at success
    split at success
    · next bound =>
      obtain rfl := Option.some.inj success
      exact UInt64.toNat_ofNat_of_lt bound
    · cases success
  · rintro rfl
    exact ofNat?_toNat id

end Ident

/-- A finite set of identifiers of one kind. -/
abbrev IdSet (entity : Entity) := Std.ExtTreeSet (Ident entity)

namespace IdSet

variable {entity : Entity}

private theorem length_ascending_le {limit : Nat} (ids : List (Ident entity)) (lowest : Nat)
    (lowest_le : lowest ≤ limit) (bound : ∀ id ∈ ids, lowest ≤ id.toNat ∧ id.toNat < limit)
    (ascending : ids.Pairwise fun left right => left.toNat < right.toNat) :
    ids.length + lowest ≤ limit := by
  induction ids generalizing lowest with
  | nil => simpa using lowest_le
  | cons id rest step =>
    rw [List.pairwise_cons] at ascending
    have here := bound id (List.mem_cons_self ..)
    have below := step (id.toNat + 1) (by omega)
      (fun other member =>
        ⟨ascending.1 other member, (bound other (List.mem_cons_of_mem _ member)).2⟩) ascending.2
    simp only [List.length_cons]
    omega

/-- There are only as many identifiers as 64-bit numbers. -/
theorem size_le (ids : IdSet entity) : ids.size ≤ UInt64.size := by
  rw [← Std.ExtTreeSet.length_toList]
  refine length_ascending_le ids.toList 0 (Nat.zero_le _)
    (fun id _ => ⟨Nat.zero_le _, id.toNat_lt⟩) (Std.ExtTreeSet.ordered_toList.imp ?_)
  intro left right less
  rw [Ident.compare_def, Std.compare_eq_lt] at less
  exact less

/-- Identifiers that are not yet in a set make it larger. -/
theorem size_lt_size_union {known fresh : IdSet entity} (some_fresh : fresh.isEmpty = false)
    (disjoint : ∀ id ∈ known, id ∉ fresh) : known.size < (known ∪ fresh).size := by
  rw [Std.ExtTreeSet.size_union_of_not_mem disjoint]
  rw [Std.ExtTreeSet.isEmpty_eq_size_beq_zero] at some_fresh
  have := of_decide_eq_false some_fresh
  omega

end IdSet

end ProblemBoard
