import ProblemBoard.Proofs.Tables
import ProblemBoard.Store.Database
import ProblemBoard.Store.Memory

/-! # Profiles in stores

A store keeps its entries in a profile if every call for an entry does to the store what it does to the profile. This
is so of a store in memory, and of a database as well, which finds entries among the rows of its table and puts their
names in order when it is asked for them. What users have opened and selected is then what the profile says.
-/

namespace ProblemBoard

namespace ProfileStore

/-- The store keeps its entries in a profile. -/
structure KeepsIn {σ : Type} [ProfileStore σ] (profile : σ → Profile) : Prop where
  get? (store : σ) (user widget : Int) (name : String) :
    ProfileStore.get? store user widget name = (profile store).get? user widget name
  set (store : σ) (user widget : Int) (name value : String) :
    profile (ProfileStore.set store user widget name value) = (profile store).set user widget name value
  delete (store : σ) (user widget : Int) (name : String) :
    profile (ProfileStore.delete store user widget name) = (profile store).delete user widget name
  find (store : σ) (user widget : Int) (front back : String) :
    ProfileStore.find store user widget front back = (profile store).find user widget front back

namespace KeepsIn

variable {σ : Type} [ProfileStore σ] {profile : σ → Profile} (keeps : KeepsIn profile) (store : σ)
  (user widget : Int)

include keeps

theorem opened_eq : opened store user widget = (profile store).opened user widget := by
  rw [opened, keeps.find]
  rfl

theorem selected_eq : selected store user widget = (profile store).selected user widget := by
  rw [selected, keeps.get?]
  rfl

theorem profile_setOpened (item : ItemId) (isOpen : Bool) :
    profile (setOpened store user widget item isOpen) = (profile store).setOpened user widget item isOpen := by
  cases isOpen
  · exact keeps.delete ..
  · exact keeps.set ..

theorem profile_setSelected (item : ItemId) :
    profile (setSelected store user widget item) = (profile store).setSelected user widget item :=
  keeps.set ..

end KeepsIn

end ProfileStore

theorem Memory.keepsIn_profile : ProfileStore.KeepsIn Memory.profile :=
  ⟨fun _ _ _ _ => rfl, fun _ _ _ _ _ => rfl, fun _ _ _ _ => rfl, fun _ _ _ _ _ => rfl⟩

/-- The keys of one user and widget stand in the order of their names. -/
theorem ProfileKey.compare_eq {left right : ProfileKey} (user : left.user = right.user)
    (widget : left.widget = right.widget) : compare left right = compare left.name right.name := by
  change (compare left.user right.user).then
    ((compare left.widget right.widget).then (compare left.name right.name)) = _
  rw [user, widget, Std.ReflOrd.compare_self, Std.ReflOrd.compare_self]
  rfl

namespace Database

variable (database : Database) {user widget : Int} {name : String}

theorem isRowOf_iff {key : ProfileKey} : isRowOf user widget name key = true ↔ key = ⟨user, widget, name⟩ := by
  obtain ⟨_, _, _⟩ := key
  rw [isRowOf, Bool.and_eq_true, Bool.and_eq_true, beq_iff_eq, beq_iff_eq, beq_iff_eq, and_right_comm, and_assoc,
    ProfileKey.mk.injEq]

variable (user widget name)

/-- No key has more than one row. -/
theorem entryText?_eq : database.entryText? user widget name = database.profile.get? user widget name := by
  let asked (row : ProfileKey × String) : Bool := isRowOf user widget name row.1
  have of_found {row : ProfileKey × String} (found : database.profile.toList.find? asked = some row) :
      row.1 = ⟨user, widget, name⟩ ∧ row ∈ database.profile.toList :=
    ⟨isRowOf_iff.mp (List.find?_some (p := asked) found), List.mem_of_find?_eq_some found⟩
  ext text
  rw [entryText?, Option.map_eq_some_iff, Profile.get?, ← Std.ExtTreeMap.mem_toList_iff_getElem?_eq_some]
  constructor
  · rintro ⟨⟨_, _⟩, found, rfl⟩
    obtain ⟨rfl, member⟩ := of_found found
    exact member
  · intro member
    obtain ⟨⟨_, other⟩, found⟩ := Option.isSome_iff_exists.mp
      (List.find?_isSome.mpr (⟨_, member, isRowOf_iff.mpr rfl⟩ : ∃ row ∈ _, asked row = true))
    obtain ⟨rfl, there⟩ := of_found found
    rw [Std.ExtTreeMap.mem_toList_iff_getElem?_eq_some] at member there
    exact ⟨_, found, Option.some.inj (there.symm.trans member)⟩

theorem profile_deleteEntry :
    (database.deleteEntry user widget name).profile = database.profile.delete user widget name := by
  ext key text
  rw [deleteEntry, Profile.delete, Std.ExtTreeMap.getElem?_filter', Std.ExtTreeMap.getElem?_erase]
  by_cases named : key = ⟨user, widget, name⟩
  · rw [if_pos (Std.compare_eq_iff_eq.mpr named.symm), isRowOf_iff.mpr named]
    simp
  · rw [if_neg fun same => named (Std.compare_eq_iff_eq.mp same).symm,
      Bool.eq_false_iff.mpr (mt isRowOf_iff.mp named)]
    simp

/-- The names are in order already, since the rows are. -/
theorem entryNames_eq (front back : String) :
    database.entryNames user widget front back = database.profile.find user widget front back := by
  let owned (key : ProfileKey) : Bool := key.user == user && key.widget == widget
  have names : ((database.profile.toList.filter fun row => owned row.1).map fun row => row.1.name) =
      (database.profile.keys.filter owned).map ProfileKey.name := by
    rw [← Std.ExtTreeMap.map_fst_toList_eq_keys, List.filter_map, List.map_map]
    rfl
  have sorted : ((database.profile.keys.filter owned).map ProfileKey.name).Pairwise
      fun front back => (compare front back).isLE := by
    rw [List.pairwise_map]
    refine (Std.ExtTreeMap.ordered_keys.filter owned).imp_of_mem fun mine yours less => ?_
    simp only [owned, List.mem_filter, Bool.and_eq_true, beq_iff_eq] at mine yours
    rw [ProfileKey.compare_eq (mine.2.1.trans yours.2.1.symm) (mine.2.2.trans yours.2.2.symm)] at less
    rw [less]
    rfl
  change (((database.profile.toList.filter fun row => owned row.1).map fun row => row.1.name).mergeSort _).filter _ = _
  rw [names, List.mergeSort_of_pairwise sorted, List.filter_map, List.filter_filter, Profile.find]
  refine congrArg _ (List.filter_congr fun key _ => ?_)
  simp only [owned, Function.comp_apply, Bool.and_assoc, Bool.and_comm]

theorem keepsIn_profile : ProfileStore.KeepsIn Database.profile :=
  ⟨entryText?_eq, fun _ _ _ _ _ => rfl, profile_deleteEntry, entryNames_eq⟩

end Database

end ProblemBoard
