import ProblemBoard.Proofs.Climbing
import ProblemBoard.Proofs.Tables

/-! # Repaired navigation trees

A tree that is made of a list of items files every item under its own identifier, no parents lead
in a circle, and the child maps of an item are the maps linked below it. Breaking the cycles only
takes parents away: an item that was found off every cycle stays off, and a detached item has no way
up any more. Telling the items about the maps below changes no parent.
-/

namespace ProblemBoard.Navigation.Tree

open Relation

variable {tree : Tree} {key other parent : ItemId}

/-- Keys are filed alike as soon as look-ups agree on what is filed. -/
theorem parentStep_iff : tree.ParentStep key parent ↔
    (∃ item, tree.get? key = some item ∧ item.parent = parent) ∧ parent ≠ .zero ∧
      ∃ item, tree.get? parent = some item := by
  rw [ParentStep, mem_keys_iff]
  rfl

theorem mem_items_iff {item : Item} : item ∈ tree.items ↔ ∃ key, tree.get? key = some item := by
  simp only [get?_eq_some_iff, items, List.mem_map, Prod.exists, exists_eq_right]

section Alike

/-- The item without the maps below it. -/
def bare (item : Item) : Item := { item with childMaps := ∅ }

theorem bare_eq_iff {item same : Item} : bare item = bare same ↔
    item.id = same.id ∧ item.name = same.name ∧ item.parent = same.parent ∧ item.linked = same.linked := by
  simp [bare]

/-- Under each key both trees hold the same item, apart from the maps below it, or none. -/
def Alike (tree result : Tree) : Prop := ∀ key, (tree.get? key).map bare = (result.get? key).map bare

variable {result : Tree}

theorem Alike.symm (alike : tree.Alike result) : result.Alike tree := fun key => (alike key).symm

theorem Alike.exists_get? (alike : tree.Alike result) {item : Item} (found : tree.get? key = some item) :
    ∃ same, result.get? key = some same ∧ bare same = bare item := by
  have filed := alike key
  rw [found] at filed
  exact Option.map_eq_some_iff.mp filed.symm

theorem Alike.parentStep (alike : tree.Alike result) : tree.ParentStep = result.ParentStep := by
  have onward {tree result : Tree} (alike : tree.Alike result) {key parent : ItemId}
      (step : tree.ParentStep key parent) : result.ParentStep key parent := by
    obtain ⟨⟨item, found, named⟩, nonzero, upper, filed⟩ := parentStep_iff.mp step
    obtain ⟨same, foundSame, bare_eq⟩ := alike.exists_get? found
    obtain ⟨_, _, parents, _⟩ := bare_eq_iff.mp bare_eq
    obtain ⟨above, filedAbove, _⟩ := alike.exists_get? filed
    exact parentStep_iff.mpr ⟨⟨same, foundSame, parents.trans named⟩, nonzero, above, filedAbove⟩
  funext key parent
  exact propext ⟨onward alike, onward alike.symm⟩

theorem Alike.exists_mem_items_iff (alike : tree.Alike result) (holds : ItemId → MapId → Prop) :
    (∃ item ∈ tree.items, holds item.id item.linked) ↔ ∃ item ∈ result.items, holds item.id item.linked := by
  have onward {tree result : Tree} (alike : tree.Alike result)
      (held : ∃ item ∈ tree.items, holds item.id item.linked) :
      ∃ item ∈ result.items, holds item.id item.linked := by
    obtain ⟨item, member, held⟩ := held
    obtain ⟨key, found⟩ := mem_items_iff.mp member
    obtain ⟨same, foundSame, bare_eq⟩ := alike.exists_get? found
    obtain ⟨ids, _, _, links⟩ := bare_eq_iff.mp bare_eq
    rw [← ids, ← links] at held
    exact ⟨same, mem_items_iff.mpr ⟨key, foundSame⟩, held⟩
  exact ⟨onward alike, onward alike.symm⟩

end Alike

section Filing

theorem lookup_fileEntry {item : Item} {entries : List (ItemId × Item)} :
    (fileEntry key item entries).lookup other =
      if other = key then some item else entries.lookup other := by
  induction entries with
  | nil => simp [fileEntry, lookup_cons]
  | cons entry rest ih =>
    rw [fileEntry, lookup_cons]
    split
    · next same =>
      rw [lookup_cons, same]
      split <;> rfl
    · next differ =>
      rw [lookup_cons, ih]
      by_cases first : other = entry.1
      · simp [first, differ]
      · simp [first]

theorem get?_file {item : Item} :
    (tree.file key item).get? other = if other = key then some item else tree.get? other :=
  lookup_fileEntry

theorem get?_modify {change : Item → Item} :
    (tree.modify key change).get? other =
      (tree.get? other).map fun item => if other = key then change item else item := by
  change (tree.entries.map fun entry => if entry.1 = key then (key, change entry.2) else entry).lookup
    other = (tree.entries.lookup other).map _
  induction tree.entries with
  | nil => rfl
  | cons entry rest ih =>
    have kept : (if entry.1 = key then (key, change entry.2) else entry).1 = entry.1 := by
      split
      · next same => exact same.symm
      · rfl
    rw [List.map_cons, lookup_cons, lookup_cons, kept, ih]
    by_cases first : other = entry.1
    · simp only [first, if_true, Option.map_some]
      split <;> rfl
    · simp only [first, if_false]

end Filing

section Cycles

theorem get?_detach : (tree.detach key).get? other =
    (tree.get? other).map fun item => if other = key then { item with parent := .zero } else item :=
  get?_modify

theorem breakCyclesAmong_cons {rest : List ItemId} :
    tree.breakCyclesAmong (key :: rest) =
      if tree.onCycle key then
        (((tree.detach key).breakCyclesAmong rest).1, key :: ((tree.detach key).breakCyclesAmong rest).2)
      else tree.breakCyclesAmong rest := rfl

/-- Breaking cycles moves the detached items to the top and leaves the others as they are. -/
theorem get?_breakCyclesAmong {keys : List ItemId} :
    (tree.breakCyclesAmong keys).1.get? other = (tree.get? other).map fun item =>
      if other ∈ (tree.breakCyclesAmong keys).2 then { item with parent := .zero } else item := by
  induction keys generalizing tree with
  | nil => simp [breakCyclesAmong]
  | cons key rest ih =>
    rw [breakCyclesAmong_cons]
    split
    · rw [ih, get?_detach, Option.map_map]
      congr 1
      funext item
      by_cases same : other = key <;> by_cases later : other ∈ ((tree.detach key).breakCyclesAmong rest).2
        <;> simp [same, later]
    · exact ih

/-- Moving some items to the top takes away their steps and no others. -/
theorem parentStep_of_moved {result : Tree} {moved : ItemId → Prop} [DecidablePred moved]
    (filed : ∀ key, result.get? key = (tree.get? key).map fun item =>
      if moved key then { item with parent := .zero } else item) :
    result.ParentStep other parent ↔ ¬ moved other ∧ tree.ParentStep other parent := by
  simp only [parentStep_iff, filed, Option.map_eq_some_iff]
  constructor
  · rintro ⟨⟨_, ⟨item, found, rfl⟩, named⟩, nonzero, _, above, filed, _⟩
    split at named
    · exact absurd named.symm nonzero
    · next kept => exact ⟨kept, ⟨item, found, named⟩, nonzero, above, filed⟩
  · rintro ⟨kept, ⟨item, found, named⟩, nonzero, above, filed⟩
    exact ⟨⟨item, ⟨item, found, if_neg kept⟩, named⟩, nonzero, _, above, filed, rfl⟩

/-- The steps that are left are those of the items that were not detached. -/
theorem parentStep_breakCyclesAmong {keys : List ItemId} :
    (tree.breakCyclesAmong keys).1.ParentStep other parent ↔
      other ∉ (tree.breakCyclesAmong keys).2 ∧ tree.ParentStep other parent :=
  parentStep_of_moved fun _ => get?_breakCyclesAmong

theorem transGen_of_breakCyclesAmong {keys : List ItemId} {upper : ItemId}
    (way : TransGen (tree.breakCyclesAmong keys).1.ParentStep other upper) :
    TransGen tree.ParentStep other upper :=
  TransGen.mono (fun _ _ step => (parentStep_breakCyclesAmong.mp step).2) _ _ way

/-- No key that has been gone through lies on a cycle any more. -/
theorem not_onCycle_breakCyclesAmong {keys : List ItemId} (member : key ∈ keys) :
    ¬ TransGen (tree.breakCyclesAmong keys).1.ParentStep key key := by
  induction keys generalizing tree with
  | nil => exact absurd member List.not_mem_nil
  | cons first rest ih =>
    rw [breakCyclesAmong_cons]
    split
    · rcases List.mem_cons.mp member with rfl | later
      · intro way
        obtain ⟨_, step, _⟩ := TransGen.head'_iff.mp (transGen_of_breakCyclesAmong way)
        obtain ⟨⟨item, found, named⟩, nonzero, _⟩ := parentStep_iff.mp step
        rw [get?_detach, Option.map_eq_some_iff] at found
        obtain ⟨_, _, rfl⟩ := found
        rw [if_pos rfl] at named
        exact nonzero named.symm
      · exact ih later
    · next off =>
      rcases List.mem_cons.mp member with rfl | later
      · exact fun way => off (onCycle_iff.mpr (transGen_of_breakCyclesAmong way))
      · exact ih later

/-- No cycle is left. -/
theorem not_onCycle_breakCycles : ¬ TransGen tree.breakCycles.1.ParentStep key key := by
  intro way
  have filed := mem_keys_iff.mpr (exists_get?_of_transGen (transGen_of_breakCyclesAmong way))
  exact not_onCycle_breakCyclesAmong filed way

end Cycles

section Propagation

/-- The maps linked to those of the items from which parents lead to a key. -/
def linkedBelow (tree : Tree) (items : List Item) (key : ItemId) : IdSet .map :=
  .ofList (((items.filter (key ∈ tree.ancestors ·.id)).map Item.linked).filter (!·.isZero))

theorem mem_linkedBelow {items : List Item} {map : MapId} :
    map ∈ tree.linkedBelow items key ↔
      map ≠ .zero ∧ ∃ item ∈ items, key ∈ tree.ancestors item.id ∧ item.linked = map := by
  simp only [linkedBelow, Std.ExtTreeSet.mem_ofList, List.contains_iff_mem, List.mem_filter,
    List.mem_map, Bool.not_eq_true', ← Bool.not_eq_true, Ident.isZero_iff, decide_eq_true_eq, and_assoc]
  exact and_comm

theorem get?_addChildMap {map : MapId} {keys : List ItemId} :
    (tree.addChildMap map keys).get? other = (tree.get? other).map fun item =>
      if other ∈ keys then { item with childMaps := item.childMaps.insert map } else item := by
  rw [addChildMap]
  induction keys generalizing tree with
  | nil => simp
  | cons key rest ih =>
    rw [List.foldl_cons, ih, get?_modify, Option.map_map]
    congr 1
    funext item
    have twice : (item.childMaps.insert map).insert map = item.childMaps.insert map := by
      ext id
      simp
    by_cases same : other = key
    · simp [same, twice]
    · simp [same]

theorem linkedBelow_cons_of_isZero {item : Item} {rest : List Item} (unlinked : item.linked.isZero = true) :
    tree.linkedBelow (item :: rest) key = tree.linkedBelow rest key := by
  rw [Ident.isZero_iff] at unlinked
  ext map
  simp only [mem_linkedBelow, List.exists_mem_cons_iff]
  refine and_congr_right fun nonzero => or_iff_right ?_
  rintro ⟨_, rfl⟩
  exact nonzero unlinked

theorem union_linkedBelow_cons {item : Item} {rest : List Item} (linked : ¬ item.linked.isZero = true)
    (childMaps : IdSet .map) :
    childMaps ∪ tree.linkedBelow (item :: rest) key =
      (if key ∈ tree.ancestors item.id then childMaps.insert item.linked else childMaps) ∪
        tree.linkedBelow rest key := by
  rw [Ident.isZero_iff] at linked
  ext map
  simp only [Std.ExtTreeSet.mem_union_iff, mem_linkedBelow, List.exists_mem_cons_iff]
  split
  · next above =>
    rw [Std.ExtTreeSet.mem_insert, Std.compare_eq_iff_eq]
    constructor
    · rintro (before | ⟨nonzero, ⟨_, rfl⟩ | later⟩)
      · exact .inl (.inr before)
      · exact .inl (.inl rfl)
      · exact .inr ⟨nonzero, later⟩
    · rintro ((rfl | before) | ⟨nonzero, later⟩)
      · exact .inr ⟨linked, .inl ⟨above, rfl⟩⟩
      · exact .inl before
      · exact .inr ⟨nonzero, .inr later⟩
  · next aside => simp [aside]

theorem get?_foldl_addChildMap {items : List Item} {told : Tree} :
    (items.foldl (fun result item =>
      if item.linked.isZero then result
      else result.addChildMap item.linked (tree.ancestors item.id)) told).get? key =
    (told.get? key).map fun item =>
      { item with childMaps := item.childMaps ∪ tree.linkedBelow items key } := by
  induction items generalizing told with
  | nil =>
    have same (maps : IdSet .map) : maps ∪ tree.linkedBelow [] key = maps := by
      ext id
      simp [Std.ExtTreeSet.mem_union_iff, mem_linkedBelow]
    simp [same]
  | cons first rest ih =>
    rw [List.foldl_cons, ih]
    split
    · next unlinked => rw [linkedBelow_cons_of_isZero unlinked]
    · next linked =>
      rw [get?_addChildMap, Option.map_map]
      congr 1
      funext item
      rw [union_linkedBelow_cons linked, Function.comp_apply]
      split <;> rfl

/-- Telling the items about the maps below adds to their child maps and changes nothing else. -/
theorem get?_propagate : tree.propagate.get? key = (tree.get? key).map fun item =>
    { item with childMaps := item.childMaps ∪ tree.linkedBelow tree.items key } :=
  get?_foldl_addChildMap

theorem alike_propagate : tree.propagate.Alike tree := by
  intro key
  rw [get?_propagate, Option.map_map]
  rfl

end Propagation

section Making

/-- What holds of a tree that is made of a list of items. -/
structure Repaired (tree : Tree) : Prop where
  own : ∀ key item, tree.get? key = some item → item.id = key
  acyclic : ∀ key, ¬ TransGen tree.ParentStep key key
  childMaps : ∀ key item, tree.get? key = some item → ∀ map, map ∈ item.childMaps ↔
    map ≠ .zero ∧ ∃ lower ∈ tree.items, lower.linked = map ∧ TransGen tree.ParentStep lower.id key

/-- The items of a list, without their child maps, before any cycle is broken. -/
def filed (items : List Item) : Tree := items.foldl (fun tree item => tree.insert (bare item)) empty

theorem ofItems_eq (items : List Item) : ofItems items = (filed items).breakCycles.1.propagate := rfl

theorem filed_concat (items : List Item) (item : Item) :
    filed (items ++ [item]) = (filed items).file item.id (bare item) := by
  rw [filed, List.foldl_append]
  rfl

/-- Under each key stands the last item with that identifier. -/
theorem get?_filed {items : List Item} :
    (filed items).get? key = ((items.filter (·.id = key)).getLast?).map bare := by
  induction items using List.reverseRecOn with
  | nil => rfl
  | append_singleton items item ih =>
    rw [filed_concat, get?_file, ih, List.filter_append, List.getLast?_append]
    by_cases same : item.id = key
    · simp [same]
    · have differ : key ≠ item.id := fun equal => same equal.symm
      simp [same, differ]

theorem mem_linkedMaps {id : MapId} :
    id ∈ tree.linkedMaps ↔ id ≠ .zero ∧ ∃ item ∈ tree.items, item.linked = id := by
  simp only [linkedMaps, Std.ExtTreeSet.mem_ofList, List.contains_iff_mem, List.mem_filter, List.mem_map,
    Bool.not_eq_true', ← Bool.not_eq_true, Ident.isZero_iff]
  exact and_comm

/-- Items are filed under their own identifiers and forget the child maps they came with. -/
theorem filed_bare_of_get? {items : List Item} {item : Item} (found : (filed items).get? key = some item) :
    item.id = key ∧ item.childMaps = ∅ := by
  rw [get?_filed, Option.map_eq_some_iff] at found
  obtain ⟨last, listed, rfl⟩ := found
  obtain ⟨_, named⟩ := List.mem_filter.mp (List.mem_of_getLast? listed)
  exact ⟨of_decide_eq_true named, rfl⟩

theorem repaired_ofItems (items : List Item) : (ofItems items).Repaired := by
  rw [ofItems_eq]
  have broken (key : ItemId) (item : Item) (found : (filed items).breakCycles.1.get? key = some item) :
      item.id = key ∧ item.childMaps = ∅ := by
    obtain ⟨original, present, rfl⟩ := Option.map_eq_some_iff.mp (get?_breakCyclesAmong ▸ found)
    have filedSo := filed_bare_of_get? present
    split <;> exact filedSo
  generalize filed items = tree at broken
  constructor
  case own =>
    intro key item found
    obtain ⟨original, present, rfl⟩ := Option.map_eq_some_iff.mp (get?_propagate ▸ found)
    exact (broken key original present).1
  case acyclic =>
    intro key
    rw [alike_propagate.parentStep]
    exact not_onCycle_breakCycles
  case childMaps =>
    intro key item found map
    obtain ⟨original, present, rfl⟩ := Option.map_eq_some_iff.mp (get?_propagate ▸ found)
    have above (lower : ItemId) : key ∈ tree.breakCycles.1.ancestors lower ↔
        TransGen tree.breakCycles.1.ParentStep lower key := by
      rw [mem_ancestors]
      refine and_iff_left_of_imp fun way => ?_
      rintro rfl
      exact not_onCycle_breakCycles way
    rw [alike_propagate.parentStep, alike_propagate.exists_mem_items_iff
      fun lower linked => linked = map ∧ TransGen tree.breakCycles.1.ParentStep lower key]
    simp only [(broken key original present).2, Std.ExtTreeSet.mem_union_iff, mem_linkedBelow, above,
      Std.ExtTreeSet.not_mem_empty, false_or]
    refine and_congr_right fun _ => exists_congr fun lower => and_congr_right fun _ => ?_
    exact and_comm

namespace Repaired

/-- Every item is found under its identifier. -/
theorem get?_id (repaired : tree.Repaired) {item : Item} (member : item ∈ tree.items) :
    tree.get? item.id = some item := by
  obtain ⟨key, found⟩ := mem_items_iff.mp member
  exact repaired.own key item found ▸ found

theorem map_id_items (repaired : tree.Repaired) : tree.items.map Item.id = tree.keys := by
  rw [items, keys, List.map_map]
  refine List.map_congr_left fun entry member => ?_
  exact repaired.own entry.1 entry.2 (get?_eq_some_iff.mpr member)

theorem nodup_ids (repaired : tree.Repaired) : (tree.items.map Item.id).Nodup :=
  repaired.map_id_items ▸ tree.keys_nodup

/-- What counts for an item are the maps linked to it and to the items below it. -/
theorem mem_scopeRoots (repaired : tree.Repaired) {item : Item} (member : item ∈ tree.items)
    {root : MapId} :
    root ∈ item.scopeRoots ↔ root ≠ .zero ∧ (item.linked = root ∨
      ∃ lower ∈ tree.items, lower.linked = root ∧ TransGen tree.ParentStep lower.id item.id) := by
  have below := repaired.childMaps item.id item (repaired.get?_id member) root
  rw [Item.scopeRoots, List.mem_append, Std.ExtTreeSet.mem_toList, below, and_or_left]
  apply or_congr_left
  split
  · next unlinked =>
    rw [Ident.isZero_iff] at unlinked
    constructor
    · exact fun nowhere => absurd nowhere List.not_mem_nil
    · rintro ⟨nonzero, rfl⟩
      exact absurd unlinked nonzero
  · next linked =>
    rw [Ident.isZero_iff] at linked
    rw [List.mem_singleton]
    constructor
    · rintro rfl
      exact ⟨linked, rfl⟩
    · rintro ⟨_, rfl⟩
      rfl

/-- The maps that count for some item are those linked to some item. -/
theorem mem_referencedMaps (repaired : tree.Repaired) {id : MapId} :
    id ∈ tree.referencedMaps ↔ id ≠ .zero ∧ ∃ item ∈ tree.items, item.linked = id := by
  simp only [referencedMaps, Std.ExtTreeSet.mem_ofList, List.contains_iff_mem, List.mem_flatMap]
  constructor
  · rintro ⟨item, member, counts⟩
    obtain ⟨nonzero, linked | ⟨lower, below, linked, _⟩⟩ := (repaired.mem_scopeRoots member).mp counts
    · exact ⟨nonzero, item, member, linked⟩
    · exact ⟨nonzero, lower, below, linked⟩
  · rintro ⟨nonzero, item, member, linked⟩
    exact ⟨item, member, (repaired.mem_scopeRoots member).mpr ⟨nonzero, .inl linked⟩⟩

end Repaired

end Making

end ProblemBoard.Navigation.Tree
