import ProblemBoard.Proofs.Detachment

/-! # Trees made of lists of items

Of several items with one identifier the last is filed, in the place of the first. A tree that is made
of a list forgets which child maps the items came with: those of an item are worked out from the items
below it in the repaired tree. So the keys and the items without their child maps determine such a tree,
and making a tree of its own items gives the same tree again.
-/

namespace ProblemBoard.Navigation.Tree

open Relation

variable {tree other : Tree} {key : ItemId}

section Keys

theorem keys_fileEntry {item : Item} {entries : List (ItemId × Item)} :
    (fileEntry key item entries).map Prod.fst =
      if key ∈ entries.map Prod.fst then entries.map Prod.fst else entries.map Prod.fst ++ [key] := by
  induction entries with
  | nil => rfl
  | cons entry rest ih =>
    rw [fileEntry]
    by_cases same : entry.1 = key
    · simp [same]
    · have differ : key ≠ entry.1 := fun equal => same equal.symm
      rw [if_neg same, List.map_cons, ih, List.map_cons]
      simp only [List.mem_cons, or_iff_right differ]
      split <;> rfl

theorem keys_addChildMap {map : MapId} {keys : List ItemId} :
    (tree.addChildMap map keys).keys = tree.keys :=
  foldl_keeps _ Tree.keys fun _ _ => keys_modify

theorem keys_propagate : tree.propagate.keys = tree.keys := by
  refine foldl_keeps _ Tree.keys fun told item => ?_
  split
  · rfl
  · exact keys_addChildMap

/-- Trees with the same keys in the same order, and the same items under them, are the same. -/
theorem ext_get? (keys : tree.keys = other.keys) (filed : ∀ key, tree.get? key = other.get? key) :
    tree = other := by
  have entries_eq (tree : Tree) :
      tree.entries = tree.keys.filterMap fun key => (tree.get? key).map (key, ·) := by
    have listed : tree.entries.filterMap (fun entry => (tree.get? entry.1).map (entry.1, ·)) =
        tree.entries.filterMap some := by
      refine List.filterMap_congr fun entry member => ?_
      rw [get?_eq_some_iff.mpr member]
      rfl
    rw [Tree.keys, List.filterMap_map]
    exact (listed.trans List.filterMap_some).symm
  have entries : tree.entries = other.entries := by
    rw [entries_eq tree, entries_eq other, keys]
    simp only [filed]
  obtain ⟨_, _⟩ := tree
  obtain ⟨_, _⟩ := other
  obtain rfl := entries
  rfl

end Keys

section Filed

/-- The keys are the identifiers, each where it came first. -/
theorem keys_filed (items : List Item) : (filed items).keys = (items.map Item.id).eraseDups := by
  induction items using List.reverseRecOn with
  | nil => rfl
  | append_singleton items item ih =>
    have filed_keys : ((filed items).file item.id (bare item)).keys =
        if item.id ∈ (filed items).keys then (filed items).keys else (filed items).keys ++ [item.id] :=
      keys_fileEntry
    rw [filed_concat, filed_keys, ih, List.map_append, List.eraseDups_append]
    simp only [List.mem_eraseDups]
    split
    · next known => simp [-List.mem_map, List.removeAll, known]
    · next fresh => simp [-List.mem_map, List.removeAll, List.eraseDups_cons, fresh]

theorem keys_ofItems (items : List Item) : (ofItems items).keys = (items.map Item.id).eraseDups := by
  rw [ofItems_eq, keys_propagate, breakCycles, keys_breakCyclesAmong, keys_filed]

/-- An item of the tree is the last with its identifier, with child maps of its own; it stays at its place
unless it leads a cycle, and is moved to the top if it does. -/
theorem exists_last_of_get? {items : List Item} {item : Item} (found : (ofItems items).get? key = some item) :
    ∃ last, (items.filter (·.id = key)).getLast? = some last ∧
      item = { last with parent := item.parent, childMaps := item.childMaps } ∧
      ((filed items).LeadsCycle key ∧ item.parent = .zero ∨
        ¬ (filed items).LeadsCycle key ∧ item.parent = last.parent) := by
  rw [ofItems_eq, get?_propagate, breakCycles, get?_breakCyclesAmong, get?_filed] at found
  simp only [Option.map_eq_some_iff] at found
  obtain ⟨_, ⟨_, ⟨last, listed, rfl⟩, rfl⟩, rfl⟩ := found
  refine ⟨last, listed, ?_⟩
  split
  · next detached => exact ⟨rfl, .inl ⟨mem_breakCycles.mp detached, rfl⟩⟩
  · next kept => exact ⟨rfl, .inr ⟨fun leads => kept (mem_breakCycles.mpr leads), rfl⟩⟩

end Filed

section Remaking

/-- A repaired tree is determined by its keys and its items without their child maps. -/
theorem Repaired.ext (repaired : tree.Repaired) (otherRepaired : other.Repaired)
    (keys : tree.keys = other.keys) (alike : tree.Alike other) : tree = other := by
  refine ext_get? keys fun key => ?_
  cases found : tree.get? key with
  | none =>
    have nothing := alike key
    rw [found] at nothing
    exact (Option.map_eq_none_iff.mp nothing.symm).symm
  | some item =>
    obtain ⟨same, foundSame, bare_eq⟩ := alike.exists_get? found
    have childMaps : item.childMaps = same.childMaps := by
      ext map
      rw [repaired.childMaps key item found, otherRepaired.childMaps key same foundSame, alike.parentStep,
        alike.exists_mem_items_iff fun lower linked => linked = map ∧ TransGen other.ParentStep lower key]
    have items : item = same := calc
      item = { bare item with childMaps := item.childMaps } := rfl
      _ = { bare same with childMaps := same.childMaps } := by rw [bare_eq, childMaps]
      _ = same := rfl
    rw [foundSame, items]

theorem eraseDups_of_nodup {ids : List ItemId} (distinct : ids.Nodup) : ids.eraseDups = ids := by
  induction ids with
  | nil => rfl
  | cons id rest ih =>
    rw [List.nodup_cons] at distinct
    have kept : rest.filter (fun other => !other == id) = rest := by
      refine List.filter_eq_self.mpr fun other member => ?_
      have differ : other ≠ id := fun same => distinct.1 (same ▸ member)
      simpa using differ
    rw [List.eraseDups_cons, kept, ih distinct.2]

/-- Filed anew, the items of a repaired tree stand where they stood. -/
theorem Repaired.alike_filed (repaired : tree.Repaired) : (filed tree.items).Alike tree := by
  intro key
  rw [get?_filed, Option.map_map]
  cases last : (tree.items.filter (·.id = key)).getLast? with
  | none =>
    rw [List.getLast?_eq_none_iff] at last
    cases found : tree.get? key with
    | none => rfl
    | some item =>
      have member : item ∈ tree.items.filter (·.id = key) :=
        List.mem_filter.mpr ⟨mem_items_iff.mpr ⟨key, found⟩, decide_eq_true (repaired.own key item found)⟩
      rw [last] at member
      exact absurd member List.not_mem_nil
  | some item =>
    obtain ⟨member, named⟩ := List.mem_filter.mp (List.mem_of_getLast? last)
    rw [decide_eq_true_eq] at named
    rw [← named, repaired.get?_id member]
    rfl

/-- Made of the items of a repaired tree, a tree is that tree. -/
theorem Repaired.ofItems_items (repaired : tree.Repaired) : ofItems tree.items = tree := by
  have alike := repaired.alike_filed
  have acyclic : ∀ key, ¬ TransGen (filed tree.items).ParentStep key key := by
    rw [alike.parentStep]
    exact repaired.acyclic
  refine Repaired.ext (repaired_ofItems tree.items) repaired ?keys ?alike
  case keys =>
    have distinct : tree.keys.Nodup := tree.keys_nodup
    rw [keys_ofItems, repaired.map_id_items, eraseDups_of_nodup distinct]
  case alike =>
    rw [ofItems_eq, breakCycles_of_acyclic acyclic]
    exact fun key => (alike_propagate key).trans (alike key)

end Remaking

/-- A tree that is made of a list files the last item of each identifier in the place of the first. The
child maps of an item are the maps linked below it, so the maps that count are those linked, and the tree
made of the items of the tree is the tree again. -/
theorem ofItems_childMaps_exact (items : List Item) :
    (ofItems items).keys = (items.map Item.id).eraseDups ∧
      (∀ item ∈ (ofItems items).items, ∃ last, (items.filter (·.id = item.id)).getLast? = some last ∧
        item = { last with parent := item.parent, childMaps := item.childMaps } ∧
        ((filed items).LeadsCycle item.id ∧ item.parent = .zero ∨
          ¬ (filed items).LeadsCycle item.id ∧ item.parent = last.parent)) ∧
      (∀ item ∈ (ofItems items).items, ∀ map, map ∈ item.childMaps ↔
        map ≠ .zero ∧ ∃ lower ∈ (ofItems items).items, lower.linked = map ∧
          TransGen (ofItems items).ParentStep lower.id item.id) ∧
      (ofItems items).referencedMaps = (ofItems items).linkedMaps ∧
      ofItems (ofItems items).items = ofItems items := by
  have repaired := repaired_ofItems items
  refine ⟨keys_ofItems items, fun item member => exists_last_of_get? (repaired.get?_id member),
    fun item member => repaired.childMaps item.id item (repaired.get?_id member), ?_,
    repaired.ofItems_items⟩
  ext id
  rw [repaired.mem_referencedMaps, mem_linkedMaps]

/-- Two items that are each other's parent, of which the second comes twice, an item below them that brings
child maps along, and an item whose parent is missing. -/
def patched : List Item := [
  ⟨⟨1⟩, "", ⟨2⟩, ⟨10⟩, ∅⟩,
  ⟨⟨2⟩, "", ⟨3⟩, ⟨20⟩, ∅⟩,
  ⟨⟨3⟩, "", ⟨2⟩, ⟨30⟩, {⟨99⟩}⟩,
  ⟨⟨2⟩, "", ⟨1⟩, ⟨21⟩, ∅⟩,
  ⟨⟨4⟩, "", ⟨9⟩, ⟨40⟩, ∅⟩]

/-- On top is the first item, and below it are the map that was linked last to the second and the map of
the third. -/
theorem ofItems_childMaps_exact_patched :
    (ofItems patched).keys = [⟨1⟩, ⟨2⟩, ⟨3⟩, ⟨4⟩] ∧
      (∃ lower ∈ (ofItems patched).items, lower.linked = ⟨30⟩ ∧
        TransGen (ofItems patched).ParentStep lower.id ⟨1⟩) ∧
      (¬ ∃ lower ∈ (ofItems patched).items, lower.linked = ⟨20⟩ ∧
        TransGen (ofItems patched).ParentStep lower.id ⟨1⟩) ∧
      ofItems (ofItems patched).items = ofItems patched := by
  obtain ⟨keys, _, exactly, _, again⟩ := ofItems_childMaps_exact patched
  let top : Item := ⟨⟨1⟩, "", .zero, ⟨10⟩, {⟨30⟩, ⟨21⟩}⟩
  have member : top ∈ (ofItems patched).items := by decide +kernel
  refine ⟨keys.trans (by decide +kernel), ?_, fun below => ?_, again⟩
  · exact ((exactly top member ⟨30⟩).mp (by decide +kernel)).2
  · have counted := (exactly top member ⟨20⟩).mpr ⟨by decide, below⟩
    exact absurd counted (by decide +kernel)

end ProblemBoard.Navigation.Tree
