import Mathlib.Data.List.Chain
import Mathlib.Data.List.Nodup
import Mathlib.Logic.Relation
import ProblemBoard.Navigation

/-! # Climbing the navigation tree

From a filed key one step leads up, to the parent of its item, if that is neither the top nor a key
that is not filed. A climb follows these steps and never visits a key twice, so it ends on every tree;
it visits everything above its start, and it comes back to the start exactly if the start lies on a
cycle.
-/

namespace ProblemBoard.Navigation

open Relation

theorem lookup_cons {entry : ItemId × Item} {rest : List (ItemId × Item)} {key : ItemId} :
    (entry :: rest).lookup key = if key = entry.1 then some entry.2 else rest.lookup key := by
  obtain ⟨first, item⟩ := entry
  by_cases same : key = first
  · simp [same]
  · simp [List.lookup_cons, beq_eq_false_iff_ne.mpr same, same]

theorem lookup_eraseKey {entries : List (ItemId × Item)} {key other : ItemId} :
    (eraseKey key entries).lookup other = if other = key then none else entries.lookup other := by
  induction entries with
  | nil => simp [eraseKey]
  | cons entry rest ih =>
    rw [eraseKey] at ih ⊢
    by_cases erased : entry.1 = key
    · subst erased
      rw [List.filter_cons_of_neg (by simp), ih, lookup_cons]
      split <;> rfl
    · rw [List.filter_cons_of_pos (by simpa using erased), lookup_cons, ih, lookup_cons]
      by_cases same : other = entry.1
      · simp [same, erased]
      · simp [same]

/-- The item filed under the first key has the second for its parent. -/
def ParentIn (entries : List (ItemId × Item)) (key parent : ItemId) : Prop :=
  ∃ item, entries.lookup key = some item ∧ item.parent = parent

theorem ParentIn.unique {entries : List (ItemId × Item)} {key parent other : ItemId}
    (above : ParentIn entries key parent) (also : ParentIn entries key other) : parent = other := by
  obtain ⟨item, found, rfl⟩ := above
  obtain ⟨same, foundAgain, rfl⟩ := also
  rw [found] at foundAgain
  exact congrArg Item.parent (Option.some.inj foundAgain)

theorem ParentIn.of_eraseKey {entries : List (ItemId × Item)} {erased key parent : ItemId}
    (above : ParentIn (eraseKey erased entries) key parent) :
    key ≠ erased ∧ ParentIn entries key parent := by
  obtain ⟨item, found, same⟩ := above
  rw [lookup_eraseKey] at found
  split at found
  · cases found
  · next differ => exact ⟨differ, item, found, same⟩

/-- The way of a climb: the keys from the start up, each the parent of the one before, and where it
stopped for want of a key that it had not visited. -/
structure Climbs (entries : List (ItemId × Item)) (key : ItemId) (above : List ItemId)
    (stop : ItemId) : Prop where
  chain : List.IsChain (ParentIn entries) (key :: (above ++ [stop]))
  nodup : (key :: above).Nodup
  nonzero : ∀ visited ∈ above, visited ≠ .zero
  stopped : stop = .zero ∨ entries.lookup stop = none ∨ stop ∈ key :: above

namespace Climbs

variable {entries : List (ItemId × Item)} {key stop : ItemId} {above : List ItemId}

/-- From every key of the way it goes on. -/
theorem exists_next (chain : List.IsChain (ParentIn entries) (key :: (above ++ [stop])))
    {visited : ItemId} (member : visited ∈ key :: above) :
    ∃ next ∈ above ++ [stop], ParentIn entries visited next := by
  induction above generalizing key with
  | nil =>
    obtain rfl := List.mem_singleton.mp member
    exact ⟨stop, List.mem_singleton_self _, (List.isChain_cons_cons.mp chain).1⟩
  | cons parent above ih =>
    rw [List.cons_append, List.isChain_cons_cons] at chain
    rcases List.mem_cons.mp member with rfl | member
    · exact ⟨parent, List.mem_cons_self .., chain.1⟩
    · obtain ⟨next, later, step⟩ := ih chain.2 member
      exact ⟨next, List.mem_cons_of_mem _ later, step⟩

/-- A climb can be put in front of one that does not come by its start. -/
theorem cons {parent : ItemId} (first : ParentIn entries key parent) (nonzero : parent ≠ .zero)
    (onward : Climbs (eraseKey key entries) parent above stop) :
    Climbs entries key (parent :: above) stop := by
  have avoids : key ∉ parent :: above := by
    intro member
    obtain ⟨_, _, step⟩ := exists_next onward.chain member
    exact step.of_eraseKey.1 rfl
  constructor
  case chain =>
    refine List.isChain_cons_cons.mpr ⟨first, ?_⟩
    exact onward.chain.imp fun _ _ step => step.of_eraseKey.2
  case nodup => exact List.nodup_cons.mpr ⟨avoids, onward.nodup⟩
  case nonzero =>
    intro visited member
    rcases List.mem_cons.mp member with rfl | member
    · exact nonzero
    · exact onward.nonzero visited member
  case stopped =>
    rcases onward.stopped with top | unfiled | visited
    · exact .inl top
    · rw [lookup_eraseKey] at unfiled
      split at unfiled
      · next same => exact .inr (.inr (same ▸ List.mem_cons_self ..))
      · exact .inr (.inl unfiled)
    · exact .inr (.inr (List.mem_cons_of_mem _ visited))

end Climbs

/-- From the parent of a key, with the key itself visited, a climb goes on as far as it can. -/
theorem climbs_climb {entries : List (ItemId × Item)} {key parent : ItemId}
    (first : ParentIn entries key parent) :
    Climbs entries key (Tree.climb (eraseKey key entries) parent).1
      (Tree.climb (eraseKey key entries) parent).2 := by
  have ends (stopped : parent = .zero ∨ entries.lookup parent = none ∨ parent ∈ [key]) :
      Climbs entries key [] parent := by
    refine ⟨?_, List.nodup_singleton key, by simp, stopped⟩
    exact List.isChain_cons_cons.mpr ⟨first, List.isChain_singleton parent⟩
  rw [Tree.climb]
  split
  · next top => exact ends (.inl (Ident.isZero_iff.mp top))
  · next nonzero =>
    rw [Ident.isZero_iff] at nonzero
    split
    · next unfiled =>
      rw [lookup_eraseKey] at unfiled
      split at unfiled
      · next same => exact ends (.inr (.inr (same ▸ List.mem_singleton_self _)))
      · exact ends (.inr (.inl unfiled))
    · next item found =>
      have onward : Climbs (eraseKey key entries) parent _ _ := climbs_climb ⟨item, found, rfl⟩
      exact onward.cons first nonzero
  termination_by entries.length
  decreasing_by
    obtain ⟨_, filed, _⟩ := first
    exact length_eraseKey_lt filed

namespace Tree

variable {tree : Tree} {key : ItemId}

theorem get?_eq_some_iff {item : Item} : tree.get? key = some item ↔ (key, item) ∈ tree.entries := by
  rw [get?, List.lookup_eq_some_iff]
  constructor
  · rintro ⟨front, back, split, _⟩
    rw [split]
    exact List.mem_append_right _ (List.mem_cons_self ..)
  · intro member
    obtain ⟨front, back, split⟩ := List.append_of_mem member
    refine ⟨front, back, split, fun entry earlier => ?_⟩
    have distinct := tree.keys_nodup
    rw [split, List.map_append, List.nodup_append] at distinct
    have differ := distinct.2.2 entry.1 (List.mem_map_of_mem earlier) key (by simp)
    simpa using differ.symm

theorem mem_keys_iff : key ∈ tree.keys ↔ ∃ item, tree.get? key = some item := by
  simp only [get?_eq_some_iff, keys, List.mem_map, Prod.exists, exists_and_right, exists_eq_right]

/-- From the first key one step leads up to the second, which is filed and the parent of the item
filed under the first. -/
def ParentStep (tree : Tree) (key parent : ItemId) : Prop :=
  ParentIn tree.entries key parent ∧ parent ≠ .zero ∧ parent ∈ tree.keys

theorem ParentStep.unique {parent other : ItemId} (step : tree.ParentStep key parent)
    (also : tree.ParentStep key other) : parent = other :=
  step.1.unique also.1

/-- Steps up start from a filed key. -/
theorem exists_get?_of_transGen {upper : ItemId} (way : TransGen tree.ParentStep key upper) :
    ∃ item, tree.get? key = some item := by
  obtain ⟨_, ⟨⟨item, found, _⟩, _⟩, _⟩ := TransGen.head'_iff.mp way
  exact ⟨item, found⟩

variable {above : List ItemId} {stop : ItemId}

/-- A way up over filed keys consists of steps from item to parent. -/
theorem transGen_of_isChain {way : List ItemId} (chain : List.IsChain (ParentIn tree.entries) (key :: way))
    (filed : ∀ passed ∈ way, passed ≠ .zero ∧ passed ∈ tree.keys) {passed : ItemId}
    (member : passed ∈ way) : TransGen tree.ParentStep key passed := by
  have steps : List.IsChain (TransGen tree.ParentStep) (key :: way) :=
    chain.imp_of_mem_tail_imp fun _ parent _ later up => .single ⟨up, filed parent later⟩
  exact steps.rel_cons member

theorem transGen_of_climbs (climbs : Climbs tree.entries key above stop) {visited : ItemId}
    (member : visited ∈ above) : TransGen tree.ParentStep key visited := by
  have front : List.IsChain (ParentIn tree.entries) (key :: above) :=
    List.IsChain.left_of_append (List.cons_append ▸ climbs.chain)
  refine transGen_of_isChain front (fun passed here => ⟨climbs.nonzero passed here, ?_⟩) member
  obtain ⟨_, _, item, found, _⟩ := Climbs.exists_next climbs.chain (List.mem_cons_of_mem key here)
  exact mem_keys_iff.mpr ⟨item, found⟩

/-- A climb leaves out nothing that its start leads to. -/
theorem mem_of_transGen (climbs : Climbs tree.entries key above stop) {upper : ItemId}
    (way : TransGen tree.ParentStep key upper) : upper ∈ key :: above := by
  have onward {visited next : ItemId} (member : visited ∈ key :: above)
      (step : tree.ParentStep visited next) : next ∈ key :: above := by
    obtain ⟨parent, later, up⟩ := Climbs.exists_next climbs.chain member
    obtain rfl := up.unique step.1
    rcases List.mem_append.mp later with later | last
    · exact List.mem_cons_of_mem _ later
    · obtain rfl := List.mem_singleton.mp last
      obtain ⟨item, found⟩ := mem_keys_iff.mp step.2.2
      rcases climbs.stopped with top | unfiled | visited
      · exact absurd top step.2.1
      · rw [get?, unfiled] at found
        cases found
      · exact visited
  induction way with
  | single step => exact onward (List.mem_cons_self ..) step
  | tail _ step ih => exact onward ih step

theorem climbs_climbFrom {item : Item} (found : tree.get? key = some item) :
    Climbs tree.entries key (tree.climbFrom key item).1 (tree.climbFrom key item).2 :=
  climbs_climb ⟨item, found, rfl⟩

/-- The ancestors of a key are the other keys that its parents lead to. -/
theorem mem_ancestors {upper : ItemId} :
    upper ∈ tree.ancestors key ↔ TransGen tree.ParentStep key upper ∧ upper ≠ key := by
  rw [ancestors]
  split
  · next unfiled =>
    refine ⟨fun member => absurd member List.not_mem_nil, fun ⟨way, _⟩ => ?_⟩
    obtain ⟨item, found⟩ := exists_get?_of_transGen way
    rw [unfiled] at found
    cases found
  · next item found =>
    have climbs := climbs_climbFrom found
    constructor
    · intro member
      refine ⟨transGen_of_climbs climbs member, ?_⟩
      rintro rfl
      exact (List.nodup_cons.mp climbs.nodup).1 member
    · rintro ⟨way, differ⟩
      exact (List.mem_cons.mp (mem_of_transGen climbs way)).resolve_left differ

/-- A climb comes back to its start exactly if parents lead from the start to itself. -/
theorem onCycle_iff : tree.onCycle key = true ↔ TransGen tree.ParentStep key key := by
  rw [onCycle]
  split
  · next unfiled =>
    refine ⟨fun cycle => absurd cycle Bool.false_ne_true, fun way => ?_⟩
    obtain ⟨item, found⟩ := exists_get?_of_transGen way
    rw [unfiled] at found
    cases found
  · next item found =>
    have climbs := climbs_climbFrom found
    have filed : key ∈ tree.keys := mem_keys_iff.mpr ⟨item, found⟩
    simp only [Bool.and_eq_true, Bool.not_eq_true', ← Bool.not_eq_true, Ident.isZero_iff, beq_iff_eq]
    constructor
    · rintro ⟨nonzero, back⟩
      refine transGen_of_isChain climbs.chain (fun passed member => ?_) (by simp [back])
      rcases List.mem_append.mp member with member | last
      · have way := transGen_of_climbs climbs member
        obtain ⟨_, _, step⟩ := TransGen.tail'_iff.mp way
        exact step.2
      · rw [List.mem_singleton.mp last, back]
        exact ⟨nonzero, filed⟩
    · intro way
      obtain ⟨last, before, step⟩ := TransGen.tail'_iff.mp way
      have member : last ∈ key :: (tree.climbFrom key item).1 := by
        rcases reflTransGen_iff_eq_or_transGen.mp before with rfl | before
        · exact List.mem_cons_self ..
        · exact mem_of_transGen climbs before
      obtain ⟨parent, later, up⟩ := Climbs.exists_next climbs.chain member
      obtain rfl := up.unique step.1
      rcases List.mem_append.mp later with again | stopped
      · exact absurd again (List.nodup_cons.mp climbs.nodup).1
      · exact ⟨step.2.1, (List.mem_singleton.mp stopped).symm⟩

end Tree

end ProblemBoard.Navigation
