import ProblemBoard.Proofs.Repair

/-! # Every cycle loses its first key

Parents are unique, so a cycle has no way out: whatever a key of it leads to leads back. Breaking the
cycles goes through the keys in the order of the tree. A key that is found on a cycle is detached, and
with that its cycle is gone: no later key of it is found on a cycle any more, while cycles that do not
pass through the key stay as they are. So one key of each cycle is detached, the first.
-/

namespace ProblemBoard.Navigation.Tree

open Relation

variable {tree : Tree} {key other first : ItemId}

/-- The key lies on a cycle of parents, and no key of that cycle comes before it in the list. -/
structure LeadsCycleAmong (tree : Tree) (keys : List ItemId) (key : ItemId) : Prop where
  cycle : TransGen tree.ParentStep key key
  first : ∀ other, TransGen tree.ParentStep key other → TransGen tree.ParentStep other key →
    keys.idxOf key ≤ keys.idxOf other

/-- The key lies on a cycle of parents, and comes first in the tree among the keys of that cycle. -/
def LeadsCycle (tree : Tree) (key : ItemId) : Prop := tree.LeadsCycleAmong tree.keys key

section Circles

/-- From a key that leads back to a cycle, so does the next one. -/
theorem transGen_onward (cycle : TransGen tree.ParentStep key key)
    (back : TransGen tree.ParentStep other key) {parent : ItemId} (up : tree.ParentStep other parent) :
    TransGen tree.ParentStep parent key := by
  obtain ⟨next, step, onward⟩ := TransGen.head'_iff.mp back
  obtain rfl := step.unique up
  exact TransGen.trans_right onward cycle

/-- Whatever a key of a cycle leads to leads back to it. -/
theorem transGen_back (cycle : TransGen tree.ParentStep key key)
    (way : TransGen tree.ParentStep key other) : TransGen tree.ParentStep other key := by
  induction way with
  | single up => exact transGen_onward cycle cycle up
  | tail _ up ih => exact transGen_onward cycle ih up

theorem leadsCycleAmong_iff {keys : List ItemId} : tree.LeadsCycleAmong keys key ↔
    TransGen tree.ParentStep key key ∧
      ∀ other, TransGen tree.ParentStep key other → keys.idxOf key ≤ keys.idxOf other := by
  constructor
  · intro leads
    exact ⟨leads.cycle, fun other way => leads.first other way (transGen_back leads.cycle way)⟩
  · rintro ⟨cycle, first⟩
    exact ⟨cycle, fun other way _ => first other way⟩

/-- With one more key in front, a key comes first on its cycle if it did before and the one in front is
not on the cycle. -/
theorem leadsCycleAmong_cons {rest : List ItemId} (differ : key ≠ first) :
    tree.LeadsCycleAmong (first :: rest) key ↔
      tree.LeadsCycleAmong rest key ∧ ¬ TransGen tree.ParentStep key first := by
  have later : (first :: rest).idxOf key = rest.idxOf key + 1 := List.idxOf_cons_ne rest differ.symm
  rw [leadsCycleAmong_iff, leadsCycleAmong_iff, later]
  constructor
  · rintro ⟨cycle, least⟩
    have apart : ¬ TransGen tree.ParentStep key first := by
      intro way
      have front := least first way
      rw [List.idxOf_cons_self] at front
      omega
    refine ⟨⟨cycle, fun other way => ?_⟩, apart⟩
    have elsewhere : first ≠ other := fun same => apart (same ▸ way)
    have bound := least other way
    rw [List.idxOf_cons_ne rest elsewhere] at bound
    omega
  · rintro ⟨⟨cycle, least⟩, apart⟩
    refine ⟨cycle, fun other way => ?_⟩
    have elsewhere : first ≠ other := fun same => apart (same ▸ way)
    have bound := least other way
    rw [List.idxOf_cons_ne rest elsewhere]
    omega

end Circles

section Detaching

/-- Detaching a key takes away its own step up and no other. -/
theorem parentStep_detach : (tree.detach first).ParentStep key other ↔
    key ≠ first ∧ tree.ParentStep key other :=
  parentStep_of_moved fun _ => get?_detach

theorem transGen_of_detach (way : TransGen (tree.detach first).ParentStep key other) :
    TransGen tree.ParentStep key other :=
  TransGen.mono (fun _ _ step => (parentStep_detach.mp step).2) _ _ way

/-- Ways that start on a cycle without the detached key are still there. -/
theorem transGen_detach_iff (cycle : TransGen tree.ParentStep key key)
    (apart : ¬ TransGen tree.ParentStep key first) :
    TransGen (tree.detach first).ParentStep key other ↔ TransGen tree.ParentStep key other := by
  refine ⟨transGen_of_detach, fun way => ?_⟩
  have kept {passed next : ItemId} (reached : TransGen tree.ParentStep key passed)
      (up : tree.ParentStep passed next) : (tree.detach first).ParentStep passed next := by
    refine parentStep_detach.mpr ⟨?_, up⟩
    rintro rfl
    exact apart reached
  induction way with
  | single up => exact .single (kept cycle up)
  | tail before up ih => exact ih.tail (kept before up)

/-- A cycle that is still there after a key was detached does not contain the key. -/
theorem not_transGen_of_detach (cycle : TransGen (tree.detach first).ParentStep key key) :
    ¬ TransGen tree.ParentStep key first := by
  intro way
  have step_detach {passed next : ItemId} (back : TransGen (tree.detach first).ParentStep passed key)
      (up : tree.ParentStep passed next) : (tree.detach first).ParentStep passed next := by
    obtain ⟨_, step, _⟩ := TransGen.head'_iff.mp back
    exact (parentStep_detach.mp step).2.unique up ▸ step
  -- The way follows the cycle that is still there, so from the detached key it would go on.
  have follows {passed : ItemId} (reached : TransGen tree.ParentStep key passed) :
      TransGen (tree.detach first).ParentStep passed key := by
    induction reached with
    | single up => exact transGen_onward cycle cycle (step_detach cycle up)
    | tail _ up ih => exact transGen_onward cycle ih (step_detach ih up)
  obtain ⟨_, step, _⟩ := TransGen.head'_iff.mp (follows way)
  exact (parentStep_detach.mp step).1 rfl

theorem leadsCycleAmong_detach {keys : List ItemId} : (tree.detach first).LeadsCycleAmong keys key ↔
    tree.LeadsCycleAmong keys key ∧ ¬ TransGen tree.ParentStep key first := by
  rw [leadsCycleAmong_iff, leadsCycleAmong_iff]
  constructor
  · rintro ⟨cycle, least⟩
    have apart := not_transGen_of_detach cycle
    have before := transGen_of_detach cycle
    exact ⟨⟨before, fun other way => least other ((transGen_detach_iff before apart).mpr way)⟩, apart⟩
  · rintro ⟨⟨cycle, least⟩, apart⟩
    exact ⟨(transGen_detach_iff cycle apart).mpr cycle,
      fun other way => least other (transGen_of_detach way)⟩

end Detaching

section Breaking

/-- Detached are the keys that come first on their cycles. -/
theorem mem_breakCyclesAmong {keys : List ItemId} : key ∈ (tree.breakCyclesAmong keys).2 ↔
    key ∈ keys ∧ tree.LeadsCycleAmong keys key := by
  induction keys generalizing tree with
  | nil => simp [breakCyclesAmong]
  | cons first rest ih =>
    rw [breakCyclesAmong_cons]
    split
    · next circling =>
      rw [List.mem_cons, List.mem_cons]
      by_cases same : key = first
      · subst same
        have leads : tree.LeadsCycleAmong (key :: rest) key :=
          ⟨onCycle_iff.mp circling, fun _ _ _ => by simp [List.idxOf_cons_self]⟩
        simp [leads]
      · rw [or_iff_right same, or_iff_right same, ih, leadsCycleAmong_detach, leadsCycleAmong_cons same]
    · next straight =>
      rw [onCycle_iff] at straight
      rw [ih, List.mem_cons]
      by_cases same : key = first
      · subst same
        exact ⟨fun found => absurd found.2.cycle straight, fun found => absurd found.2.cycle straight⟩
      · have apart (cycle : TransGen tree.ParentStep key key) : ¬ TransGen tree.ParentStep key first :=
          fun way => straight ((transGen_back cycle way).trans way)
        rw [or_iff_right same, leadsCycleAmong_cons same]
        exact and_congr_right fun _ => (and_iff_left_of_imp fun leads => apart leads.cycle).symm

theorem sublist_breakCyclesAmong (keys : List ItemId) : (tree.breakCyclesAmong keys).2.Sublist keys := by
  induction keys generalizing tree with
  | nil => exact List.Sublist.slnil
  | cons first rest ih =>
    rw [breakCyclesAmong_cons]
    split
    · exact ih.cons_cons first
    · exact ih.cons first

theorem keys_modify {change : Item → Item} : (tree.modify key change).keys = tree.keys := by
  rw [keys, keys, modify, List.map_map]
  refine List.map_congr_left fun entry _ => ?_
  by_cases hit : entry.1 = key <;> simp [hit]

theorem keys_breakCyclesAmong {keys : List ItemId} : (tree.breakCyclesAmong keys).1.keys = tree.keys := by
  induction keys generalizing tree with
  | nil => rfl
  | cons first rest ih =>
    rw [breakCyclesAmong_cons]
    split
    · exact ih.trans keys_modify
    · exact ih

/-- A tree without cycles is left as it is. -/
theorem breakCyclesAmong_of_acyclic (acyclic : ∀ key, ¬ TransGen tree.ParentStep key key)
    (keys : List ItemId) : tree.breakCyclesAmong keys = (tree, []) := by
  induction keys with
  | nil => rfl
  | cons first rest ih =>
    rw [breakCyclesAmong_cons, if_neg (fun circling => acyclic first (onCycle_iff.mp circling)), ih]

theorem breakCycles_of_acyclic (acyclic : ∀ key, ¬ TransGen tree.ParentStep key key) :
    tree.breakCycles = (tree, []) :=
  breakCyclesAmong_of_acyclic acyclic tree.keys

/-- Breaking all cycles detaches the first key of each. -/
theorem mem_breakCycles : key ∈ tree.breakCycles.2 ↔ tree.LeadsCycle key := by
  rw [breakCycles, mem_breakCyclesAmong]
  refine and_iff_right_of_imp fun leads => ?_
  exact mem_keys_iff.mpr (exists_get?_of_transGen leads.cycle)

/-- Breaking the cycles of any tree detaches the first key of each cycle and nothing else, listed in the
order of the tree. No cycle is left, so there is nothing to break a second time. -/
theorem breakCycles_exact (tree : Tree) :
    tree.breakCycles.2.Sublist tree.keys ∧
      (∀ key, key ∈ tree.breakCycles.2 ↔ tree.LeadsCycle key) ∧
      tree.breakCycles.1.keys = tree.keys ∧
      (∀ key, tree.breakCycles.1.get? key = (tree.get? key).map fun item =>
        if key ∈ tree.breakCycles.2 then { item with parent := .zero } else item) ∧
      (∀ key, ¬ TransGen tree.breakCycles.1.ParentStep key key) ∧
      tree.breakCycles.1.breakCycles = (tree.breakCycles.1, []) := by
  have acyclic (key : ItemId) : ¬ TransGen tree.breakCycles.1.ParentStep key key := not_onCycle_breakCycles
  exact ⟨sublist_breakCyclesAmong tree.keys, fun key => mem_breakCycles, keys_breakCyclesAmong,
    fun key => get?_breakCyclesAmong, acyclic, breakCycles_of_acyclic acyclic⟩

/-- A circle of two with a key that only leads into it, an item filed under zero whose parent is on the
circle, and an item that names its own key as its parent but has the identifier of another. -/
def tangled : Tree where
  entries := [
    (.zero, ⟨.zero, "", ⟨5⟩, ⟨10⟩, ∅⟩),
    (⟨6⟩, ⟨⟨6⟩, "", ⟨3⟩, ⟨20⟩, ∅⟩),
    (⟨3⟩, ⟨⟨3⟩, "", ⟨5⟩, .zero, ∅⟩),
    (⟨5⟩, ⟨⟨5⟩, "", ⟨3⟩, .zero, {⟨20⟩}⟩),
    (⟨4⟩, ⟨⟨5⟩, "", ⟨4⟩, ⟨30⟩, ∅⟩)]
  keys_nodup := by decide

/-- The circle loses the key that was filed first, and the one item leaves itself. -/
theorem breakCycles_exact_tangled :
    tangled.breakCycles.2 = [⟨3⟩, ⟨4⟩] ∧ tangled.LeadsCycle ⟨3⟩ ∧ tangled.LeadsCycle ⟨4⟩ ∧
      ¬ tangled.LeadsCycle ⟨5⟩ ∧ ¬ tangled.LeadsCycle ⟨6⟩ ∧
      ∀ key, ¬ TransGen tangled.breakCycles.1.ParentStep key key := by
  obtain ⟨_, detached, _, _, acyclic, _⟩ := breakCycles_exact tangled
  have listed : tangled.breakCycles.2 = [⟨3⟩, ⟨4⟩] := by decide +kernel
  rw [listed] at detached
  refine ⟨listed, (detached _).mp ?_, (detached _).mp ?_, fun leads => ?_, fun leads => ?_, acyclic⟩
  · decide
  · decide
  · exact absurd ((detached _).mpr leads) (by decide)
  · exact absurd ((detached _).mpr leads) (by decide)

end Breaking

end ProblemBoard.Navigation.Tree
