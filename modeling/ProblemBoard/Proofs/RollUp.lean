import ProblemBoard.Proofs.Counting
import ProblemBoard.Proofs.Nesting
import ProblemBoard.Proofs.Repair

/-! # Buckets roll up the tree

Whatever counts for an item also counts for every item above it, and what counts for an item comes from
its own map or through one of the items right below it. Scopes only grow with the maps they start from,
and a trigger that several parts of a scope count is counted once. So in every slot a bucket lies between
the buckets of the items below it and the sum of its parts, on whatever atlas and ledger.
-/

namespace ProblemBoard

open Navigation Relation

namespace Navigation.Tree.Repaired

variable {tree : Tree} {item lower : Item}

/-- What counts for an item counts for every item above it. -/
theorem scopeRoots_subset (repaired : tree.Repaired) (member : item ∈ tree.items)
    (lowerMember : lower ∈ tree.items) (below : TransGen tree.ParentStep lower.id item.id) :
    lower.scopeRoots ⊆ item.scopeRoots := by
  intro root counts
  obtain ⟨nonzero, linked | ⟨lowest, lowestMember, linked, way⟩⟩ :=
    (repaired.mem_scopeRoots lowerMember).mp counts
  · exact (repaired.mem_scopeRoots member).mpr ⟨nonzero, .inr ⟨lower, lowerMember, linked, below⟩⟩
  · exact (repaired.mem_scopeRoots member).mpr
      ⟨nonzero, .inr ⟨lowest, lowestMember, linked, way.trans below⟩⟩

theorem mem_children_of_parentStep (repaired : tree.Repaired) {child : ItemId} {parent : ItemId}
    (step : tree.ParentStep child parent) : ∃ item ∈ tree.children parent, item.id = child := by
  obtain ⟨⟨item, found, named⟩, _⟩ := parentStep_iff.mp step
  have member : item ∈ tree.items := mem_items_iff.mpr ⟨child, found⟩
  exact ⟨item, List.mem_filter.mpr ⟨member, decide_eq_true named⟩, repaired.own child item found⟩

/-- What counts for an item is linked to it, or counts for an item right below it. -/
theorem exists_child_of_mem_scopeRoots (repaired : tree.Repaired) (member : item ∈ tree.items)
    {root : MapId} (counts : root ∈ item.scopeRoots) :
    item.linked = root ∨ ∃ child ∈ tree.children item.id, root ∈ child.scopeRoots := by
  obtain ⟨nonzero, linked | ⟨lowest, lowestMember, linked, way⟩⟩ :=
    (repaired.mem_scopeRoots member).mp counts
  · exact .inl linked
  · right
    -- The last step of the way up comes from the child that leads to the map.
    obtain ⟨key, before, last⟩ := TransGen.tail'_iff.mp way
    obtain ⟨child, placed, rfl⟩ := repaired.mem_children_of_parentStep last
    refine ⟨child, placed, ?_⟩
    have childMember : child ∈ tree.items := (List.mem_filter.mp placed).1
    apply (repaired.mem_scopeRoots childMember).mpr
    refine ⟨nonzero, ?_⟩
    rcases reflTransGen_iff_eq_or_transGen.mp before with same | between
    · left
      have found := repaired.get?_id childMember
      rw [same, repaired.get?_id lowestMember] at found
      rw [← linked, Option.some.inj found]
    · exact .inr ⟨lowest, lowestMember, linked, between⟩

end Navigation.Tree.Repaired

namespace Tally

variable {scope wider own : IdSet .map} {atlas : Atlas} {ledger : Ledger}

/-- On more maps no slot counts less. -/
theorem get_ofScope_le (within : ∀ id ∈ scope, id ∈ wider) (severity : Severity) :
    (ofScope scope atlas ledger).get severity ≤ (ofScope wider atlas ledger).get severity := by
  rw [← ENat.natCast_le_natCast, get_ofScope, get_ofScope]
  refine Set.encard_le_encard ?_
  rintro trigger ⟨id, present, counted⟩
  exact ⟨id, within id present, counted⟩

/-- No slot counts more on two sets of maps together than on each alone. -/
theorem get_ofScope_union_le (severity : Severity) :
    (ofScope (scope ∪ own) atlas ledger).get severity ≤
      (ofScope scope atlas ledger).get severity + (ofScope own atlas ledger).get severity := by
  rw [← ENat.natCast_le_natCast, Nat.cast_add, get_ofScope, get_ofScope, get_ofScope]
  refine le_trans (Set.encard_le_encard ?_) (Set.encard_union_le _ _)
  rintro trigger ⟨id, present, counted⟩
  rcases Std.ExtTreeSet.mem_union_iff.mp present with here | there
  · exact .inl ⟨id, here, counted⟩
  · exact .inr ⟨id, there, counted⟩

/-- A scope covered by parts counts at most what the parts count together. -/
theorem get_ofScope_le_sum (parts : List (IdSet .map))
    (covered : ∀ id ∈ scope, id ∈ own ∨ ∃ part ∈ parts, id ∈ part) (severity : Severity) :
    (ofScope scope atlas ledger).get severity ≤ (ofScope own atlas ledger).get severity +
      (parts.map fun part => (ofScope part atlas ledger).get severity).sum := by
  induction parts generalizing own with
  | nil =>
    have within : ∀ id ∈ scope, id ∈ own := fun id present => by simpa using covered id present
    simpa using get_ofScope_le within severity
  | cons part rest ih =>
    have regrouped : ∀ id ∈ scope, id ∈ own ∪ part ∨ ∃ part ∈ rest, id ∈ part := by
      intro id present
      rw [Std.ExtTreeSet.mem_union_iff, or_assoc]
      simpa using covered id present
    have split : (ofScope (own ∪ part) atlas ledger).get severity ≤
        (ofScope own atlas ledger).get severity + (ofScope part atlas ledger).get severity :=
      get_ofScope_union_le severity
    have bound := ih regrouped
    rw [List.map_cons, List.sum_cons]
    omega

end Tally

/-- The bucket that a table holds for an item, or the empty one. -/
def bucketOf (buckets : Std.ExtTreeMap ItemId Bucket) (item : Item) : Bucket :=
  buckets.getD item.id .empty

theorem bucketOf_ofTree {tree : Tree} (repaired : tree.Repaired) (atlas : Atlas) (ledger : Ledger)
    {item : Item} (member : item ∈ tree.items) :
    bucketOf (Tally.ofTree tree atlas ledger) item = Tally.ofItem atlas ledger item := by
  rw [bucketOf, Std.ExtTreeMap.getD_eq_getD_getElem?,
    Tally.getElem?_ofTree_of_mem repaired.nodup_ids member]
  rfl

/-- In the tree made of a list of items, in every slot the bucket of an item is at least that of each item
below it, and at most what its own map counts and the items right below it count together. -/
theorem ofTree_rollUp (items : List Item) (atlas : Atlas) (ledger : Ledger) {item : Item}
    (member : item ∈ (Tree.ofItems items).items) (severity : Severity) :
    let tree := Tree.ofItems items
    let buckets := Tally.ofTree tree atlas ledger
    item.id ∈ buckets ∧
    (∀ lower ∈ tree.items, TransGen tree.ParentStep lower.id item.id →
      lower.id ∈ buckets ∧
      (bucketOf buckets lower).get severity ≤ (bucketOf buckets item).get severity) ∧
    (bucketOf buckets item).get severity ≤
      (Tally.ofScope (atlas.expandScope [item.linked]) atlas ledger).get severity +
        ((tree.children item.id).map fun child => (bucketOf buckets child).get severity).sum := by
  intro tree buckets
  have repaired : tree.Repaired := Tree.repaired_ofItems items
  have filed {other : Item} (there : other ∈ tree.items) : other.id ∈ buckets :=
    mem_iff_exists_getElem?.mpr ⟨_, Tally.getElem?_ofTree_of_mem repaired.nodup_ids there⟩
  have bucket {other : Item} (there : other ∈ tree.items) :
      bucketOf buckets other = Tally.ofScope (atlas.expandScope other.scopeRoots) atlas ledger :=
    bucketOf_ofTree repaired atlas ledger there
  refine ⟨filed member, fun lower lowerMember below => ⟨filed lowerMember, ?_⟩, ?_⟩
  · rw [bucket lowerMember, bucket member]
    apply Tally.get_ofScope_le
    exact Atlas.expandScope_subset (repaired.scopeRoots_subset member lowerMember below)
  · have parts : ((tree.children item.id).map fun child => (bucketOf buckets child).get severity) =
        ((tree.children item.id).map fun child => atlas.expandScope child.scopeRoots).map fun part =>
          (Tally.ofScope part atlas ledger).get severity := by
      rw [List.map_map]
      refine List.map_congr_left fun child placed => ?_
      rw [bucket (List.mem_filter.mp placed).1]
      rfl
    rw [bucket member, parts]
    refine Tally.get_ofScope_le_sum _ (fun id within => ?_) severity
    obtain ⟨root, counts, nonzero, reached⟩ := Atlas.mem_expandScope.mp within
    rcases repaired.exists_child_of_mem_scopeRoots member counts with rfl | ⟨child, placed, countsBelow⟩
    · exact .inl (Atlas.mem_expandScope.mpr ⟨item.linked, List.mem_singleton_self _, nonzero, reached⟩)
    · exact .inr ⟨_, List.mem_map_of_mem placed,
        Atlas.mem_expandScope.mpr ⟨root, countsBelow, nonzero, reached⟩⟩

/-- A map on top that embeds one of two maps below, which both show the same trigger. -/
def overlapping : Atlas :=
  let maps : List NetworkMap := [
    ⟨⟨1⟩, "", .warning, false, [⟨.map ⟨2⟩, .read⟩, ⟨.triggers [⟨9⟩], .read⟩], [], ∅⟩,
    ⟨⟨2⟩, "", .high, false, [⟨.triggers [⟨7⟩, ⟨8⟩], .read⟩], [], ∅⟩,
    ⟨⟨3⟩, "", .warning, false, [⟨.triggers [⟨7⟩], .readWrite⟩], [], ∅⟩]
  .ofMaps {⟨1⟩, ⟨2⟩, ⟨3⟩} (maps.foldl (fun table map => table.insert map.id map) ∅) ∅

/-- Three triggers with one problem each, one of them acknowledged. -/
def alarmed : Ledger :=
  ([⟨⟨7⟩, .high, false⟩, ⟨⟨8⟩, .high, true⟩, ⟨⟨9⟩, .high, false⟩] : List Problem).foldl .record .empty

/-- An item with a map of its own above two items with a map each. -/
def stacked : List Item := [
  ⟨⟨1⟩, "", .zero, ⟨1⟩, ∅⟩, ⟨⟨2⟩, "", ⟨1⟩, ⟨2⟩, ∅⟩, ⟨⟨3⟩, "", ⟨1⟩, ⟨3⟩, ∅⟩]

/-- The items below count two triggers and one, the item on top counts three, and the parts count six. -/
theorem ofTree_rollUp_stacked :
    ∃ item ∈ (Tree.ofItems stacked).items,
      (bucketOf (Tally.ofTree (Tree.ofItems stacked) overlapping alarmed) item).get .high = 3 ∧
      (∀ lower ∈ (Tree.ofItems stacked).items,
        TransGen (Tree.ofItems stacked).ParentStep lower.id item.id →
        (bucketOf (Tally.ofTree (Tree.ofItems stacked) overlapping alarmed) lower).get .high ≤ 3) ∧
      3 ≤ (Tally.ofScope (overlapping.expandScope [item.linked]) overlapping alarmed).get .high +
        (((Tree.ofItems stacked).children item.id).map fun child =>
          (bucketOf (Tally.ofTree (Tree.ofItems stacked) overlapping alarmed) child).get .high).sum := by
  let top : Item := ⟨⟨1⟩, "", .zero, ⟨1⟩, {⟨3⟩, ⟨2⟩}⟩
  have member : top ∈ (Tree.ofItems stacked).items := by decide +kernel
  obtain ⟨_, above, below⟩ := ofTree_rollUp stacked overlapping alarmed member .high
  have three : (bucketOf (Tally.ofTree (Tree.ofItems stacked) overlapping alarmed) top).get .high = 3 := by
    decide +kernel
  rw [three] at above below
  exact ⟨top, member, three, fun lower there way => (above lower there way).2, below⟩

end ProblemBoard
