import ProblemBoard.Proofs.Comparison

/-! # How far hidden maps stay without influence

A map that a tree leads to only through elements that may not be read is fetched all the same, and its
floor takes part in the least severity that matters. That is the only way in which it can be noticed. Two
worlds that differ in such maps alone have the same accessible maps and the same scopes; an item's bucket is
the same as long as nothing in its scope lies between the two least severities, and otherwise the world with
the lower one counts at least as much.
-/

namespace ProblemBoard

open Navigation Relation

namespace World

/-- Readable embeddings lead to the identifier from a map that is linked to some item. -/
def Readable (world : World) (tree : Tree) (id : MapId) : Prop :=
  Reached (EmbedsReadably world.maps) {id | id ≠ .zero ∧ ∃ item ∈ tree.items, item.linked = id} id

/-- The worlds have the same records and problems, and of the identifiers that can be read from the tree the
same name maps, with the same content. -/
structure AgreesOn (world other : World) (tree : Tree) : Prop extends SameRecords world other where
  maps : ∀ map : NetworkMap, world.Readable tree map.id → (map ∈ world.maps ↔ map ∈ other.maps)

namespace AgreesOn

variable {world other : World} {tree : Tree} {item : Item} {map : NetworkMap}

/-- From what can be read in one world the same steps lead on in both. -/
theorem embedsReadably_iff (agrees : world.AgreesOn other tree) {outer inner : MapId}
    (readable : world.Readable tree outer) :
    EmbedsReadably world.maps outer inner ↔ EmbedsReadably other.maps outer inner := by
  refine and_congr_right fun _ => exists_congr fun map => ?_
  constructor
  · rintro ⟨member, rfl, embedded⟩
    exact ⟨(agrees.maps map readable).mp member, rfl, embedded⟩
  · rintro ⟨member, rfl, embedded⟩
    exact ⟨(agrees.maps map readable).mpr member, rfl, embedded⟩

theorem reflTransGen_iff (agrees : world.AgreesOn other tree) {root id : MapId} (nonzero : root ≠ .zero)
    (linked : ∃ item ∈ tree.items, item.linked = root) :
    ReflTransGen (EmbedsReadably world.maps) root id ↔ ReflTransGen (EmbedsReadably other.maps) root id := by
  constructor
  · intro way
    induction way with
    | refl => exact .refl
    | tail before step ih =>
      exact ih.tail ((agrees.embedsReadably_iff ⟨root, ⟨nonzero, linked⟩, before⟩).mp step)
  · intro way
    induction way with
    | refl => exact .refl
    | tail _ step ih =>
      exact ih.tail ((agrees.embedsReadably_iff ⟨root, ⟨nonzero, linked⟩, ih⟩).mpr step)

theorem readable_iff (agrees : world.AgreesOn other tree) {id : MapId} :
    world.Readable tree id ↔ other.Readable tree id :=
  exists_congr fun _ => and_congr_right fun start => agrees.reflTransGen_iff start.1 start.2

/-- Both worlds have the same maps in the scope of an item. -/
theorem inScope_iff (agrees : world.AgreesOn other tree) (member : item ∈ tree.items) :
    world.InScope tree item map ↔ other.InScope tree item map := by
  have linked {root : MapId} (below : item.linked = root ∨
      ∃ lower ∈ tree.items, lower.linked = root ∧ TransGen tree.ParentStep lower.id item.id) :
      ∃ item ∈ tree.items, item.linked = root := by
    rcases below with here | ⟨lower, there, named, _⟩
    · exact ⟨item, member, here⟩
    · exact ⟨lower, there, named⟩
  constructor
  · rintro ⟨present, root, nonzero, below, way⟩
    have readable : world.Readable tree map.id := ⟨root, ⟨nonzero, linked below⟩, way⟩
    exact ⟨(agrees.maps map readable).mp present, root, nonzero, below,
      (agrees.reflTransGen_iff nonzero (linked below)).mp way⟩
  · rintro ⟨present, root, nonzero, below, way⟩
    have back := (agrees.reflTransGen_iff nonzero (linked below)).mpr way
    have readable : world.Readable tree map.id := ⟨root, ⟨nonzero, linked below⟩, back⟩
    exact ⟨(agrees.maps map readable).mpr present, root, nonzero, below, back⟩

theorem symm (agrees : world.AgreesOn other tree) : other.AgreesOn world tree :=
  ⟨⟨agrees.triggers.symm, agrees.problems.symm⟩,
    fun map readable => (agrees.maps map (agrees.readable_iff.mpr readable)).symm⟩

/-- Of the linked maps the same exist. -/
theorem exists_map_iff (agrees : world.AgreesOn other tree) {id : MapId} (linked : id ∈ tree.linkedMaps) :
    (∃ map ∈ world.maps, map.id = id) ↔ ∃ map ∈ other.maps, map.id = id := by
  have readable : world.Readable tree id := ⟨id, Tree.mem_linkedMaps.mp linked, .refl⟩
  constructor
  · rintro ⟨map, present, rfl⟩
    exact ⟨map, (agrees.maps map readable).mp present, rfl⟩
  · rintro ⟨map, present, rfl⟩
    exact ⟨map, (agrees.maps map readable).mpr present, rfl⟩

/-- An item counts at most as much in the other world if what the maps in its scope count with the one least
severity they also count with the other. -/
theorem get_ofItem_le (agrees : world.AgreesOn other tree) {atlas otherAtlas : Atlas}
    {ledger otherLedger : Ledger} {least otherLeast : Severity}
    (informed : Informed world tree atlas ledger) (floor : world.LeastFloor tree least)
    (otherInformed : Informed other tree otherAtlas otherLedger)
    (otherFloor : other.LeastFloor tree otherLeast) (member : item ∈ tree.items)
    (kept : ∀ map trigger severity, world.InScope tree item map →
      world.Counts least map trigger severity → world.Counts otherLeast map trigger severity) :
    ∀ severity, (Tally.ofItem atlas ledger item).get severity ≤
      (Tally.ofItem otherAtlas otherLedger item).get severity := by
  refine informed.get_ofItem_le floor member otherInformed otherFloor member ?_
  intro map trigger severity within counts
  have countsToo := kept map trigger severity within counts
  exact ⟨map, (agrees.inScope_iff member).mp within, agrees.toSameRecords.counts_eq ▸ countsToo⟩

end AgreesOn

end World

/-- In two worlds that agree on what can be read from a tree the same maps are accessible. An item counts at
least as much in the world with the lower least severity, and the same in both if the least severities make
no difference to the maps in its scope. -/
theorem countProblems_of_agreesOn {world other : World} {items : List Item}
    (agrees : world.AgreesOn other (Tree.ofItems items)) {feeds otherFeeds : Feeds (Except FeedFault)}
    (answered : world.AnsweredBy feeds) (otherAnswered : other.AnsweredBy otherFeeds) :
    ∃ tally otherTally least otherLeast,
      countProblems feeds (Tree.ofItems items) = .ok tally ∧
      countProblems otherFeeds (Tree.ofItems items) = .ok otherTally ∧
      world.LeastFloor (Tree.ofItems items) least ∧ other.LeastFloor (Tree.ofItems items) otherLeast ∧
      tally.accessible = otherTally.accessible ∧
      ∀ item ∈ (Tree.ofItems items).items, ∃ bucket otherBucket,
        tally.buckets[item.id]? = some bucket ∧ otherTally.buckets[item.id]? = some otherBucket ∧
        (otherLeast ≤ least → ∀ severity, bucket.get severity ≤ otherBucket.get severity) ∧
        (least ≤ otherLeast → ∀ severity, otherBucket.get severity ≤ bucket.get severity) ∧
        ((∀ map, world.InScope (Tree.ofItems items) item map → world.Indifferent least otherLeast map) →
          bucket = otherBucket) := by
  have repaired := Tree.repaired_ofItems items
  obtain ⟨atlas, ledger, counted, informed⟩ := exists_informed answered items
  obtain ⟨otherAtlas, otherLedger, otherCounted, otherInformed⟩ := exists_informed otherAnswered items
  obtain ⟨least, floor⟩ := informed.exists_leastFloor
  obtain ⟨otherLeast, otherFloor⟩ := otherInformed.exists_leastFloor
  refine ⟨_, _, least, otherLeast, counted, otherCounted, floor, otherFloor, ?accessible, fun item member =>
    ⟨_, _, informed.getElem?_ofTree member, otherInformed.getElem?_ofTree member,
      fun below => ?upward, fun below => ?downward, fun indifferent => ?same⟩⟩
  case accessible =>
    rw [accessible_eq answered repaired counted, accessible_eq otherAnswered repaired otherCounted]
    refine List.filter_congr fun id linked => ?_
    rw [decide_eq_decide, agrees.exists_map_iff (Std.ExtTreeSet.mem_toList.mp linked)]
  case upward =>
    exact agrees.get_ofItem_le informed floor otherInformed otherFloor member
      fun map trigger severity _ counts => counts.lower below
  case downward =>
    exact agrees.symm.get_ofItem_le otherInformed otherFloor informed floor member
      fun map trigger severity _ counts => counts.lower below
  case same =>
    have bounds {map : NetworkMap} (within : world.InScope (Tree.ofItems items) item map) :
        least ≤ map.severityFloor ∧ otherLeast ≤ map.severityFloor :=
      ⟨floor.le (within.known member), otherFloor.le (((agrees.inScope_iff member).mp within).known member)⟩
    refine Levels.ext_get fun severity => Nat.le_antisymm ?there ?back
    case there =>
      refine agrees.get_ofItem_le informed floor otherInformed otherFloor member ?_ severity
      intro map trigger severity within counts
      exact (indifferent map within).counts (bounds within).1 (bounds within).2 counts
    case back =>
      refine agrees.symm.get_ofItem_le otherInformed otherFloor informed floor member ?_ severity
      intro map trigger severity within counts
      have here := (agrees.inScope_iff member).mpr within
      rw [← agrees.toSameRecords.counts_eq] at counts ⊢
      exact (indifferent map here).symm.counts (bounds here).2 (bounds here).1 counts

section Fence

variable {severity : Severity} {hidden : Option Severity}

/-- A map that counts from average upward, shows a trigger and may not show another map. -/
def fence : NetworkMap := ⟨⟨1⟩, "", .average, false, [⟨.triggers [⟨1⟩], .read⟩, ⟨.map ⟨2⟩, .deny⟩], [], ∅⟩

/-- The map that may not be shown has the given floor, if it exists, and shows nothing. The trigger has the
given severity and a disaster to report. -/
def fenced (severity : Severity) (hidden : Option Severity) : World where
  maps := fence :: hidden.toList.map fun floor => ⟨⟨2⟩, "", floor, false, [], [], ∅⟩
  triggers := [⟨⟨1⟩, severity, ∅, ∅, false⟩]
  problems := [⟨⟨1⟩, .disaster, false⟩]
  distinct := by cases hidden <;> simp [fence]

theorem mem_maps_fenced {map : NetworkMap} (named : map.id = ⟨1⟩) :
    map ∈ (fenced severity hidden).maps ↔ map = fence := by
  refine ⟨fun member => ?_, fun same => same ▸ List.mem_cons_self ..⟩
  rcases List.mem_cons.mp member with same | behind
  · exact same
  · obtain ⟨floor, _, rfl⟩ := List.mem_map.mp behind
    cases named

/-- Nothing but the map in front can be read. -/
theorem eq_of_readable_fenced {id : MapId}
    (readable : (fenced severity hidden).Readable (Tree.ofItems [strictItem]) id) : id = ⟨1⟩ := by
  obtain ⟨root, ⟨_, item, member, linked⟩, way⟩ := readable
  have items : (Tree.ofItems [strictItem]).items = [strictItem] := by decide +kernel
  rw [items, List.mem_singleton] at member
  subst member
  induction way with
  | refl => exact linked.symm
  | tail _ step _ =>
    obtain ⟨_, map, present, _, embedded⟩ := step
    rcases List.mem_cons.mp present with rfl | behind
    · have nothing : fence.readableEmbedded = [] := by decide
      exact absurd (nothing ▸ embedded) List.not_mem_nil
    · obtain ⟨floor, _, rfl⟩ := List.mem_map.mp behind
      exact absurd embedded List.not_mem_nil

theorem agreesOn_fenced (severity : Severity) (hidden other : Option Severity) :
    (fenced severity hidden).AgreesOn (fenced severity other) (Tree.ofItems [strictItem]) := by
  refine ⟨⟨rfl, rfl⟩, fun map readable => ?_⟩
  rw [mem_maps_fenced (eq_of_readable_fenced readable), mem_maps_fenced (eq_of_readable_fenced readable)]

end Fence

/-- A severe trigger is counted whether the hidden map exists or not. -/
theorem countProblems_of_agreesOn_fenced :
    (fenced .high none).AgreesOn (fenced .high (some .notClassified)) (Tree.ofItems [strictItem]) ∧
      (∀ map, (fenced .high none).InScope (Tree.ofItems [strictItem]) strictItem map →
        (fenced .high none).Indifferent .average .notClassified map) ∧
      ∃ tally otherTally bucket,
        countProblems (fenced .high none).feeds (Tree.ofItems [strictItem]) = .ok tally ∧
        countProblems (fenced .high (some .notClassified)).feeds (Tree.ofItems [strictItem]) = .ok otherTally ∧
        tally.accessible = otherTally.accessible ∧
        tally.buckets[strictItem.id]? = some bucket ∧ otherTally.buckets[strictItem.id]? = some bucket ∧
        bucket.toList.map Prod.snd = [0, 0, 0, 0, 0, 1] := by
  let without := fenced .high none
  let beside := fenced .high (some .notClassified)
  have indifferent (map : NetworkMap) (_ : without.InScope (Tree.ofItems [strictItem]) strictItem map) :
      without.Indifferent .average .notClassified map := by
    constructor
    case records =>
      intro record admitted _
      obtain rfl := List.mem_singleton.mp admitted.1
      decide
    case problems =>
      intro _ problem member _ _
      obtain rfl := List.mem_singleton.mp member
      decide
  have floor : without.LeastFloor (Tree.ofItems [strictItem]) .average :=
    leastFloor_of_discover without.answeredBy_feeds _ (by decide +kernel)
  have otherFloor : beside.LeastFloor (Tree.ofItems [strictItem]) .notClassified :=
    leastFloor_of_discover beside.answeredBy_feeds _ (by decide +kernel)
  have member : strictItem ∈ (Tree.ofItems [strictItem]).items := by decide +kernel
  obtain ⟨tally, otherTally, least, otherLeast, counted, otherCounted, isLeast, isOtherLeast, accessible,
    compared⟩ := countProblems_of_agreesOn (agreesOn_fenced .high none (some .notClassified))
      without.answeredBy_feeds beside.answeredBy_feeds
  obtain rfl := isLeast.unique floor
  obtain rfl := isOtherLeast.unique otherFloor
  obtain ⟨bucket, otherBucket, found, otherFound, _, _, same⟩ := compared strictItem member
  obtain rfl := same indifferent
  have shown : (countProblems without.feeds (Tree.ofItems [strictItem])).toOption.map
      (fun tally => tally.buckets[strictItem.id]?.map fun bucket => bucket.toList.map Prod.snd) =
        some (some [0, 0, 0, 0, 0, 1]) := by
    decide +kernel
  rw [counted] at shown
  simp only [Except.toOption, Option.map_some, found, Option.some.injEq] at shown
  exact ⟨agreesOn_fenced .high none (some .notClassified), indifferent, tally, otherTally, bucket, counted,
    otherCounted, accessible, found, otherFound, shown⟩

/-- In general a hidden map is noticed: the record of a slight trigger is known only once a map behind the
fence counts everything. -/
theorem countProblems_notices_hidden :
    ¬ ∀ (world other : World) (items : List Item), world.AgreesOn other (Tree.ofItems items) →
      ∀ feeds otherFeeds : Feeds (Except FeedFault), world.AnsweredBy feeds → other.AnsweredBy otherFeeds →
        ∀ tally otherTally,
          countProblems feeds (Tree.ofItems items) = .ok tally →
          countProblems otherFeeds (Tree.ofItems items) = .ok otherTally →
          tally.buckets = otherTally.buckets ∧ tally.accessible = otherTally.accessible := by
  intro unnoticed
  let without := fenced .warning none
  let beside := fenced .warning (some .notClassified)
  obtain ⟨_, _, counted, _⟩ := exists_informed without.answeredBy_feeds [strictItem]
  obtain ⟨_, _, otherCounted, _⟩ := exists_informed beside.answeredBy_feeds [strictItem]
  obtain ⟨same, _⟩ := unnoticed without beside [strictItem]
    (agreesOn_fenced .warning none (some .notClassified)) _ _ without.answeredBy_feeds
    beside.answeredBy_feeds _ _ counted otherCounted
  have differ : (countProblems without.feeds (Tree.ofItems [strictItem])).toOption.map
      (·.buckets[strictItem.id]?) ≠
        (countProblems beside.feeds (Tree.ofItems [strictItem])).toOption.map
          (·.buckets[strictItem.id]?) := by
    decide +kernel
  rw [counted, otherCounted] at differ
  have atItem := congrArg (fun buckets : Std.ExtTreeMap ItemId Bucket => buckets[strictItem.id]?) same
  exact differ (congrArg some atItem)

end ProblemBoard
