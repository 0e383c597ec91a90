import ProblemBoard.Proofs.Independence

/-! # Comparing the counts of two worlds

What a map counts depends on the records and problems of a world and on the least severity that
matters, and on nothing else of the world. With a lower least severity a map counts everything that it
counted before, in the same slots: what comes in is less grave than every problem that was there. An item
counts at most as much in one world as in another if every trigger that is counted on a map in its scope
there is counted on a map in its scope here.
-/

namespace ProblemBoard

open Navigation

namespace World

/-- The worlds differ in nothing but their maps. -/
structure SameRecords (world other : World) : Prop where
  triggers : world.triggers = other.triggers
  problems : world.problems = other.problems

section Lowering

variable {world : World} {least less : Severity} {map : NetworkMap} {trigger : TriggerId}
  {severity : Severity}

theorem Admits.lower {record : Trigger} (admitted : world.Admits least record) (below : less ≤ least) :
    world.Admits less record :=
  ⟨admitted.1, Nat.le_trans below admitted.2.1, admitted.2.2⟩

theorem Live.lower {problem : Problem} (live : world.Live least trigger problem) (below : less ≤ least) :
    world.Live less trigger problem := by
  obtain ⟨⟨record, admitted, named⟩, member, raised, grave⟩ := live
  exact ⟨⟨record, admitted.lower below, named⟩, member, raised, Nat.le_trans below grave⟩

/-- Problems that become live when less severity matters are not the gravest. -/
theorem Gravest.lower (gravest : world.Gravest least trigger severity) (below : less ≤ least) :
    world.Gravest less trigger severity := by
  obtain ⟨⟨problem, live, rfl⟩, bound⟩ := gravest
  refine ⟨⟨problem, live.lower below, rfl⟩, ?_⟩
  rintro _ ⟨other, ⟨_, member, raised, _⟩, rfl⟩
  obtain ⟨eligible, _, _, grave⟩ := live
  by_cases before : least ≤ other.severity
  · exact bound ⟨other, ⟨eligible, member, raised, before⟩, rfl⟩
  · exact Nat.le_trans (Nat.le_of_not_le before) grave

/-- What a map counts it also counts when less severity matters. -/
theorem Counts.lower (counts : world.Counts least map trigger severity) (below : less ≤ least) :
    world.Counts less map trigger severity := by
  obtain ⟨shows, gravest, visible, unacknowledged⟩ := counts
  refine ⟨shows.imp fun _ _ admitted => admitted.lower below, gravest.lower below, visible, fun only => ?_⟩
  obtain ⟨problem, live, pending⟩ := unacknowledged only
  exact ⟨problem, live.lower below, pending⟩

end Lowering

theorem SameRecords.counts_eq {world other : World} (same : world.SameRecords other) :
    world.Counts = other.Counts := by
  obtain ⟨_, _, _, _⟩ := world
  obtain ⟨_, _, _, _⟩ := other
  obtain ⟨rfl, rfl⟩ := same
  rfl

end World

/-- What counting the problems of a tree has found out about the world: the atlas charts the maps that the
tree leads to, and the ledger reflects what they refer to. -/
structure Informed (world : World) (tree : Tree) (atlas : Atlas) (ledger : Ledger) : Prop where
  repaired : tree.Repaired
  charts : atlas.Charts world tree
  reflects : ledger.Reflects world (.ofMaps atlas.maps.values)

theorem exists_informed {world : World} {feeds : Feeds (Except FeedFault)} (answered : world.AnsweredBy feeds)
    (items : List Item) :
    ∃ atlas ledger, countProblems feeds (Tree.ofItems items) =
        .ok ⟨Tally.ofTree (Tree.ofItems items) atlas ledger, atlas.accessible⟩ ∧
      Informed world (Tree.ofItems items) atlas ledger := by
  have repaired := Tree.repaired_ofItems items
  obtain ⟨atlas, ledger, counted, charts, reflects⟩ := countProblems_ok answered repaired
  exact ⟨atlas, ledger, counted, repaired, charts, reflects⟩

namespace Informed

variable {world other : World} {tree otherTree : Tree} {atlas otherAtlas : Atlas}
  {ledger otherLedger : Ledger} {item otherItem : Item} {least otherLeast : Severity}

theorem exists_leastFloor (informed : Informed world tree atlas ledger) :
    ∃ least, world.LeastFloor tree least :=
  ⟨_, informed.charts.leastFloor⟩

theorem getElem?_ofTree (informed : Informed world tree atlas ledger) (member : item ∈ tree.items) :
    (Tally.ofTree tree atlas ledger)[item.id]? = some (Tally.ofItem atlas ledger item) :=
  Tally.getElem?_ofTree_of_mem informed.repaired.nodup_ids member

theorem get_ofItem (informed : Informed world tree atlas ledger) (floor : world.LeastFloor tree least)
    (member : item ∈ tree.items) (severity : Severity) :
    ((Tally.ofItem atlas ledger item).get severity : ENat) = Set.encard {trigger | ∃ map,
      world.InScope tree item map ∧ world.Counts least map trigger severity} := by
  obtain rfl := floor.unique informed.charts.leastFloor
  exact ProblemBoard.get_ofItem informed.charts informed.reflects informed.repaired member severity

/-- An item counts at most as much as another if whatever a map in its scope counts is counted by a map in
the scope of the other. -/
theorem get_ofItem_le (informed : Informed world tree atlas ledger) (floor : world.LeastFloor tree least)
    (member : item ∈ tree.items) (otherInformed : Informed other otherTree otherAtlas otherLedger)
    (otherFloor : other.LeastFloor otherTree otherLeast) (otherMember : otherItem ∈ otherTree.items)
    (counted : ∀ map trigger severity, world.InScope tree item map →
      world.Counts least map trigger severity →
      ∃ seen, other.InScope otherTree otherItem seen ∧ other.Counts otherLeast seen trigger severity)
    (severity : Severity) :
    (Tally.ofItem atlas ledger item).get severity ≤
      (Tally.ofItem otherAtlas otherLedger otherItem).get severity := by
  rw [← ENat.natCast_le_natCast, informed.get_ofItem floor member,
    otherInformed.get_ofItem otherFloor otherMember]
  refine Set.encard_le_encard ?_
  rintro trigger ⟨map, within, counts⟩
  exact counted map trigger severity within counts

/-- What counting finds in one world does not depend on how it found out about the world. -/
theorem ofTree_eq (informed : Informed world tree atlas ledger)
    (otherInformed : Informed world tree otherAtlas otherLedger) :
    Tally.ofTree tree atlas ledger = Tally.ofTree tree otherAtlas otherLedger := by
  obtain ⟨least, floor⟩ := informed.exists_leastFloor
  refine Tally.ofTree_congr fun item member => Levels.ext_get fun severity => ENat.natCast_inj.mp ?_
  rw [informed.get_ofItem floor member, otherInformed.get_ofItem floor member]

end Informed

/-- Feeds that answer from one world lead to one count. -/
theorem countProblems_eq_of_answeredBy {world : World} {feeds other : Feeds (Except FeedFault)}
    (answered : world.AnsweredBy feeds) (otherAnswered : world.AnsweredBy other) (items : List Item) :
    countProblems feeds (Tree.ofItems items) = countProblems other (Tree.ofItems items) := by
  obtain ⟨atlas, ledger, counted, informed⟩ := exists_informed answered items
  obtain ⟨otherAtlas, otherLedger, otherCounted, otherInformed⟩ := exists_informed otherAnswered items
  have accessible : atlas.accessible = otherAtlas.accessible :=
    (accessible_eq answered informed.repaired counted).trans
      (accessible_eq otherAnswered informed.repaired otherCounted).symm
  rw [counted, otherCounted, informed.ofTree_eq otherInformed, accessible]

end ProblemBoard
