import ProblemBoard.Proofs.Exactness

/-! # How far items are counted independently of each other

Two trees may count an item differently even when the same maps are linked to it and below it: the
least severity that matters is taken over all maps that a tree leads to, so the map of one item can
bring in records and problems that another item's map would have left out. That is the only way in
which items touch each other. An item's bucket is the same in both trees as long as no record of a
trigger in its scope lies between their least severities, and no unacknowledged problem on a map that
shows nothing else.
-/

namespace ProblemBoard

open Navigation

namespace World

variable {world : World} {least other : Severity} {map : NetworkMap} {trigger : TriggerId}

/-- It makes no difference to a map which of two severities is the least that matters: the records of
the triggers that it can show lie on the same side of both, and so do their unacknowledged problems
if the map shows only those. -/
structure Indifferent (world : World) (least other : Severity) (map : NetworkMap) : Prop where
  records : ∀ record, world.Admits .notClassified record → world.Shows .notClassified map record.id →
    (least ≤ record.severity ↔ other ≤ record.severity)
  problems : map.unacknowledgedOnly = true → ∀ problem ∈ world.problems, problem.acknowledged = false →
    world.Shows .notClassified map problem.trigger → (least ≤ problem.severity ↔ other ≤ problem.severity)

theorem Indifferent.symm (indifferent : world.Indifferent least other map) :
    world.Indifferent other least map where
  records record admitted shows := (indifferent.records record admitted shows).symm
  problems only problem member open_still shows :=
    (indifferent.problems only problem member open_still shows).symm

theorem Admits.weaken {record : Trigger} (admitted : world.Admits least record) :
    world.Admits .notClassified record :=
  ⟨admitted.1, Nat.zero_le _, admitted.2.2⟩

/-- A target stands for whatever it stood for if the trigger's records are still admitted. -/
theorem StandsFor.imp {target : Target} (stands : world.StandsFor least target trigger)
    (admits : ∀ record, record.id = trigger → world.Admits least record → world.Admits other record) :
    world.StandsFor other target trigger := by
  cases target with
  | group id =>
    obtain ⟨record, admitted, same, within⟩ := stands
    exact ⟨record, admits record same admitted, same, within⟩
  | host id =>
    obtain ⟨record, admitted, same, within⟩ := stands
    exact ⟨record, admits record same admitted, same, within⟩
  | triggers ids => exact stands
  | map id => exact stands

theorem Shows.imp (shows : world.Shows least map trigger)
    (admits : ∀ record, record.id = trigger → world.Admits least record → world.Admits other record) :
    world.Shows other map trigger := by
  rcases shows with ⟨element, placed, readable, stands⟩ | link
  · exact .inl ⟨element, placed, readable, stands.imp admits⟩
  · exact .inr link

theorem Shows.weaken (shows : world.Shows least map trigger) : world.Shows .notClassified map trigger :=
  shows.imp fun _ _ admitted => admitted.weaken

namespace Indifferent

theorem admits (indifferent : world.Indifferent least other map) {record : Trigger}
    (shows : world.Shows .notClassified map record.id) (admitted : world.Admits least record) :
    world.Admits other record :=
  ⟨admitted.1, (indifferent.records record admitted.weaken shows).mp admitted.2.1, admitted.2.2⟩

theorem shows (indifferent : world.Indifferent least other map) (shows : world.Shows least map trigger) :
    world.Shows other map trigger := by
  refine shows.imp fun record same admitted => indifferent.admits ?_ admitted
  exact same ▸ shows.weaken

/-- A live problem stays live if it is grave enough. -/
theorem live (indifferent : world.Indifferent least other map)
    (shows : world.Shows .notClassified map trigger) {problem : Problem}
    (live : world.Live least trigger problem) (grave : other ≤ problem.severity) :
    world.Live other trigger problem := by
  obtain ⟨⟨record, admitted, rfl⟩, member, raised, _⟩ := live
  exact ⟨⟨record, indifferent.admits shows admitted, rfl⟩, member, raised, grave⟩

/-- What a map counts above both severities is the same for both. -/
theorem counts (indifferent : world.Indifferent least other map) (bound : least ≤ map.severityFloor)
    (otherBound : other ≤ map.severityFloor) {severity : Severity}
    (counts : world.Counts least map trigger severity) : world.Counts other map trigger severity := by
  obtain ⟨shows, ⟨⟨problem, live, rfl⟩, gravest⟩, visible, unacknowledged⟩ := counts
  have weak := shows.weaken
  refine ⟨indifferent.shows shows, ⟨⟨problem, ?_, rfl⟩, ?_⟩, visible, fun only => ?_⟩
  · exact indifferent.live weak live (Nat.le_trans otherBound visible)
  · rintro _ ⟨graver, alive, rfl⟩
    by_cases grave : least ≤ graver.severity
    · exact gravest ⟨graver, indifferent.symm.live weak alive grave, rfl⟩
    · have below : graver.severity ≤ least := Nat.le_of_not_le grave
      exact Nat.le_trans below (Nat.le_trans bound visible)
  · obtain ⟨pending, alive, open_still⟩ := unacknowledged only
    refine ⟨pending, indifferent.live weak alive ?_, open_still⟩
    obtain ⟨_, member, raised, grave⟩ := alive
    exact (indifferent.problems only pending member open_still (raised ▸ weak)).mp grave

end Indifferent

theorem LeastFloor.le {tree : Tree} (floor : world.LeastFloor tree least) (known : world.Known tree map) :
    least ≤ map.severityFloor := by
  rcases floor with lowest | ⟨nothing, _⟩
  · exact lowest.2 ⟨map, known, rfl⟩
  · exact absurd known (nothing map)

theorem LeastFloor.unique {tree : Tree} (floor : world.LeastFloor tree least)
    (also : world.LeastFloor tree other) : least = other := by
  rcases floor with lowest | ⟨nothing, rfl⟩ <;> rcases also with alsoLowest | ⟨alsoNothing, rfl⟩
  · exact Std.IsPartialOrder.le_antisymm _ _ (lowest.2 alsoLowest.1) (alsoLowest.2 lowest.1)
  · obtain ⟨map, known, _⟩ := lowest.1
    exact absurd known (alsoNothing map)
  · obtain ⟨map, known, _⟩ := alsoLowest.1
    exact absurd known (nothing map)
  · rfl

end World

/-- An item is counted alike in two trees that link the same maps to it and below it, if the least
severities of the trees make no difference to the maps in its scope. -/
theorem countProblems_independent (world : World) {feeds : Feeds (Except FeedFault)}
    (answered : world.AnsweredBy feeds) {items others : List Item} {item other : Item}
    (member : item ∈ (Tree.ofItems items).items) (otherMember : other ∈ (Tree.ofItems others).items)
    (linked : item.linked = other.linked) (childMaps : item.childMaps = other.childMaps)
    {least otherLeast : Severity} (floor : world.LeastFloor (Tree.ofItems items) least)
    (otherFloor : world.LeastFloor (Tree.ofItems others) otherLeast)
    (indifferent : ∀ map, world.InScope (Tree.ofItems items) item map →
      world.Indifferent least otherLeast map) :
    ∃ tally otherTally bucket,
      countProblems feeds (Tree.ofItems items) = .ok tally ∧
      countProblems feeds (Tree.ofItems others) = .ok otherTally ∧
      tally.buckets[item.id]? = some bucket ∧ otherTally.buckets[other.id]? = some bucket := by
  have repaired := Tree.repaired_ofItems items
  have otherRepaired := Tree.repaired_ofItems others
  obtain ⟨atlas, ledger, counted, charts, reflects⟩ := countProblems_ok answered repaired
  obtain ⟨otherAtlas, otherLedger, otherCounted, otherCharts, otherReflects⟩ :=
    countProblems_ok answered otherRepaired
  obtain rfl := floor.unique charts.leastFloor
  obtain rfl := otherFloor.unique otherCharts.leastFloor
  have scope (map : NetworkMap) :
      world.InScope (Tree.ofItems items) item map ↔ world.InScope (Tree.ofItems others) other map := by
    rw [World.inScope_iff repaired member, World.inScope_iff otherRepaired otherMember, Item.scopeRoots,
      Item.scopeRoots, linked, childMaps]
  have same : Tally.ofItem atlas ledger item = Tally.ofItem otherAtlas otherLedger other := by
    refine Levels.ext_get fun severity => ENat.natCast_inj.mp ?_
    rw [get_ofItem charts reflects repaired member,
      get_ofItem otherCharts otherReflects otherRepaired otherMember]
    congr 1
    ext trigger
    refine exists_congr fun map => ?_
    constructor
    · rintro ⟨within, counts⟩
      have bound := floor.le (within.known member)
      have otherBound := otherFloor.le (((scope map).mp within).known otherMember)
      exact ⟨(scope map).mp within, (indifferent map within).counts bound otherBound counts⟩
    · rintro ⟨within, counts⟩
      have bound := floor.le (((scope map).mpr within).known member)
      have otherBound := otherFloor.le (within.known otherMember)
      exact ⟨(scope map).mpr within,
        (indifferent map ((scope map).mpr within)).symm.counts otherBound bound counts⟩
  refine ⟨_, _, Tally.ofItem atlas ledger item, counted, otherCounted, ?_, ?_⟩
  · exact (Tally.getElem?_ofTree repaired.nodup_ids).mpr ⟨item, member, rfl, rfl⟩
  · exact (Tally.getElem?_ofTree otherRepaired.nodup_ids).mpr ⟨other, otherMember, rfl, same.symm⟩

/-- The least severity can be read off the maps that are discovered. -/
theorem leastFloor_of_discover {world : World} {feeds : Feeds (Except FeedFault)}
    (answered : world.AnsweredBy feeds) (items : List Item) {least : Severity}
    (read : (Atlas.discover feeds.maps (Tree.ofItems items).referencedMaps).toOption.map
      (fun atlas => (References.ofMaps atlas.maps.values).minSeverity) = some least) :
    world.LeastFloor (Tree.ofItems items) least := by
  obtain ⟨atlas, discovered, charts⟩ := exists_charts answered (Tree.repaired_ofItems items)
  rw [discovered] at read
  exact Option.some.inj read ▸ charts.leastFloor

/-- One map counts from average upward and shows a trigger with a disaster to report; another map
counts everything and shows nothing. The trigger itself has the given severity. -/
def uneven (severity : Severity) : World where
  maps := [
    ⟨⟨1⟩, "", .average, false, [⟨.triggers [⟨1⟩], .read⟩], [], ∅⟩,
    ⟨⟨2⟩, "", .notClassified, false, [], [], ∅⟩]
  triggers := [⟨⟨1⟩, severity, ∅, ∅, false⟩]
  problems := [⟨⟨1⟩, .disaster, false⟩]
  distinct := by decide

/-- The item that shows the one map of `uneven`. -/
def strictItem : Item := ⟨⟨1⟩, "", .zero, ⟨1⟩, ∅⟩

/-- The item that shows the other map of `uneven`. -/
def laxItem : Item := ⟨⟨2⟩, "", .zero, ⟨2⟩, ∅⟩

/-- With a severe trigger, the second item makes no difference to the first. -/
theorem countProblems_independent_uneven :
    (uneven .high).LeastFloor (Tree.ofItems [strictItem]) .average ∧
      (uneven .high).LeastFloor (Tree.ofItems [strictItem, laxItem]) .notClassified ∧
      (∀ map, (uneven .high).InScope (Tree.ofItems [strictItem]) strictItem map →
        (uneven .high).Indifferent .average .notClassified map) ∧
      ∃ tally otherTally bucket,
        countProblems (uneven .high).feeds (Tree.ofItems [strictItem]) = .ok tally ∧
        countProblems (uneven .high).feeds (Tree.ofItems [strictItem, laxItem]) = .ok otherTally ∧
        tally.buckets[strictItem.id]? = some bucket ∧ otherTally.buckets[strictItem.id]? = some bucket ∧
        bucket.toList.map Prod.snd = [0, 0, 0, 0, 0, 1] := by
  have answered := (uneven .high).answeredBy_feeds
  have member : strictItem ∈ (Tree.ofItems [strictItem]).items := by decide +kernel
  have otherMember : strictItem ∈ (Tree.ofItems [strictItem, laxItem]).items := by decide +kernel
  have floor : (uneven .high).LeastFloor (Tree.ofItems [strictItem]) .average :=
    leastFloor_of_discover answered _ (by decide +kernel)
  have otherFloor : (uneven .high).LeastFloor (Tree.ofItems [strictItem, laxItem]) .notClassified :=
    leastFloor_of_discover answered _ (by decide +kernel)
  have indifferent (map : NetworkMap)
      (_ : (uneven .high).InScope (Tree.ofItems [strictItem]) strictItem map) :
      (uneven .high).Indifferent .average .notClassified map := by
    constructor
    case records =>
      intro record admitted _
      obtain rfl := List.mem_singleton.mp admitted.1
      decide
    case problems =>
      intro _ problem member _ _
      obtain rfl := List.mem_singleton.mp member
      decide
  obtain ⟨tally, otherTally, bucket, counted, otherCounted, found, otherFound⟩ :=
    countProblems_independent (uneven .high) answered member otherMember rfl rfl floor otherFloor
      indifferent
  have shown : (countProblems (uneven .high).feeds (Tree.ofItems [strictItem])).toOption.map
      (fun tally => tally.buckets[strictItem.id]?.map fun bucket => bucket.toList.map Prod.snd) =
        some (some [0, 0, 0, 0, 0, 1]) := by
    decide +kernel
  rw [counted] at shown
  simp only [Except.toOption, Option.map_some, found, Option.some.injEq] at shown
  exact ⟨floor, otherFloor, indifferent, tally, otherTally, bucket, counted, otherCounted, found, otherFound,
    shown⟩

/-- In general items are not counted independently: the record of a slight trigger is known only once
another item brings in a map that counts everything. -/
theorem countProblems_not_independent :
    ¬ ∀ (world : World) (feeds : Feeds (Except FeedFault)), world.AnsweredBy feeds →
      ∀ (items others : List Item), ∀ item ∈ (Tree.ofItems items).items,
        ∀ other ∈ (Tree.ofItems others).items, item.id = other.id → item.linked = other.linked →
          item.childMaps = other.childMaps → ∀ tally otherTally,
            countProblems feeds (Tree.ofItems items) = .ok tally →
            countProblems feeds (Tree.ofItems others) = .ok otherTally →
            tally.buckets[item.id]? = otherTally.buckets[other.id]? := by
  intro independent
  have answered := (uneven .warning).answeredBy_feeds
  obtain ⟨atlas, ledger, counted, _⟩ := countProblems_ok answered (Tree.repaired_ofItems [strictItem])
  obtain ⟨otherAtlas, otherLedger, otherCounted, _⟩ :=
    countProblems_ok answered (Tree.repaired_ofItems [strictItem, laxItem])
  have member : strictItem ∈ (Tree.ofItems [strictItem]).items := by decide +kernel
  have otherMember : strictItem ∈ (Tree.ofItems [strictItem, laxItem]).items := by decide +kernel
  have same := independent (uneven .warning) _ answered [strictItem] [strictItem, laxItem] strictItem
    member strictItem otherMember rfl rfl rfl _ _ counted otherCounted
  have differ : (countProblems (uneven .warning).feeds (Tree.ofItems [strictItem])).toOption.map
      (·.buckets[strictItem.id]?) ≠
        (countProblems (uneven .warning).feeds (Tree.ofItems [strictItem, laxItem])).toOption.map
          (·.buckets[strictItem.id]?) := by
    decide +kernel
  rw [counted, otherCounted] at differ
  exact differ (congrArg some same)

end ProblemBoard
