import ProblemBoard.Proofs.Counting
import ProblemBoard.Proofs.Gathering

/-! # The counts of a board are exact

On feeds that answer from a world, counting the problems of a tree succeeds, and each slot of each
item's bucket is the number of triggers that the world says it should be. The atlas charts the maps
that the tree leads to, the ledger reflects what the world holds for them, and on such an atlas and
such a ledger the maps in an item's scope count what they should.
-/

namespace ProblemBoard

open Navigation Relation

namespace References

variable {maps : List NetworkMap}

theorem exists_target_iff {holds : Target → Prop} :
    (∃ target ∈ (maps.flatMap NetworkMap.elements).map Element.target, holds target) ↔
      ∃ map ∈ maps, ∃ element ∈ map.elements, holds element.target := by
  simp only [List.mem_map, List.mem_flatMap]
  constructor
  · rintro ⟨_, ⟨element, ⟨map, member, placed⟩, rfl⟩, held⟩
    exact ⟨map, member, element, placed, held⟩
  · rintro ⟨map, member, element, placed, held⟩
    exact ⟨_, ⟨element, ⟨map, member, placed⟩, rfl⟩, held⟩

theorem mem_groups {group : GroupId} : group ∈ (ofMaps maps).groups ↔
    ∃ map ∈ maps, ∃ element ∈ map.elements, element.target = .group group := by
  simp only [ofMaps, Std.ExtTreeSet.mem_ofList, List.contains_iff_mem, List.mem_filterMap]
  rw [exists_target_iff]
  refine exists_congr fun map => and_congr_right fun _ => exists_congr fun element =>
    and_congr_right fun _ => ?_
  cases element.target <;> simp

theorem mem_hosts {host : HostId} : host ∈ (ofMaps maps).hosts ↔
    ∃ map ∈ maps, ∃ element ∈ map.elements, element.target = .host host := by
  simp only [ofMaps, Std.ExtTreeSet.mem_ofList, List.contains_iff_mem, List.mem_filterMap]
  rw [exists_target_iff]
  refine exists_congr fun map => and_congr_right fun _ => exists_congr fun element =>
    and_congr_right fun _ => ?_
  cases element.target <;> simp

theorem mem_triggers {trigger : TriggerId} : trigger ∈ (ofMaps maps).triggers ↔
    (∃ map ∈ maps, ∃ link ∈ map.links, trigger ∈ link.triggers) ∨
      ∃ map ∈ maps, ∃ element ∈ map.elements, ∃ ids, element.target = .triggers ids ∧ trigger ∈ ids := by
  simp only [ofMaps, Std.ExtTreeSet.mem_ofList, List.contains_iff_mem, List.mem_append]
  refine or_congr ?links ?elements
  case links =>
    simp only [List.mem_flatMap]
    constructor
    · rintro ⟨link, ⟨map, member, placed⟩, named⟩
      exact ⟨map, member, link, placed, named⟩
    · rintro ⟨map, member, link, placed, named⟩
      exact ⟨link, ⟨map, member, placed⟩, named⟩
  case elements =>
    rw [List.mem_flatMap, exists_target_iff]
    refine exists_congr fun map => and_congr_right fun _ => exists_congr fun element =>
      and_congr_right fun _ => ?_
    cases element.target <;> simp

/-- The lowest severity is the least floor, if there is any map. -/
theorem minSeverity_spec (maps : List NetworkMap) :
    IsLeast {floor | ∃ map ∈ maps, map.severityFloor = floor} (ofMaps maps).minSeverity ∨
      maps = [] ∧ (ofMaps maps).minSeverity = .notClassified := by
  cases least : (maps.map NetworkMap.severityFloor).min? with
  | none =>
    rw [List.min?_eq_none_iff, List.map_eq_nil_iff] at least
    subst least
    exact .inr ⟨rfl, rfl⟩
  | some floor =>
    left
    have same : (ofMaps maps).minSeverity = floor := by simp [ofMaps, least]
    rw [List.min?_eq_some_iff, List.mem_map] at least
    rw [same]
    refine ⟨least.1, ?_⟩
    rintro other ⟨map, member, rfl⟩
    exact least.2 _ (List.mem_map_of_mem member)

end References

section Charts

variable {world : World} {tree : Tree} {atlas : Atlas}

/-- The atlas holds the maps that the tree leads to, with what is nested in them. -/
structure Atlas.Charts (atlas : Atlas) (world : World) (tree : Tree) : Prop where
  known : ∀ (id : MapId) (map : NetworkMap), atlas.maps[id]? = some map →
    ∃ original, world.Known tree original ∧ original.id = id ∧
      map = { original with submaps := map.submaps }
  filed : ∀ map, world.Known tree map →
    ∃ submaps, atlas.maps[map.id]? = some { map with submaps := submaps }
  nested : ∀ (id : MapId) (map : NetworkMap), atlas.maps[id]? = some map → ∀ inner,
    inner ∈ map.submaps ↔ TransGen (EmbedsReadably world.maps) id inner

theorem nonzero_referencedMaps (repaired : tree.Repaired) :
    nonzero tree.referencedMaps = {id | id ≠ .zero ∧ ∃ item ∈ tree.items, item.linked = id} := by
  ext id
  rw [nonzero, Set.mem_ofPred_eq, repaired.mem_referencedMaps, Set.mem_ofPred_eq]
  exact and_iff_left_of_imp And.left

theorem exists_charts {feeds : Feeds (Except FeedFault)} (answered : world.AnsweredBy feeds)
    (repaired : tree.Repaired) :
    ∃ atlas, Atlas.discover feeds.maps tree.referencedMaps = .ok atlas ∧ atlas.Charts world tree := by
  obtain ⟨atlas, batches, success, discovered⟩ :=
    Atlas.exists_discovered world.distinct answered.maps tree.referencedMaps
  rw [nonzero_referencedMaps repaired] at discovered
  refine ⟨atlas, success, ?_, ?_, discovered.nested⟩
  · intro id map found
    obtain ⟨original, member, named, same⟩ := discovered.kept id map found
    have reached := ((discovered.filed id).mp (mem_iff_exists_getElem?.mpr ⟨map, found⟩)).1
    exact ⟨original, ⟨member, named ▸ reached⟩, named, same⟩
  · rintro map ⟨member, reached⟩
    have present := (discovered.filed map.id).mpr ⟨reached, map, member, rfl⟩
    obtain ⟨found, filed⟩ := mem_iff_exists_getElem?.mp present
    obtain ⟨original, alsoMember, named, same⟩ := discovered.kept map.id found filed
    obtain rfl := Atlas.eq_of_id_eq world.distinct original alsoMember map member named
    exact ⟨found.submaps, same ▸ filed⟩

/-- Readable embeddings lead from known maps to known maps. -/
theorem World.Known.of_reflTransGen {root : MapId} {item : Item} (member : item ∈ tree.items)
    (linked : item.linked = root) (nonzero : root ≠ .zero) {map : NetworkMap} (present : map ∈ world.maps)
    (way : ReflTransGen (EmbedsReadably world.maps) root map.id) : world.Known tree map := by
  refine ⟨present, root, ⟨nonzero, item, member, linked⟩, ?_⟩
  exact ReflTransGen.mono (fun _ _ step => step.embeds) _ _ way

/-- A scope expands to what readable embeddings lead to. -/
theorem Atlas.Charts.mem_expandScope (charts : atlas.Charts world tree) {roots : List MapId}
    (linked : ∀ root ∈ roots, root ≠ .zero → ∃ item ∈ tree.items, item.linked = root) {id : MapId} :
    id ∈ atlas.expandScope roots ↔
      ∃ root ∈ roots, root ≠ .zero ∧ ReflTransGen (EmbedsReadably world.maps) root id := by
  have from_root {root : MapId} (member : root ∈ roots) (nonzero : root ≠ .zero) :
      (id = root ∨ id ∈ atlas.submaps root) ↔ ReflTransGen (EmbedsReadably world.maps) root id := by
    rw [reflTransGen_iff_eq_or_transGen, Atlas.submaps]
    apply or_congr_right
    split
    · next map found => exact charts.nested root map found id
    · next missing =>
      refine ⟨fun nowhere => absurd nowhere Std.ExtTreeSet.not_mem_empty, fun way => ?_⟩
      -- The first step leaves a map named by the root, which would be charted.
      obtain ⟨_, ⟨_, map, present, rfl, _⟩, _⟩ := TransGen.head'_iff.mp way
      obtain ⟨item, below, at_root⟩ := linked _ member nonzero
      obtain ⟨_, found⟩ := charts.filed map (.of_reflTransGen below at_root nonzero present .refl)
      rw [missing] at found
      cases found
  rw [Atlas.mem_expandScope]
  constructor
  · rintro ⟨root, member, nonzero, reached⟩
    exact ⟨root, member, nonzero, (from_root member nonzero).mp reached⟩
  · rintro ⟨root, member, nonzero, way⟩
    exact ⟨root, member, nonzero, (from_root member nonzero).mpr way⟩

theorem World.inScope_iff (repaired : tree.Repaired) {item : Item} (member : item ∈ tree.items)
    {map : NetworkMap} : world.InScope tree item map ↔ map ∈ world.maps ∧
      ∃ root ∈ item.scopeRoots, ReflTransGen (EmbedsReadably world.maps) root map.id := by
  simp only [World.InScope, repaired.mem_scopeRoots member, and_assoc]

theorem World.InScope.known {item : Item} {map : NetworkMap} (member : item ∈ tree.items)
    (within : world.InScope tree item map) : world.Known tree map := by
  obtain ⟨present, root, nonzero, linked | ⟨lower, below, linked, _⟩, way⟩ := within
  · exact .of_reflTransGen member linked nonzero present way
  · exact .of_reflTransGen below linked nonzero present way

/-- The maps that an atlas holds for the scope of an item are those in its scope. -/
theorem Atlas.Charts.exists_scope_iff (charts : atlas.Charts world tree) (repaired : tree.Repaired)
    {item : Item} (member : item ∈ tree.items) {holds : NetworkMap → Prop}
    (same : ∀ map submaps, holds { map with submaps := submaps } ↔ holds map) :
    (∃ id ∈ atlas.expandScope item.scopeRoots, ∃ map, atlas.maps[id]? = some map ∧ holds map) ↔
      ∃ map, world.InScope tree item map ∧ holds map := by
  have linked (root : MapId) (counts : root ∈ item.scopeRoots) (_ : root ≠ .zero) :
      ∃ item ∈ tree.items, item.linked = root := by
    rcases ((repaired.mem_scopeRoots member).mp counts).2 with linked | ⟨lower, below, linked, _⟩
    · exact ⟨item, member, linked⟩
    · exact ⟨lower, below, linked⟩
  simp only [charts.mem_expandScope linked, World.inScope_iff repaired member]
  constructor
  · rintro ⟨_, ⟨root, counts, _, way⟩, map, found, held⟩
    obtain ⟨original, known, rfl, original_eq⟩ := charts.known _ map found
    exact ⟨original, ⟨known.1, root, counts, way⟩, (same original map.submaps).mp (original_eq ▸ held)⟩
  · rintro ⟨map, ⟨present, root, counts, way⟩, held⟩
    have nonzero := ((repaired.mem_scopeRoots member).mp counts).1
    have known := World.InScope.known member ((World.inScope_iff repaired member).mpr
      ⟨present, root, counts, way⟩)
    obtain ⟨submaps, found⟩ := charts.filed map known
    exact ⟨map.id, ⟨root, counts, nonzero, way⟩, _, found, (same map submaps).mpr held⟩

theorem Atlas.Charts.exists_values_iff (charts : atlas.Charts world tree) {holds : NetworkMap → Prop}
    (same : ∀ map submaps, holds { map with submaps := submaps } ↔ holds map) :
    (∃ map ∈ atlas.maps.values, holds map) ↔ ∃ map, world.Known tree map ∧ holds map := by
  constructor
  · rintro ⟨map, member, held⟩
    obtain ⟨id, found⟩ := mem_values.mp member
    obtain ⟨original, known, _, original_eq⟩ := charts.known id map found
    exact ⟨original, known, (same original map.submaps).mp (original_eq ▸ held)⟩
  · rintro ⟨map, known, held⟩
    obtain ⟨submaps, found⟩ := charts.filed map known
    exact ⟨_, mem_values.mpr ⟨map.id, found⟩, (same map submaps).mpr held⟩

theorem Atlas.Charts.leastFloor (charts : atlas.Charts world tree) :
    world.LeastFloor tree (References.ofMaps atlas.maps.values).minSeverity := by
  rcases References.minSeverity_spec atlas.maps.values with least | ⟨nothing, lowest⟩
  · left
    have floors : {floor | ∃ map ∈ atlas.maps.values, map.severityFloor = floor} =
        {floor | ∃ map, world.Known tree map ∧ map.severityFloor = floor} := by
      ext floor
      exact charts.exists_values_iff fun _ _ => Iff.rfl
    exact floors ▸ least
  · refine .inr ⟨fun map known => ?_, lowest⟩
    obtain ⟨submaps, found⟩ := charts.filed map known
    exact absurd (nothing ▸ mem_values.mpr ⟨map.id, found⟩) List.not_mem_nil

end Charts

section Counts

variable {world : World} {tree : Tree} {atlas : Atlas} {ledger : Ledger} {map : NetworkMap}
  {trigger : TriggerId}

/-- What a target of a known map stands for is on record. -/
theorem mem_behind_iff (charts : atlas.Charts world tree)
    (reflects : ledger.Reflects world (.ofMaps atlas.maps.values)) (known : world.Known tree map)
    {element : Element} (placed : element ∈ map.elements) :
    trigger ∈ ledger.behind element.target ↔
      world.StandsFor (References.ofMaps atlas.maps.values).minSeverity element.target trigger := by
  cases target : element.target with
  | group id =>
    have referenced : id ∈ (References.ofMaps atlas.maps.values).groups :=
      References.mem_groups.mpr ((charts.exists_values_iff fun _ _ => Iff.rfl).mpr
        ⟨map, known, element, placed, target⟩)
    rw [Ledger.behind, Std.ExtTreeSet.mem_toList, reflects.ofGroup]
    exact and_iff_right referenced
  | host id =>
    have referenced : id ∈ (References.ofMaps atlas.maps.values).hosts :=
      References.mem_hosts.mpr ((charts.exists_values_iff fun _ _ => Iff.rfl).mpr
        ⟨map, known, element, placed, target⟩)
    rw [Ledger.behind, Std.ExtTreeSet.mem_toList, reflects.ofHost]
    exact and_iff_right referenced
  | triggers ids => exact Iff.rfl
  | map id => simp [Ledger.behind, World.StandsFor]

theorem mem_shown_iff (charts : atlas.Charts world tree)
    (reflects : ledger.Reflects world (.ofMaps atlas.maps.values)) (known : world.Known tree map) :
    trigger ∈ map.shown ledger ↔
      world.Shows (References.ofMaps atlas.maps.values).minSeverity map trigger := by
  simp only [NetworkMap.shown, NetworkMap.readableElements, NetworkMap.readableLinks, List.mem_append,
    List.mem_flatMap, List.mem_filter, and_assoc, World.Shows]
  refine or_congr_left (exists_congr fun element => and_congr_right fun placed => ?_)
  rw [mem_behind_iff charts reflects known placed]

/-- Every trigger that a known map shows is on record. -/
theorem mem_standings_of_shows (charts : atlas.Charts world tree)
    (reflects : ledger.Reflects world (.ofMaps atlas.maps.values)) (known : world.Known tree map)
    (shows : world.Shows (References.ofMaps atlas.maps.values).minSeverity map trigger) :
    trigger ∈ ledger.standings := by
  apply reflects.tracked
  rcases shows with ⟨element, placed, _, stands⟩ | ⟨link, placed, _, member⟩
  · cases target : element.target with
    | group id =>
      refine .inr (.inl ⟨id, References.mem_groups.mpr ?_, target ▸ stands⟩)
      exact (charts.exists_values_iff fun _ _ => Iff.rfl).mpr ⟨map, known, element, placed, target⟩
    | host id =>
      refine .inr (.inr ⟨id, References.mem_hosts.mpr ?_, target ▸ stands⟩)
      exact (charts.exists_values_iff fun _ _ => Iff.rfl).mpr ⟨map, known, element, placed, target⟩
    | triggers ids =>
      rw [target] at stands
      refine .inl (References.mem_triggers.mpr (.inr ?_))
      exact (charts.exists_values_iff fun _ _ => Iff.rfl).mpr
        ⟨map, known, element, placed, ids, target, stands⟩
    | map id =>
      rw [target] at stands
      exact stands.elim
  · refine .inl (References.mem_triggers.mpr (.inl ?_))
    exact (charts.exists_values_iff fun _ _ => Iff.rfl).mpr ⟨map, known, link, placed, member⟩

/-- A known map counts what the world says that it counts. -/
theorem counts_iff (charts : atlas.Charts world tree)
    (reflects : ledger.Reflects world (.ofMaps atlas.maps.values)) (known : world.Known tree map)
    {severity : Severity} :
    map.Counts ledger trigger severity ↔
      world.Counts (References.ofMaps atlas.maps.values).minSeverity map trigger severity := by
  rw [NetworkMap.Counts, World.Counts, mem_shown_iff charts reflects known,
    Standing.visibleSeverity_eq_some_iff]
  refine and_congr_right fun shows => ?_
  have tracked := mem_standings_of_shows charts reflects known shows
  rw [reflects.gravest trigger tracked, reflects.unacknowledged trigger tracked]

/-- The slot of an item holds the number of triggers that its scope should count. -/
theorem get_ofItem (charts : atlas.Charts world tree)
    (reflects : ledger.Reflects world (.ofMaps atlas.maps.values)) (repaired : tree.Repaired) {item : Item}
    (member : item ∈ tree.items) (severity : Severity) :
    ((Tally.ofItem atlas ledger item).get severity : ENat) = Set.encard {trigger | ∃ map,
      world.InScope tree item map ∧
        world.Counts (References.ofMaps atlas.maps.values).minSeverity map trigger severity} := by
  rw [Tally.ofItem, Tally.get_ofScope]
  congr 1
  ext trigger
  rw [Set.mem_ofPred_eq, Set.mem_ofPred_eq, charts.exists_scope_iff repaired member fun _ _ => Iff.rfl]
  refine exists_congr fun map => and_congr_right fun within => ?_
  exact counts_iff charts reflects (within.known member)

end Counts

/-- Counting succeeds, on an atlas that charts the world and a ledger that reflects it. -/
theorem countProblems_ok {world : World} {feeds : Feeds (Except FeedFault)}
    (answered : world.AnsweredBy feeds) {tree : Tree} (repaired : tree.Repaired) :
    ∃ atlas ledger, countProblems feeds tree = .ok ⟨Tally.ofTree tree atlas ledger, atlas.accessible⟩ ∧
      atlas.Charts world tree ∧ ledger.Reflects world (.ofMaps atlas.maps.values) := by
  obtain ⟨atlas, discovered, charts⟩ := exists_charts answered repaired
  obtain ⟨ledger, gathered, reflects⟩ := Ledger.gather_ok (.ofMaps atlas.maps.values) answered
  refine ⟨atlas, ledger, ?_, charts, reflects⟩
  rw [countProblems, discovered]
  change (Ledger.gather feeds (.ofMaps atlas.maps.values) >>= _) = _
  rw [gathered]
  rfl

theorem Atlas.roots_of_discover {feed : IdSet .map → Except FeedFault (List NetworkMap)}
    {roots : IdSet .map} {atlas : Atlas} (discovered : Atlas.discover feed roots = .ok atlas) :
    atlas.roots = roots.filter (!·.isZero) := by
  rw [Atlas.discover] at discovered
  cases explored : explore (Atlas.fetchWave feed) (roots.filter (!·.isZero)) ⟨∅, ∅, 0⟩ with
  | error fault =>
    rw [explored] at discovered
    cases discovered
  | ok found =>
    rw [explored] at discovered
    obtain rfl := Except.ok.inj discovered
    rfl

/-- Accessible are the maps linked from the tree that exist. -/
theorem accessible_eq {world : World} {feeds : Feeds (Except FeedFault)} (answered : world.AnsweredBy feeds)
    {tree : Tree} (repaired : tree.Repaired) {tally : Tally} (counted : countProblems feeds tree = .ok tally) :
    tally.accessible = tree.linkedMaps.toList.filter fun id => decide (∃ map ∈ world.maps, map.id = id) := by
  obtain ⟨atlas, discovered, charts⟩ := exists_charts answered repaired
  obtain ⟨ledger, gathered, _⟩ := Ledger.gather_ok (.ofMaps atlas.maps.values) answered
  have accessible : tally.accessible = atlas.accessible := by
    rw [countProblems, discovered] at counted
    change (Ledger.gather feeds (.ofMaps atlas.maps.values) >>= _) = _ at counted
    rw [gathered] at counted
    obtain rfl := Except.ok.inj counted
    rfl
  have roots : atlas.roots = tree.linkedMaps := by
    rw [Atlas.roots_of_discover discovered]
    ext id
    have kept : id ∈ tree.referencedMaps.filter (!·.isZero) ↔ id ∈ nonzero tree.referencedMaps := by
      rw [← Atlas.mem_filter_isZero]
      rfl
    rw [kept, nonzero_referencedMaps repaired, Tree.mem_linkedMaps]
    rfl
  rw [accessible, Atlas.accessible, roots]
  refine List.filter_congr fun id linked => ?_
  obtain ⟨nonzero, item, member, named⟩ := Tree.mem_linkedMaps.mp (Std.ExtTreeSet.mem_toList.mp linked)
  rw [Bool.eq_iff_iff, Std.ExtTreeMap.contains_iff_mem, mem_iff_exists_getElem?, decide_eq_true_eq]
  constructor
  · rintro ⟨map, found⟩
    obtain ⟨original, known, same, _⟩ := charts.known id map found
    exact ⟨original, known.1, same⟩
  · rintro ⟨map, present, rfl⟩
    obtain ⟨submaps, found⟩ := charts.filed map (.of_reflTransGen member named nonzero present .refl)
    exact ⟨_, found⟩

/-- On feeds that answer from a world, problems are counted for every tree that is made of a list of
items: each item has one bucket, and a slot of it holds the number of triggers that some map in the
item's scope counts with the severity of the slot. -/
theorem countProblems_exact (world : World) {feeds : Feeds (Except FeedFault)}
    (answered : world.AnsweredBy feeds) (items : List Item) :
    ∃ tally least,
      countProblems feeds (Tree.ofItems items) = .ok tally ∧
      world.LeastFloor (Tree.ofItems items) least ∧
      tally.buckets.keys.Perm ((Tree.ofItems items).items.map Item.id) ∧
      ∀ item ∈ (Tree.ofItems items).items, ∃ bucket, tally.buckets[item.id]? = some bucket ∧
        ∀ severity, (bucket.get severity : ENat) = Set.encard {trigger |
          ∃ map, world.InScope (Tree.ofItems items) item map ∧ world.Counts least map trigger severity} := by
  have repaired := Tree.repaired_ofItems items
  obtain ⟨atlas, ledger, counted, charts, reflects⟩ := countProblems_ok answered repaired
  refine ⟨_, _, counted, charts.leastFloor, ?_, fun item member => ?_⟩
  · refine (List.perm_ext_iff_of_nodup Std.ExtTreeMap.nodup_keys repaired.nodup_ids).mpr fun id => ?_
    rw [Std.ExtTreeMap.mem_keys, mem_iff_exists_getElem?, List.mem_map]
    simp only [Tally.getElem?_ofTree repaired.nodup_ids]
    constructor
    · rintro ⟨_, item, member, named, _⟩
      exact ⟨item, member, named⟩
    · rintro ⟨item, member, named⟩
      exact ⟨_, item, member, named, rfl⟩
  · exact ⟨Tally.ofItem atlas ledger item,
      (Tally.getElem?_ofTree repaired.nodup_ids).mpr ⟨item, member, rfl, rfl⟩,
      get_ofItem charts reflects repaired member⟩

/-- The first map shows a host, and may not show the second map, which lists a trigger. -/
def shielded : World where
  maps := [
    ⟨⟨1⟩, "", .warning, true, [⟨.host ⟨7⟩, .read⟩, ⟨.map ⟨2⟩, .deny⟩], [], ∅⟩,
    ⟨⟨2⟩, "", .high, false, [⟨.triggers [⟨4⟩], .read⟩], [], ∅⟩]
  triggers := [⟨⟨3⟩, .average, {⟨7⟩}, ∅, false⟩, ⟨⟨4⟩, .disaster, ∅, ∅, false⟩]
  problems := [⟨⟨3⟩, .disaster, true⟩, ⟨⟨3⟩, .average, false⟩, ⟨⟨4⟩, .disaster, false⟩]
  distinct := by decide

/-- Two items that are each other's parent, of which the second shows a map. -/
def circling : List Item := [⟨⟨1⟩, "", ⟨2⟩, .zero, ∅⟩, ⟨⟨2⟩, "", ⟨1⟩, ⟨1⟩, ∅⟩]

/-- The circle is broken, and the item on top counts the trigger behind the host. -/
theorem countProblems_exact_shielded :
    shielded.AnsweredBy shielded.feeds ∧ ∃ tally least,
      countProblems shielded.feeds (Tree.ofItems circling) = .ok tally ∧
      shielded.LeastFloor (Tree.ofItems circling) least ∧
      ∃ item ∈ (Tree.ofItems circling).items, item.id = ⟨1⟩ ∧ item.linked = .zero ∧
        Set.encard {trigger | ∃ map, shielded.InScope (Tree.ofItems circling) item map ∧
          shielded.Counts least map trigger .disaster} = 1 := by
  obtain ⟨tally, least, counted, floor, _, exactly⟩ :=
    countProblems_exact shielded shielded.answeredBy_feeds circling
  let top : Item := ⟨⟨1⟩, "", .zero, .zero, {⟨1⟩}⟩
  have member : top ∈ (Tree.ofItems circling).items := by decide +kernel
  obtain ⟨bucket, found, slots⟩ := exactly top member
  have shown : (countProblems shielded.feeds (Tree.ofItems circling)).toOption.map
      (fun tally => tally.buckets[top.id]?.map (·.get .disaster)) = some (some 1) := by
    decide +kernel
  rw [counted] at shown
  simp only [Except.toOption, Option.map_some, found, Option.some.injEq] at shown
  refine ⟨shielded.answeredBy_feeds, tally, least, counted, floor, top, member, rfl, rfl, ?_⟩
  rw [← slots, shown]
  rfl

end ProblemBoard
