import ProblemBoard.Proofs.Cells
import ProblemBoard.Proofs.Comparison

/-! # Counting on feeds that refuse some questions

A feed on database tables refuses a question that has an identifier too large for a signed cell, or that names too
many triggers, hosts or groups at once; it answers every other. Counting asks for the maps linked from a tree, for
everything that the maps known from there refer to, and beyond that only for stored triggers. So it gives what it gives
on a feed that answers everything if what those maps refer to fits into cells and is not too much, and is refused
otherwise.
-/

namespace ProblemBoard

open Navigation

section Results

variable {α β : Type}

/-- A result is as expected if all identifiers fit into cells and no question is too large. If not, one of the two is
the reason of the fault. -/
inductive Follows (fits askable : Prop) (expected : Except FeedFault α) : Except FeedFault α → Prop where
  | same (fit : fits) (asked : askable) : Follows fits askable expected expected
  | unfit (large : ¬ fits) (value : UInt64) (exceeds : Nat.pow 2 63 ≤ value.toNat) :
      Follows fits askable expected (.error (.backend (.integrity (.idTooLarge value))))
  | tooMany (many : ¬ askable) : Follows fits askable expected (.error (.backend .database))

namespace Follows

variable {fits askable moreFits moreAskable : Prop} {result expected : Except FeedFault α} {value : α}
  {next : α → Except FeedFault β} {last : Except FeedFault β}

theorem of_eq (fit : fits) (asked : askable) (same : result = expected) : Follows fits askable expected result :=
  same ▸ .same fit asked

theorem eq (follows : Follows fits askable expected result) (fit : fits) (asked : askable) : result = expected := by
  cases follows with
  | same => rfl
  | unfit large => exact absurd fit large
  | tooMany many => exact absurd asked many

theorem eq_tooMany (follows : Follows fits askable expected result) (fit : fits) (many : ¬ askable) :
    result = .error (.backend .database) := by
  cases follows with
  | same _ asked => exact absurd asked many
  | unfit large => exact absurd fit large
  | tooMany => rfl

theorem refused (follows : Follows fits askable expected result) (not_both : ¬ (fits ∧ askable)) :
    (¬ fits ∧ ∃ value : UInt64, Nat.pow 2 63 ≤ value.toNat ∧
      result = .error (.backend (.integrity (.idTooLarge value)))) ∨
    ¬ askable ∧ result = .error (.backend .database) := by
  cases follows with
  | same fit asked => exact absurd ⟨fit, asked⟩ not_both
  | unfit large value exceeds => exact .inl ⟨large, value, exceeds, rfl⟩
  | tooMany many => exact .inr ⟨many, rfl⟩

theorem congr (follows : Follows fits askable expected result) (sameFits : moreFits ↔ fits)
    (sameAskable : moreAskable ↔ askable) : Follows moreFits moreAskable expected result :=
  propext sameFits ▸ propext sameAskable ▸ follows

theorem bind (follows : Follows fits askable (.ok value) result)
    (continues : Follows moreFits moreAskable last (next value)) :
    Follows (fits ∧ moreFits) (askable ∧ moreAskable) last (result >>= next) := by
  cases follows with
  | unfit large number exceeds => exact .unfit (fun both => large both.1) number exceeds
  | tooMany many => exact .tooMany fun both => many both.1
  | same fit asked =>
    change Follows _ _ _ (next value)
    generalize next value = rest at continues
    cases continues with
    | same furtherFit furtherAsked => exact .same ⟨fit, furtherFit⟩ ⟨asked, furtherAsked⟩
    | unfit large number exceeds => exact .unfit (fun both => large both.2) number exceeds
    | tooMany many => exact .tooMany fun both => many both.2

theorem map (follows : Follows fits askable expected result) (change : α → β) :
    Follows fits askable (do pure (change (← expected))) (do pure (change (← result))) := by
  cases follows with
  | same fit asked => exact .same fit asked
  | unfit large number exceeds => exact .unfit large number exceeds
  | tooMany many => exact .tooMany many

end Follows

end Results

section Explorations

variable {entity : Entity} {σ : Type} {fits : IdSet entity → Prop}
  {visit : IdSet entity → σ → Except FeedFault (List (Ident entity) × σ)}
  {report : IdSet entity → List (Ident entity)} {after : IdSet entity → σ → σ}

theorem exploreFrom_follows
    (visits : ∀ wave state, Follows (fits wave) True (.ok (report wave, after wave state)) (visit wave state))
    (seen wave : IdSet entity) (state : σ) :
    Follows (∀ each ∈ wave :: laterWaves report seen wave, fits each) True
      (exploreFrom (fun wave state => .ok (report wave, after wave state)) seen wave state)
      (exploreFrom visit seen wave state) := by
  -- By induction on the waves of the exploration that is never refused.
  induction seen, wave using laterWaves.induct report generalizing state with
  | case1 seen wave done =>
    rw [exploreFrom, exploreFrom, laterWaves, dif_pos done]
    refine ((visits wave state).bind (.of_eq trivial trivial ?_)).congr (by simp) (and_true _).symm.to_iff
    change dite _ _ _ = dite _ _ _
    rw [dif_pos done, dif_pos done]
  | case2 seen wave more ih =>
    rw [exploreFrom, exploreFrom, laterWaves, dif_neg more]
    refine ((visits wave state).bind ?_).congr List.forall_mem_cons (and_true _).symm.to_iff
    change Follows _ _ (dite _ _ _) (dite _ _ _)
    rw [dif_neg more, dif_neg more]
    exact ih _

/-- An exploration is refused if one of its waves is. -/
theorem explore_follows
    (visits : ∀ wave state, Follows (fits wave) True (.ok (report wave, after wave state)) (visit wave state))
    (start : IdSet entity) (state : σ) :
    Follows (∀ wave ∈ wavesOf report start, fits wave) True
      (explore (fun wave state => .ok (report wave, after wave state)) start state) (explore visit start state) := by
  rw [explore, explore, wavesOf]
  split
  · exact .of_eq (by simp) trivial rfl
  · exact exploreFrom_follows visits start start state

end Explorations

theorem Element.submap?_eq_some_iff {element : Element} {id : MapId} :
    element.submap? = some id ↔ element.target = .map id := by
  rw [Element.submap?]
  cases element.target <;> simp

/-- What maps refer to fits if what they embed and what else they name does. -/
theorem References.refersToCells_iff {maps : List NetworkMap} :
    (∀ map ∈ maps, map.RefersToCells) ↔ (∀ map ∈ maps, ∀ id ∈ map.embedded, id.FitsCell) ∧
      (ofMaps maps).groups.FitsCells ∧ (ofMaps maps).hosts.FitsCells ∧ (ofMaps maps).triggers.FitsCells := by
  simp only [IdSet.FitsCells, Std.ExtTreeSet.mem_toList, mem_groups, mem_hosts, mem_triggers,
    NetworkMap.mem_embedded, Element.submap?_eq_some_iff]
  constructor
  · intro refers
    have fits {map : NetworkMap} (member : map ∈ maps) {element : Element} (placed : element ∈ map.elements)
        {target : Target} (stands : element.target = target) : target.FitsCells :=
      stands ▸ (refers map member).1 element placed
    refine ⟨?embedded, ?groups, ?hosts, ?triggers⟩
    case embedded =>
      rintro map member id ⟨element, placed, target⟩
      exact fits member placed target
    case groups =>
      rintro id ⟨map, member, element, placed, target⟩
      exact fits member placed target
    case hosts =>
      rintro id ⟨map, member, element, placed, target⟩
      exact fits member placed target
    case triggers =>
      rintro id (⟨map, member, link, placed, named⟩ | ⟨map, member, element, placed, ids, target, named⟩)
      · exact (refers map member).2 link placed id named
      · exact fits member placed target id named
  · rintro ⟨embedded, groups, hosts, triggers⟩ map member
    refine ⟨fun element placed => ?_, fun link placed id named => ?_⟩
    · cases target : element.target with
      | group id => exact groups id ⟨map, member, element, placed, target⟩
      | host id => exact hosts id ⟨map, member, element, placed, target⟩
      | triggers ids => exact fun id named => triggers id (.inr ⟨map, member, element, placed, ids, target, named⟩)
      | map id => exact embedded map member id ⟨element, placed, target⟩
    · exact triggers id (.inl ⟨map, member, link, placed, named⟩)

theorem Atlas.Charts.forall_known_iff {world : World} {tree : Tree} {atlas : Atlas}
    (charts : atlas.Charts world tree) {holds : NetworkMap → Prop}
    (same : ∀ map submaps, holds { map with submaps := submaps } ↔ holds map) :
    (∀ map, world.Known tree map → holds map) ↔ ∀ map ∈ atlas.maps.values, holds map := by
  have exceptions : (∃ map ∈ atlas.maps.values, ¬ holds map) ↔ ∃ map, world.Known tree map ∧ ¬ holds map :=
    charts.exists_values_iff fun map submaps => not_congr (same map submaps)
  simpa using (not_congr exceptions).symm

/-- Where the linked maps fit, everything that embeddings lead to fits if all that known maps embed does. -/
theorem World.forall_known_iff {world : World} {tree : Tree} (linked : ∀ item ∈ tree.items, item.linked.FitsCell) :
    (∀ map, world.Known tree map → ∀ id ∈ map.embedded, id.FitsCell) ↔
      ∀ id, Reached (Embeds world.maps) {id | id ≠ .zero ∧ ∃ item ∈ tree.items, item.linked = id} id →
        id.FitsCell := by
  constructor
  · rintro embedded id ⟨root, ⟨nonzero, item, member, rfl⟩, way⟩
    cases way with
    | refl => exact linked item member
    | tail before last =>
      obtain ⟨_, map, present, rfl, embeds⟩ := last
      exact embedded map ⟨present, _, ⟨nonzero, item, member, rfl⟩, before⟩ id embeds
  · rintro reached map ⟨present, way⟩ id embeds
    by_cases nothing : id = .zero
    · subst nothing
      decide
    · exact reached id (way.tail ⟨nothing, map, present, rfl, embeds⟩)

namespace World

variable (world : World)

section Asked

variable (tree : Tree)

/-- A known map has an element with the target, whatever its permission. -/
def Places (target : Target) : Prop :=
  ∃ map, world.Known tree map ∧ ∃ element ∈ map.elements, element.target = target

/-- A known map has an element or a link that stands for the trigger, whatever its permission. -/
def Seeks (least : Severity) (trigger : TriggerId) : Prop :=
  ∃ map, world.Known tree map ∧
    ((∃ element ∈ map.elements, world.StandsFor least element.target trigger) ∨
      ∃ link ∈ map.links, trigger ∈ link.triggers)

/-- To count the problems of the tree, no more groups, hosts or triggers are asked for at once than one question can
name beside its least severity. -/
structure Askable : Prop where
  groups : Set.encard {group | world.Places tree (.group group)} < parameterLimit
  hosts : Set.encard {host | world.Places tree (.host host)} < parameterLimit
  triggers : ∀ least, world.LeastFloor tree least → Set.encard {trigger | world.Seeks tree least trigger} < parameterLimit

end Asked

/-- What gathering for some references asks for is not too much at once. -/
structure AskableFor (references : References) : Prop where
  groups : references.groups.size < parameterLimit
  hosts : references.hosts.size < parameterLimit
  triggers : Set.encard {trigger | trigger ∈ references.triggers ∨
    (∃ group ∈ references.groups, world.StandsFor references.minSeverity (.group group) trigger) ∨
    (∃ host ∈ references.hosts, world.StandsFor references.minSeverity (.host host) trigger)} < parameterLimit

variable {world} {tree : Tree} {atlas : Atlas}

/-- The triggers to look for are those that the references of the known maps name or stand for. -/
theorem seeks_iff (charts : atlas.Charts world tree) {least : Severity} {trigger : TriggerId} :
    world.Seeks tree least trigger ↔ trigger ∈ (References.ofMaps atlas.maps.values).triggers ∨
      (∃ group ∈ (References.ofMaps atlas.maps.values).groups, world.StandsFor least (.group group) trigger) ∨
      (∃ host ∈ (References.ofMaps atlas.maps.values).hosts, world.StandsFor least (.host host) trigger) := by
  rw [Seeks, ← charts.exists_values_iff fun _ _ => Iff.rfl]
  simp only [References.mem_groups, References.mem_hosts, References.mem_triggers]
  constructor
  · rintro ⟨map, member, ⟨element, placed, stands⟩ | named⟩
    · cases target : element.target with
      | group id => exact .inr (.inl ⟨id, ⟨map, member, element, placed, target⟩, target ▸ stands⟩)
      | host id => exact .inr (.inr ⟨id, ⟨map, member, element, placed, target⟩, target ▸ stands⟩)
      | triggers ids =>
        rw [target] at stands
        exact .inl (.inr ⟨map, member, element, placed, ids, target, stands⟩)
      | map id =>
        rw [target] at stands
        exact stands.elim
    · exact .inl (.inl ⟨map, member, named⟩)
  · rintro ((⟨map, member, named⟩ | ⟨map, member, element, placed, ids, target, named⟩) |
      ⟨id, ⟨map, member, element, placed, target⟩, stands⟩ | ⟨id, ⟨map, member, element, placed, target⟩, stands⟩)
    · exact ⟨map, member, .inr named⟩
    · exact ⟨map, member, .inl ⟨element, placed, target ▸ named⟩⟩
    · exact ⟨map, member, .inl ⟨element, placed, target ▸ stands⟩⟩
    · exact ⟨map, member, .inl ⟨element, placed, target ▸ stands⟩⟩

/-- The identifiers of placed targets of one kind are counted in the set of them. -/
theorem encard_places (charts : atlas.Charts world tree) {entity : Entity} {target : Ident entity → Target}
    {ids : IdSet entity} (listed : ∀ id, id ∈ ids ↔
      ∃ map ∈ atlas.maps.values, ∃ element ∈ map.elements, element.target = target id) :
    Set.encard {id | world.Places tree (target id)} = ids.size := by
  rw [← encard_eq_size]
  congr with id
  exact (charts.exists_values_iff fun _ _ => Iff.rfl).symm.trans (listed id).symm

theorem askable_iff (charts : atlas.Charts world tree) :
    world.Askable tree ↔ world.AskableFor (.ofMaps atlas.maps.values) := by
  have groups : Set.encard {group | world.Places tree (.group group)} =
      (References.ofMaps atlas.maps.values).groups.size := encard_places charts fun _ => References.mem_groups
  have hosts : Set.encard {host | world.Places tree (.host host)} =
      (References.ofMaps atlas.maps.values).hosts.size := encard_places charts fun _ => References.mem_hosts
  have triggers (least : Severity) : {trigger | world.Seeks tree least trigger} = {trigger |
      trigger ∈ (References.ofMaps atlas.maps.values).triggers ∨
      (∃ group ∈ (References.ofMaps atlas.maps.values).groups, world.StandsFor least (.group group) trigger) ∨
      (∃ host ∈ (References.ofMaps atlas.maps.values).hosts, world.StandsFor least (.host host) trigger)} :=
    Set.ext fun _ => seeks_iff charts
  constructor
  · rintro ⟨fewGroups, fewHosts, fewTriggers⟩
    rw [groups] at fewGroups
    rw [hosts] at fewHosts
    exact ⟨ENat.natCast_lt_natCast.mp fewGroups, ENat.natCast_lt_natCast.mp fewHosts,
      triggers _ ▸ fewTriggers _ charts.leastFloor⟩
  · rintro ⟨fewGroups, fewHosts, fewTriggers⟩
    refine ⟨groups ▸ ENat.natCast_lt_natCast.mpr fewGroups, hosts ▸ ENat.natCast_lt_natCast.mpr fewHosts,
      fun least floor => ?_⟩
    obtain rfl := floor.unique charts.leastFloor
    exact triggers _ ▸ fewTriggers

end World

/-- Feeds that answer every query as other feeds do, or refuse it if it has an identifier that does not fit into a
cell or names too many triggers, hosts or groups. -/
structure FollowOnCells (feeds other : Feeds (Except FeedFault)) : Prop where
  maps : ∀ ids, Follows ids.FitsCells True (other.maps ids) (feeds.maps ids)
  triggers : ∀ query, Follows query.FitsCells (query.parameters ≤ parameterLimit) (other.triggers query)
    (feeds.triggers query)
  problems : ∀ query, Follows query.triggers.FitsCells True (other.problems query) (feeds.problems query)

namespace FollowOnCells

variable {feeds other : Feeds (Except FeedFault)} {world : World}

/-- Discovery asks for everything that embeddings lead to. -/
theorem discover_follows (follow : FollowOnCells feeds other) (answered : AnswersFrom world.maps other.maps)
    (roots : IdSet .map) :
    Follows (∀ id, Reached (Embeds world.maps) (nonzero roots) id → id.FitsCell) True
      (Atlas.discover other.maps roots) (Atlas.discover feeds.maps roots) := by
  obtain ⟨answer, given, faithful⟩ := Atlas.exists_answer answered
  have visits (wave : IdSet .map) (survey : Atlas.Survey) : Follows wave.FitsCells True
      (.ok (Atlas.reportOf answer wave, survey.after answer wave)) (Atlas.fetchWave feeds.maps wave survey) := by
    have follows := follow.maps wave
    rw [given] at follows
    have fetched : Follows wave.FitsCells True _ (Atlas.fetchWave feeds.maps wave survey) := follows.map _
    exact fetched
  have waves : (∀ id, Reached (Embeds world.maps) (nonzero roots) id → id.FitsCell) ↔
      ∀ wave ∈ wavesOf (Atlas.reportOf answer) (roots.filter (!·.isZero)), wave.FitsCells := by
    rw [← Atlas.mem_filter_isZero]
    simp only [← exists_mem_wavesOf_iff_reached (Atlas.mem_reportOf faithful)]
    constructor
    · intro each wave listed id member
      exact each id ⟨wave, listed, Std.ExtTreeSet.mem_toList.mp member⟩
    · rintro each id ⟨wave, listed, member⟩
      exact each wave listed id (Std.ExtTreeSet.mem_toList.mpr member)
  have fetched : Atlas.fetchWave other.maps =
      fun wave survey => .ok (Atlas.reportOf answer wave, survey.after answer wave) := by
    rw [given]
    rfl
  rw [Atlas.discover, Atlas.discover, fetched]
  exact ((explore_follows visits _ _).map _).congr waves Iff.rfl

section Gathering

variable (references : References)

/-- Triggers are asked for by a set of identifiers beside the least severity, unless there are none. -/
theorem triggers_follows (follow : FollowOnCells feeds other) {entity : Entity} {ids : IdSet entity}
    {query : TriggerQuery} (fits : ids.FitsCells ↔ query.FitsCells) (counted : query.parameters = 1 + ids.size)
    {α : Type} (otherwise : α) (enter : List Trigger → α) :
    Follows ids.FitsCells (ids.size < parameterLimit)
      (if ids.isEmpty then pure otherwise else do pure (enter (← other.triggers query)))
      (if ids.isEmpty then pure otherwise else do pure (enter (← feeds.triggers query))) := by
  split
  · next nothing =>
    rw [Std.ExtTreeSet.isEmpty_iff] at nothing
    refine .of_eq (nothing ▸ IdSet.fitsCells_empty) ?_ rfl
    rw [nothing, Std.ExtTreeSet.size_empty]
    decide
  · refine ((follow.triggers query).map enter).congr fits ?_
    rw [counted, Nat.add_comm, Nat.lt_iff_add_one_le]

theorem gatherGroups_follows (follow : FollowOnCells feeds other) (ledger : Ledger) :
    Follows references.groups.FitsCells (references.groups.size < parameterLimit)
      (Ledger.gatherGroups other references ledger) (Ledger.gatherGroups feeds references ledger) := by
  rw [Ledger.gatherGroups, Ledger.gatherGroups]
  refine follow.triggers_follows ?_ rfl _ _
  exact ⟨fun groups => ⟨IdSet.fitsCells_empty, IdSet.fitsCells_empty, groups⟩, fun query => query.2.2⟩

theorem gatherHosts_follows (follow : FollowOnCells feeds other) (ledger : Ledger) :
    Follows references.hosts.FitsCells (references.hosts.size < parameterLimit)
      (Ledger.gatherHosts other references ledger) (Ledger.gatherHosts feeds references ledger) := by
  rw [Ledger.gatherHosts, Ledger.gatherHosts]
  refine follow.triggers_follows ?_ rfl _ _
  exact ⟨fun hosts => ⟨IdSet.fitsCells_empty, hosts, IdSet.fitsCells_empty⟩, fun query => query.2.1⟩

/-- Problems are asked for only of stored triggers. -/
theorem gatherProblems_follows (follow : FollowOnCells feeds other) (answered : world.AnsweredBy other)
    (stored : ∀ trigger ∈ world.triggers, trigger.id.FitsCell) (query : TriggerQuery) (ledger : Ledger) :
    Follows query.FitsCells (query.parameters ≤ parameterLimit)
      (do
        let answer ← other.triggers query
        Ledger.gatherProblems other references (.ofList (answer.map Trigger.id)) ledger)
      (do
        let answer ← feeds.triggers query
        Ledger.gatherProblems feeds references (.ofList (answer.map Trigger.id)) ledger) := by
  obtain ⟨answer, given, members⟩ := answered.triggers query
  have asked := follow.triggers query
  rw [given] at asked ⊢
  let eligible : IdSet .trigger := .ofList (answer.map Trigger.id)
  have eligible_fit : eligible.FitsCells := by
    intro id member
    simp only [eligible, Std.ExtTreeSet.mem_toList, Std.ExtTreeSet.mem_ofList, List.contains_iff_mem,
      List.mem_map] at member
    obtain ⟨trigger, listed, rfl⟩ := member
    exact stored trigger ((members trigger).mp listed).1
  have problems : Ledger.gatherProblems feeds references eligible ledger =
      Ledger.gatherProblems other references eligible ledger := by
    rw [Ledger.gatherProblems, Ledger.gatherProblems, (follow.problems _).eq eligible_fit trivial]
  exact (asked.bind (.of_eq trivial trivial problems)).congr (and_true _).symm.to_iff (and_true _).symm.to_iff

/-- Gathering asks for what the references name, and for stored triggers. -/
theorem gather_follows (follow : FollowOnCells feeds other) (answered : world.AnsweredBy other)
    (stored : ∀ trigger ∈ world.triggers, trigger.id.FitsCell) :
    Follows (references.groups.FitsCells ∧ references.hosts.FitsCells ∧ references.triggers.FitsCells)
      (world.AskableFor references) (Ledger.gather other references) (Ledger.gather feeds references) := by
  obtain ⟨grouped, askedGroups, listsGroups⟩ :=
    Ledger.gatherGroups_ok references answered Ledger.lists_empty
  obtain ⟨hosted, askedHosts, listsHosts⟩ := Ledger.gatherHosts_ok references answered listsGroups
  have lists := Ledger.foldl_track listsHosts references.triggers.toList
  have groups := follow.gatherGroups_follows references .empty
  have hosts := follow.gatherHosts_follows references grouped
  rw [askedGroups] at groups
  rw [askedHosts] at hosts
  let ledger := references.triggers.toList.foldl Ledger.track hosted
  -- On record by now are stored triggers, which fit, and those that the references name.
  have on_record (id : TriggerId) : id ∈ ledger.tracked ↔ id ∈ references.triggers ∨
      (∃ group ∈ references.groups, world.StandsFor references.minSeverity (.group group) id) ∨
      (∃ host ∈ references.hosts, world.StandsFor references.minSeverity (.host host) id) := by
    rw [Ledger.mem_tracked, lists.tracked, Std.ExtTreeSet.mem_toList, false_or, or_comm]
  have fits : references.triggers.FitsCells ↔ ledger.tracked.FitsCells := by
    constructor
    · intro named id member
      rw [Std.ExtTreeSet.mem_toList, on_record] at member
      rcases member with member | ⟨_, _, record, admitted, rfl, _⟩ | ⟨_, _, record, admitted, rfl, _⟩
      · exact named id (Std.ExtTreeSet.mem_toList.mpr member)
      · exact stored record admitted.1
      · exact stored record admitted.1
    · intro fits id member
      exact fits id (Std.ExtTreeSet.mem_toList.mpr ((on_record id).mpr (.inl (Std.ExtTreeSet.mem_toList.mp member))))
  have few : world.AskableFor references ↔ references.groups.size < parameterLimit ∧
      references.hosts.size < parameterLimit ∧ ledger.tracked.size < parameterLimit := by
    rw [← ENat.natCast_lt_natCast (n := ledger.tracked.size), ← encard_eq_size]
    simp only [on_record]
    exact ⟨fun askable => ⟨askable.groups, askable.hosts, askable.triggers⟩,
      fun askable => ⟨askable.1, askable.2.1, askable.2.2⟩⟩
  rw [Ledger.gather, Ledger.gather, askedGroups]
  refine (groups.bind ?_).congr Iff.rfl few
  change Follows _ _ (Ledger.gatherHosts other references grouped >>= _)
    (Ledger.gatherHosts feeds references grouped >>= _)
  rw [askedHosts]
  refine hosts.bind ?_
  change Follows _ _ (if ledger.standings.isEmpty then _ else _) (if ledger.standings.isEmpty then _ else _)
  split
  · next nothing =>
    have nowhere : ledger.tracked = ∅ := by
      rw [Std.ExtTreeMap.isEmpty_iff] at nothing
      rw [Ledger.tracked, nothing]
      rfl
    refine .of_eq (fits.mpr ?_) ?_ rfl
    · rw [nowhere]
      exact IdSet.fitsCells_empty
    · rw [nowhere]
      decide
  · refine (follow.gatherProblems_follows references answered stored _ ledger).congr ?_ ?_
    · exact fits.trans ⟨fun fits => ⟨fits, IdSet.fitsCells_empty, IdSet.fitsCells_empty⟩, And.left⟩
    · rw [Nat.lt_iff_add_one_le, Nat.add_comm]
      rfl

end Gathering

/-- Counting asks for what the known maps refer to, and for stored triggers. -/
theorem countProblems_follows (follow : FollowOnCells feeds other) (answered : world.AnsweredBy other)
    (stored : ∀ trigger ∈ world.triggers, trigger.id.FitsCell) {tree : Tree} (repaired : tree.Repaired)
    (linked : ∀ item ∈ tree.items, item.linked.FitsCell) :
    Follows (∀ map, world.Known tree map → map.RefersToCells) (world.Askable tree) (countProblems other tree)
      (countProblems feeds tree) := by
  obtain ⟨atlas, discovered, charts⟩ := exists_charts answered repaired
  have discovery := follow.discover_follows answered.maps tree.referencedMaps
  rw [discovered] at discovery
  rw [countProblems, countProblems, discovered]
  refine (discovery.bind ((follow.gather_follows _ answered stored).map _)).congr ?_ ?_
  · rw [nonzero_referencedMaps repaired, ← World.forall_known_iff linked, charts.forall_known_iff fun _ _ => Iff.rfl,
      charts.forall_known_iff fun _ _ => Iff.rfl]
    exact References.refersToCells_iff
  · rw [true_and]
    exact World.askable_iff charts

end FollowOnCells

namespace Database

variable (database : Database)

/-- A query with identifiers that fit is refused if it names too much. -/
theorem triggersOf_of_lt {query : TriggerQuery} (fits : query.FitsCells) (many : parameterLimit < query.parameters) :
    database.triggersOf query = .error .database := by
  have some_named : ¬ query.isEmpty = true := by
    intro nothing
    obtain ⟨groups, hosts, triggers⟩ := TriggerQuery.isEmpty_iff.mp nothing
    rw [TriggerQuery.parameters, groups, hosts, triggers] at many
    exact absurd many (by decide)
  rw [← length_params_clauseOf] at many
  rw [triggersOf, if_neg some_named, wantedKeys, conditions_eq fits]
  change ((Clause.find _ _ _ >>= _) >>= _) = _
  rw [Clause.find_of_lt many]
  rfl

theorem mapsOf_of_not_fits {ids : IdSet .map} (unfit : ¬ ids.FitsCells) :
    ∃ value : UInt64, Nat.pow 2 63 ≤ value.toNat ∧
      database.mapsOf ids = .error (.integrity (.idTooLarge value)) := by
  obtain ⟨value, large, refused⟩ := cells_of_not_fits unfit
  refine ⟨value, large, ?_⟩
  rw [mapsOf, refused]
  rfl

theorem conditions_of_not_fits {query : TriggerQuery} (unfit : ¬ query.FitsCells) :
    ∃ value : UInt64, Nat.pow 2 63 ≤ value.toNat ∧ conditions query = .error (.integrity (.idTooLarge value)) := by
  by_cases triggers : query.triggers.FitsCells
  · by_cases hosts : query.hosts.FitsCells
    · obtain ⟨value, large, refused⟩ := cells_of_not_fits fun groups => unfit ⟨triggers, hosts, groups⟩
      refine ⟨value, large, ?_⟩
      rw [conditions, IdSet.cells_eq triggers, IdSet.cells_eq hosts, refused]
      rfl
    · obtain ⟨value, large, refused⟩ := cells_of_not_fits hosts
      refine ⟨value, large, ?_⟩
      rw [conditions, IdSet.cells_eq triggers, refused]
      rfl
  · obtain ⟨value, large, refused⟩ := cells_of_not_fits triggers
    refine ⟨value, large, ?_⟩
    rw [conditions, refused]
    rfl

theorem triggersOf_of_not_fits {query : TriggerQuery} (unfit : ¬ query.FitsCells) :
    ∃ value : UInt64, Nat.pow 2 63 ≤ value.toNat ∧
      database.triggersOf query = .error (.integrity (.idTooLarge value)) := by
  have some_named : ¬ query.isEmpty = true := by
    intro nothing
    obtain ⟨groups, hosts, triggers⟩ := TriggerQuery.isEmpty_iff.mp nothing
    rw [TriggerQuery.FitsCells, groups, hosts, triggers] at unfit
    exact unfit ⟨IdSet.fitsCells_empty, IdSet.fitsCells_empty, IdSet.fitsCells_empty⟩
  obtain ⟨value, large, refused⟩ := conditions_of_not_fits unfit
  refine ⟨value, large, ?_⟩
  rw [triggersOf, if_neg some_named, wantedKeys, refused]
  rfl

theorem problemsOf_of_not_fits {query : ProblemQuery} (unfit : ¬ query.triggers.FitsCells) :
    ∃ value : UInt64, Nat.pow 2 63 ≤ value.toNat ∧
      database.problemsOf query = .error (.integrity (.idTooLarge value)) := by
  obtain ⟨value, large, refused⟩ := cells_of_not_fits unfit
  refine ⟨value, large, ?_⟩
  rw [problemsOf, refused]
  rfl

end Database

end ProblemBoard
