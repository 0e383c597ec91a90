import ProblemBoard.Proofs.Tables
import ProblemBoard.Tally

/-! # What a bucket counts

A map counts a trigger that it shows, at the severity of the trigger's standing, if its display
rules let that standing through. The severity belongs to the trigger, so it makes no difference
which map of a scope comes first: the scope counts a trigger when one of its maps does, and a slot of
its bucket holds the number of triggers that are counted with that severity.
-/

namespace ProblemBoard

open Navigation

theorem Standing.visibleSeverity_eq_some_iff {standing : Standing} {floor severity : Severity}
    {unacknowledgedOnly : Bool} :
    standing.visibleSeverity floor unacknowledgedOnly = some severity ↔
      standing.severity = some severity ∧ floor ≤ severity ∧
        (unacknowledgedOnly = true → 0 < standing.unacknowledged) := by
  rw [visibleSeverity, Option.filter_eq_some_iff]
  cases unacknowledgedOnly <;> simp [isUnacknowledged]

/-- The map shows the trigger, and counts it with the given severity. -/
def NetworkMap.Counts (map : NetworkMap) (ledger : Ledger) (trigger : TriggerId)
    (severity : Severity) : Prop :=
  trigger ∈ map.shown ledger ∧
    (ledger.standing trigger).visibleSeverity map.severityFloor map.unacknowledgedOnly = some severity

namespace Counted

variable {ledger : Ledger} {prior : List (NetworkMap × TriggerId)} {counted : Counted}

/-- Counted are the triggers that were visible at one sighting of them on a map. -/
def Holds (ledger : Ledger) (prior : List (NetworkMap × TriggerId)) (counted : Counted) : Prop :=
  ∀ (trigger : TriggerId) (severity : Severity), counted[trigger]? = some severity ↔
    ∃ map, (map, trigger) ∈ prior ∧
      (ledger.standing trigger).visibleSeverity map.severityFloor map.unacknowledgedOnly = some severity

/-- A trigger that is counted already would not be counted otherwise at one more sighting. -/
theorem Holds.observe (holds : Holds ledger prior counted) (map : NetworkMap) (trigger : TriggerId) :
    Holds ledger (prior ++ [(map, trigger)]) (counted.observe map ledger trigger) := by
  intro other severity
  have sightings : (∃ seenOn, (seenOn, other) ∈ prior ++ [(map, trigger)] ∧
      (ledger.standing other).visibleSeverity seenOn.severityFloor seenOn.unacknowledgedOnly =
        some severity) ↔
      counted[other]? = some severity ∨ other = trigger ∧
        (ledger.standing trigger).visibleSeverity map.severityFloor map.unacknowledgedOnly =
          some severity := by
    rw [holds]
    simp only [List.mem_append, List.mem_singleton, Prod.mk.injEq]
    constructor
    · rintro ⟨seenOn, earlier | ⟨rfl, rfl⟩, visible⟩
      · exact .inl ⟨seenOn, earlier, visible⟩
      · exact .inr ⟨rfl, visible⟩
    · rintro (⟨seenOn, earlier, visible⟩ | ⟨rfl, visible⟩)
      · exact ⟨seenOn, .inl earlier, visible⟩
      · exact ⟨map, .inr ⟨rfl, rfl⟩, visible⟩
  rw [sightings, Counted.observe]
  split
  · next known =>
    refine ⟨.inl, fun sighting => sighting.elim id ?_⟩
    rintro ⟨rfl, visible⟩
    obtain ⟨earlier, found⟩ := mem_iff_exists_getElem?.mp (Std.ExtTreeMap.contains_iff_mem.mp known)
    obtain ⟨_, _, before⟩ := (holds other earlier).mp found
    have same := (Standing.visibleSeverity_eq_some_iff.mp before).1.symm.trans
      (Standing.visibleSeverity_eq_some_iff.mp visible).1
    rw [found, same]
  · next unknown =>
    split
    · next severityNow visible =>
      rw [Std.ExtTreeMap.getElem?_insert]
      split
      · next same =>
        obtain rfl := Std.compare_eq_iff_eq.mp same
        have absent : counted[trigger]? = none :=
          Std.ExtTreeMap.getElem?_eq_none fun known => unknown (Std.ExtTreeMap.contains_iff_mem.mpr known)
        simp [absent, visible]
      · next differ =>
        rw [Std.compare_eq_iff_eq] at differ
        have elsewhere : other ≠ trigger := fun same => differ same.symm
        simp [elsewhere]
    · next hidden => simp [hidden]

theorem Holds.foldl_observe (holds : Holds ledger prior counted)
    (sightings : List (NetworkMap × TriggerId)) :
    Holds ledger (prior ++ sightings)
      (sightings.foldl (fun counted seen => counted.observe seen.1 ledger seen.2) counted) := by
  induction sightings generalizing prior counted with
  | nil => simpa using holds
  | cons seen rest ih => simpa using ih (holds.observe seen.1 seen.2)

end Counted

namespace Tally

variable {scope : IdSet .map} {atlas : Atlas} {ledger : Ledger}

/-- The triggers counted on some maps, taken one after the other. -/
def countedOn (maps : List NetworkMap) (ledger : Ledger) : Counted :=
  maps.foldl (fun counted map => (map.shown ledger).foldl (·.observe map ledger ·) counted) ∅

/-- Whichever map comes first, what one of them counts is counted. -/
theorem getElem?_countedOn {maps : List NetworkMap} {trigger : TriggerId} {severity : Severity} :
    (countedOn maps ledger)[trigger]? = some severity ↔ ∃ map ∈ maps, map.Counts ledger trigger severity := by
  let sightings := maps.flatMap fun map => (map.shown ledger).map (map, ·)
  have listed : countedOn maps ledger =
      sightings.foldl (fun counted seen => counted.observe seen.1 ledger seen.2) ∅ := by
    simp only [countedOn, sightings, List.foldl_flatMap, List.foldl_map]
  have nothing : Counted.Holds ledger [] ∅ := by
    intro trigger severity
    simp
  rw [listed, nothing.foldl_observe sightings]
  simp only [sightings, List.nil_append, List.mem_flatMap, List.mem_map, Prod.mk.injEq]
  constructor
  · rintro ⟨map, ⟨_, member, _, shown, rfl, rfl⟩, visible⟩
    exact ⟨_, member, shown, visible⟩
  · rintro ⟨map, member, shown, visible⟩
    exact ⟨map, ⟨map, member, trigger, shown, rfl, rfl⟩, visible⟩

/-- A scope counts what one of its maps counts. -/
theorem getElem?_counted {trigger : TriggerId} {severity : Severity} :
    (counted scope atlas ledger)[trigger]? = some severity ↔
      ∃ id ∈ scope, ∃ map, atlas.maps[id]? = some map ∧ map.Counts ledger trigger severity := by
  have one_after_the_other :
      counted scope atlas ledger = countedOn (scope.toList.filterMap (atlas.maps[·]?)) ledger := rfl
  rw [one_after_the_other, getElem?_countedOn]
  simp only [List.mem_filterMap, Std.ExtTreeSet.mem_toList]
  constructor
  · rintro ⟨map, ⟨id, within, found⟩, counts⟩
    exact ⟨id, within, map, found, counts⟩
  · rintro ⟨id, within, map, found, counts⟩
    exact ⟨map, ⟨id, within, found⟩, counts⟩

/-- A slot holds the number of triggers that some map of the scope counts with its severity. -/
theorem get_ofScope (severity : Severity) :
    ((ofScope scope atlas ledger).get severity : ENat) = Set.encard {trigger | ∃ id ∈ scope, ∃ map,
      atlas.maps[id]? = some map ∧ map.Counts ledger trigger severity} := by
  rw [ofScope, Bucket.get_ofList, count_values]
  simp only [getElem?_counted]

/-- Scopes have one bucket if their maps count the same triggers with the same severities. -/
theorem ofScope_congr {wide : IdSet .map} {other : Atlas} {more : Ledger}
    (same : ∀ (trigger : TriggerId) (severity : Severity),
      (∃ id ∈ scope, ∃ map, atlas.maps[id]? = some map ∧ map.Counts ledger trigger severity) ↔
        ∃ id ∈ wide, ∃ map, other.maps[id]? = some map ∧ map.Counts more trigger severity) :
    ofScope scope atlas ledger = ofScope wide other more := by
  have alike : counted scope atlas ledger = counted wide other more := by
    ext trigger severity
    rw [getElem?_counted, getElem?_counted, same]
  rw [ofScope, ofScope, alike]

/-- Every item of a tree whose items have identifiers of their own gets its own bucket. -/
theorem getElem?_ofTree {tree : Tree} (distinct : (tree.items.map Item.id).Nodup) {id : ItemId}
    {bucket : Bucket} :
    (ofTree tree atlas ledger)[id]? = some bucket ↔
      ∃ item ∈ tree.items, item.id = id ∧ ofItem atlas ledger item = bucket := by
  have consistent : ∀ item ∈ tree.items, ∀ other ∈ tree.items, item.id = other.id →
      ofItem atlas ledger item = ofItem atlas ledger other := by
    intro item member other there same
    rw [List.inj_on_of_nodup_map distinct member there same]
  rw [ofTree, getElem?_foldl_insert consistent]
  simp

theorem mem_ofTree {tree : Tree} (distinct : (tree.items.map Item.id).Nodup) {id : ItemId} :
    id ∈ ofTree tree atlas ledger ↔ ∃ item ∈ tree.items, item.id = id := by
  rw [mem_iff_exists_getElem?]
  simp only [getElem?_ofTree distinct]
  constructor
  · rintro ⟨_, item, member, named, _⟩
    exact ⟨item, member, named⟩
  · rintro ⟨item, member, named⟩
    exact ⟨_, item, member, named, rfl⟩

/-- A tree has the same buckets wherever each of its items has the same bucket. -/
theorem ofTree_congr {tree : Tree} {other : Atlas} {more : Ledger}
    (same : ∀ item ∈ tree.items, ofItem atlas ledger item = ofItem other more item) :
    ofTree tree atlas ledger = ofTree tree other more :=
  List.foldl_ext _ _ _ fun buckets item member => congrArg (buckets.insert item.id) (same item member)

theorem getElem?_ofTree_of_mem {tree : Tree} (distinct : (tree.items.map Item.id).Nodup) {item : Item}
    (member : item ∈ tree.items) : (ofTree tree atlas ledger)[item.id]? = some (ofItem atlas ledger item) :=
  (getElem?_ofTree distinct).mpr ⟨item, member, rfl, rfl⟩

end Tally

end ProblemBoard
