import ProblemBoard.Proofs.Entries
import ProblemBoard.Proofs.Nesting
import ProblemBoard.Proofs.Repair

/-! # The tally of any atlas and any ledger

Counting on an atlas of any maps with a ledger of any entries is exact: a slot of an item's bucket holds the
number of triggers that some map filed in the item's scope shows, and lets through at the severity of the slot.
A trigger that one map leaves out is still counted on another, and one that is counted is in one slot, once.
Neither the order in which maps are gone through, nor that of elements, links and entries, reaches a bucket.
-/

namespace ProblemBoard

open Navigation Relation

namespace NetworkMap

/-- A readable element or link of the map stands for the trigger, according to some entries of a ledger. -/
def ShownBy (map : NetworkMap) (entries : List Ledger.Entry) (trigger : TriggerId) : Prop :=
  (∃ element ∈ map.elements, element.permission.isReadable = true ∧
    Ledger.Entry.StandsFor entries element.target trigger) ∨
  ∃ link ∈ map.links, link.permission.isReadable = true ∧ trigger ∈ link.triggers

/-- The maps have one identifier and one set of display rules, and they have the same elements and links in
whatever order. -/
structure Rearranges (map other : NetworkMap) : Prop where
  id : map.id = other.id
  severityFloor : map.severityFloor = other.severityFloor
  unacknowledgedOnly : map.unacknowledgedOnly = other.unacknowledgedOnly
  elements : map.elements.Perm other.elements
  links : map.links.Perm other.links

theorem mem_shown_ofEntries {map : NetworkMap} {entries : List Ledger.Entry} {trigger : TriggerId} :
    trigger ∈ map.shown (.ofEntries entries) ↔ map.ShownBy entries trigger := by
  simp only [shown, readableElements, readableLinks, List.mem_append, List.mem_flatMap, List.mem_filter,
    and_assoc, Ledger.mem_behind_ofEntries, ShownBy]

theorem Rearranges.shownBy_iff {map other : NetworkMap} (rearranges : map.Rearranges other)
    {entries more : List Ledger.Entry} (reordered : entries.Perm more) {trigger : TriggerId} :
    map.ShownBy entries trigger ↔ other.ShownBy more trigger := by
  have stands (target : Target) :
      Ledger.Entry.StandsFor entries target trigger ↔ Ledger.Entry.StandsFor more target trigger := by
    cases target with
    | group | host => exact reordered.mem_iff
    | triggers | map => exact Iff.rfl
  simp only [ShownBy, rearranges.elements.mem_iff, rearranges.links.mem_iff, stands]

theorem Rearranges.refl (map : NetworkMap) : map.Rearranges map := ⟨rfl, rfl, rfl, .refl _, .refl _⟩

theorem Rearranges.symm {map other : NetworkMap} (rearranges : map.Rearranges other) : other.Rearranges map :=
  ⟨rearranges.id.symm, rearranges.severityFloor.symm, rearranges.unacknowledgedOnly.symm, rearranges.elements.symm,
    rearranges.links.symm⟩

end NetworkMap

/-- A map filed under an identifier of the scope shows the trigger, and lets it through at the severity. -/
def Tally.CountsAs (maps : MapTable) (scope : IdSet .map) (entries : List Ledger.Entry) (trigger : TriggerId)
    (severity : Severity) : Prop :=
  ∃ id ∈ scope, ∃ map, maps[id]? = some map ∧ map.ShownBy entries trigger ∧
    ((Ledger.ofEntries entries).standing trigger).visibleSeverity map.severityFloor map.unacknowledgedOnly =
      some severity

namespace MapTable

/-- The same keys are in use, for maps that are alike except for the order of their elements and links. -/
def Rearranges (maps others : MapTable) : Prop :=
  ∀ key : MapId, Option.Rel NetworkMap.Rearranges maps[key]? others[key]?

namespace Rearranges

variable {maps others : MapTable}

theorem symm (rearranges : maps.Rearranges others) : others.Rearranges maps := by
  intro key
  have alike := rearranges key
  revert alike
  cases maps[key]? <;> cases others[key]? <;> rintro ⟨alike⟩
  · exact .none
  · exact .some alike.symm

theorem refl (maps : MapTable) : maps.Rearranges maps := by
  intro key
  cases maps[key]? with
  | some map => exact .some (.refl map)
  | none => exact .none

theorem insert (rearranges : maps.Rearranges others) {map other : NetworkMap} (alike : map.Rearranges other)
    (key : MapId) : Rearranges (maps.insert key map) (others.insert key other) := by
  intro at_key
  rw [Std.ExtTreeMap.getElem?_insert, Std.ExtTreeMap.getElem?_insert]
  split
  · exact .some alike
  · exact rearranges at_key

theorem exists_of_getElem? (rearranges : maps.Rearranges others) {key : MapId} {map : NetworkMap}
    (found : maps[key]? = some map) : ∃ other, others[key]? = some other ∧ map.Rearranges other := by
  have alike := rearranges key
  rw [found] at alike
  revert alike
  cases others[key]? <;> rintro ⟨alike⟩
  exact ⟨_, rfl, alike⟩

theorem mem (rearranges : maps.Rearranges others) {key : MapId} (filed : key ∈ maps) : key ∈ others := by
  obtain ⟨map, found⟩ := mem_iff_exists_getElem?.mp filed
  obtain ⟨other, found, _⟩ := rearranges.exists_of_getElem? found
  exact mem_iff_exists_getElem?.mpr ⟨other, found⟩

theorem embedsReadably (rearranges : maps.Rearranges others) {outer inner : MapId}
    (embeds : EmbedsReadably maps.values outer inner) : EmbedsReadably others.values outer inner := by
  obtain ⟨nonzero, map, member, rfl, embedded⟩ := embeds
  obtain ⟨key, found⟩ := mem_values.mp member
  obtain ⟨other, filed, alike⟩ := rearranges.exists_of_getElem? found
  obtain ⟨element, present, readable, target⟩ := NetworkMap.mem_readableEmbedded.mp embedded
  exact ⟨nonzero, other, mem_values.mpr ⟨key, filed⟩, alike.id.symm,
    NetworkMap.mem_readableEmbedded.mpr ⟨element, alike.elements.mem_iff.mp present, readable, target⟩⟩

variable {roots missing : IdSet .map} {starts : List MapId}

/-- A scope holds what it held before, since what is nested in a map is still nested in it. -/
theorem mem_expandScope (rearranges : maps.Rearranges others) {id : MapId}
    (within : id ∈ (Atlas.ofMaps roots maps missing).expandScope starts) :
    id ∈ (Atlas.ofMaps roots others missing).expandScope starts := by
  obtain ⟨root, member, nonzero, reached⟩ := Atlas.mem_expandScope.mp within
  refine Atlas.mem_expandScope.mpr ⟨root, member, nonzero, reached.imp_right fun nested => ?_⟩
  have filed := Atlas.filed_of_mem_submaps nested
  rw [Atlas.mem_submaps_ofMaps filed] at nested
  exact (Atlas.mem_submaps_ofMaps (rearranges.mem filed)).mpr
    (TransGen.mono (fun _ _ => rearranges.embedsReadably) root id nested)

/-- What counts still counts, in whatever order the entries were made. -/
theorem countsAs (rearranges : maps.Rearranges others) {entries more : List Ledger.Entry}
    (reordered : entries.Perm more) {trigger : TriggerId} {severity : Severity}
    (counts : Tally.CountsAs maps ((Atlas.ofMaps roots maps missing).expandScope starts) entries trigger severity) :
    Tally.CountsAs others ((Atlas.ofMaps roots others missing).expandScope starts) more trigger severity := by
  obtain ⟨id, within, map, found, shown, visible⟩ := counts
  obtain ⟨other, filed, alike⟩ := rearranges.exists_of_getElem? found
  refine ⟨id, rearranges.mem_expandScope within, other, filed, (alike.shownBy_iff reordered).mp shown, ?_⟩
  rwa [← alike.severityFloor, ← alike.unacknowledgedOnly,
    ← Ledger.visibleSeverity_ofEntries_congr fun _ => reordered.mem_iff]

end Rearranges

end MapTable

namespace Tally

variable {roots missing : IdSet .map} {maps : MapTable} {entries : List Ledger.Entry} {scope : IdSet .map}
  {trigger : TriggerId} {severity : Severity}

/-- What counts on an atlas counts on the maps that the atlas was made of. -/
theorem countsAs_iff : CountsAs maps scope entries trigger severity ↔
    ∃ id ∈ scope, ∃ map, (Atlas.ofMaps roots maps missing).maps[id]? = some map ∧
      map.Counts (.ofEntries entries) trigger severity := by
  simp only [CountsAs, NetworkMap.Counts, ← NetworkMap.mem_shown_ofEntries, Atlas.ofMaps, Atlas.getElem?_close,
    Option.map_eq_some_iff]
  refine exists_congr fun id => and_congr_right fun _ => ?_
  constructor
  · rintro ⟨map, found, counts⟩
    exact ⟨_, ⟨map, found, rfl⟩, counts⟩
  · rintro ⟨_, ⟨map, found, rfl⟩, counts⟩
    exact ⟨map, found, counts⟩

theorem get_ofScope_ofMaps (severity : Severity) :
    ((ofScope scope (.ofMaps roots maps missing) (.ofEntries entries)).get severity : ENat) =
      Set.encard {trigger | CountsAs maps scope entries trigger severity} := by
  rw [get_ofScope]
  simp only [← countsAs_iff]

theorem total_ofScope_ofMaps :
    ((ofScope scope (.ofMaps roots maps missing) (.ofEntries entries)).total : ENat) =
      Set.encard {trigger | ∃ severity, CountsAs maps scope entries trigger severity} := by
  rw [total_ofScope]
  simp only [← countsAs_iff]

theorem CountsAs.unique {other : Severity} (counts : CountsAs maps scope entries trigger severity)
    (also : CountsAs maps scope entries trigger other) : severity = other := by
  obtain ⟨_, _, _, _, _, visible⟩ := counts
  obtain ⟨_, _, _, _, _, also⟩ := also
  exact Option.some.inj ((Standing.visibleSeverity_eq_some_iff.mp visible).1.symm.trans
    (Standing.visibleSeverity_eq_some_iff.mp also).1)

/-- The maps of a scope may be gone through in any order. -/
theorem countedOn_eq_counted {atlas : Atlas} {ledger : Ledger} {order : List NetworkMap}
    (listed : ∀ map, map ∈ order ↔ ∃ id ∈ scope, atlas.maps[id]? = some map) :
    countedOn order ledger = counted scope atlas ledger := by
  ext trigger severity
  rw [getElem?_countedOn, getElem?_counted]
  simp only [listed]
  constructor
  · rintro ⟨map, ⟨id, within, found⟩, counts⟩
    exact ⟨id, within, map, found, counts⟩
  · rintro ⟨id, within, map, found, counts⟩
    exact ⟨map, ⟨id, within, found⟩, counts⟩

/-- Buckets do not depend on the order of elements, links and entries. -/
theorem ofTree_rearranged {tree : Tree} {others : MapTable} {more : List Ledger.Entry}
    (rearranges : maps.Rearranges others) (reordered : entries.Perm more) :
    ofTree tree (.ofMaps roots others missing) (.ofEntries more) =
      ofTree tree (.ofMaps roots maps missing) (.ofEntries entries) := by
  refine ofTree_congr fun item _ => ofScope_congr fun trigger severity => ?_
  rw [← countsAs_iff, ← countsAs_iff]
  exact ⟨rearranges.symm.countsAs reordered.symm, rearranges.countsAs reordered⟩

/-- On an atlas of any maps, with a ledger of any entries, each item of a tree that is made of a list of items has
one bucket, and a slot of it holds the number of triggers that some map filed in the item's scope shows and lets
through at the severity of the slot. No trigger is in two slots, and the total is the number of triggers in any.
It makes no difference in which order the maps of a scope are gone through, nor in which order elements, links
and entries are listed. -/
theorem ofTree_exact (items : List Item) (roots missing : IdSet .map) (maps : MapTable)
    (entries : List Ledger.Entry) :
    let tree := Tree.ofItems items
    let atlas := Atlas.ofMaps roots maps missing
    let ledger := Ledger.ofEntries entries
    let buckets := ofTree tree atlas ledger
    (tree.items.map Item.id).Nodup ∧ (∀ id, id ∈ buckets ↔ ∃ item ∈ tree.items, item.id = id) ∧
      (∀ item ∈ tree.items, ∃ bucket, buckets[item.id]? = some bucket ∧
        let scope := atlas.expandScope item.scopeRoots
        (∀ severity, (bucket.get severity : ENat) =
          Set.encard {trigger | CountsAs maps scope entries trigger severity}) ∧
        (∀ trigger severity other, CountsAs maps scope entries trigger severity →
          CountsAs maps scope entries trigger other → severity = other) ∧
        (bucket.total : ENat) = Set.encard {trigger | ∃ severity, CountsAs maps scope entries trigger severity} ∧
        ∀ order : List NetworkMap, (∀ map, map ∈ order ↔ ∃ id ∈ scope, atlas.maps[id]? = some map) →
          .ofList (countedOn order ledger).values = bucket) ∧
      ∀ (others : MapTable) (more : List Ledger.Entry), maps.Rearranges others → entries.Perm more →
        ofTree tree (.ofMaps roots others missing) (.ofEntries more) = buckets := by
  have distinct := (Tree.repaired_ofItems items).nodup_ids
  refine ⟨distinct, fun _ => mem_ofTree distinct, fun item member => ?_, fun _ _ => ofTree_rearranged⟩
  refine ⟨_, getElem?_ofTree_of_mem distinct member, get_ofScope_ofMaps, fun _ _ _ => CountsAs.unique,
    total_ofScope_ofMaps, fun order listed => ?_⟩
  rw [countedOn_eq_counted listed]
  rfl

/-- A strict map, and a lenient one that it embeds, which is filed under another identifier than its own. -/
def crossing (strict : NetworkMap) : MapTable :=
  ((∅ : MapTable).insert ⟨1⟩ strict).insert ⟨2⟩
    ⟨⟨9⟩, "", .notClassified, false, [⟨.group ⟨5⟩, .read⟩, ⟨.triggers [⟨6⟩], .deny⟩], [], ∅⟩

/-- The strict map shows a host and a link, and the lenient map. -/
def strictMap : NetworkMap :=
  ⟨⟨1⟩, "", .average, true, [⟨.host ⟨7⟩, .read⟩, ⟨.map ⟨2⟩, .readWrite⟩], [⟨[⟨4⟩], .read⟩], ∅⟩

/-- The strict map with its elements the other way round. -/
def strictMapReversed : NetworkMap := { strictMap with elements := strictMap.elements.reverse }

/-- One trigger is behind the host and the group and has been acknowledged, the other is open. -/
def crossingEntries : List Ledger.Entry :=
  [.host ⟨7⟩ ⟨3⟩, .problem ⟨⟨3⟩, .high, true⟩, .group ⟨5⟩ ⟨3⟩, .problem ⟨⟨4⟩, .disaster, false⟩,
    .problem ⟨⟨3⟩, .average, true⟩]

/-- What the strict map leaves out is counted on the lenient one, and is so in any order. -/
theorem ofTree_exact_crossing :
    let tree := Tree.ofItems [⟨⟨1⟩, "", .zero, .zero, ∅⟩, ⟨⟨2⟩, "", ⟨1⟩, ⟨1⟩, ∅⟩]
    let atlas := Atlas.ofMaps ∅ (crossing strictMap) ∅
    ∃ item ∈ tree.items, item.linked = .zero ∧
      let scope := atlas.expandScope item.scopeRoots
      Set.encard {trigger | CountsAs (crossing strictMap) scope crossingEntries trigger .high} = 1 ∧
      Set.encard {trigger | ∃ severity, CountsAs (crossing strictMap) scope crossingEntries trigger severity} = 2 ∧
      (ofTree tree atlas (.ofEntries crossingEntries))[item.id]? = some (.ofList (countedOn
        (scope.toList.filterMap (atlas.maps[·]?)).reverse (.ofEntries crossingEntries)).values) ∧
      (crossing strictMap).Rearranges (crossing strictMapReversed) ∧
      crossingEntries.Perm crossingEntries.reverse ∧
      ofTree tree (.ofMaps ∅ (crossing strictMapReversed) ∅) (.ofEntries crossingEntries.reverse) =
        ofTree tree atlas (.ofEntries crossingEntries) := by
  intro tree atlas
  obtain ⟨_, _, exactly, rearranged⟩ := ofTree_exact [⟨⟨1⟩, "", .zero, .zero, ∅⟩, ⟨⟨2⟩, "", ⟨1⟩, ⟨1⟩, ∅⟩]
    ∅ ∅ (crossing strictMap) crossingEntries
  let top : Item := ⟨⟨1⟩, "", .zero, .zero, {⟨1⟩}⟩
  have member : top ∈ tree.items := by decide +kernel
  obtain ⟨bucket, found, slots, _, total, ordered⟩ := exactly top member
  have shown : (ofTree tree atlas (.ofEntries crossingEntries))[top.id]?.map
      (fun bucket => (bucket.get .high, bucket.total)) = some (1, 2) := by
    decide +kernel
  rw [found, Option.map_some, Option.some.injEq, Prod.mk.injEq] at shown
  have reversed : strictMap.Rearranges strictMapReversed := ⟨rfl, rfl, rfl, by decide, by decide⟩
  have rearranges : (crossing strictMap).Rearranges (crossing strictMapReversed) :=
    ((MapTable.Rearranges.refl ∅).insert reversed ⟨1⟩).insert (.refl _) ⟨2⟩
  refine ⟨top, member, rfl, ?_, ?_, ?_, rearranges, by decide, rearranged _ _ rearranges (by decide)⟩
  · rw [← slots, shown.1]
    rfl
  · rw [← total, shown.2]
    rfl
  · rw [found, ordered]
    simp [atlas]

end Tally

end ProblemBoard
