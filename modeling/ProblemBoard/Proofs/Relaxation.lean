import Mathlib.Data.List.Forall2
import ProblemBoard.Proofs.Comparison

/-! # Counts grow when display rules are relaxed

A world is relaxed by lowering floors, counting acknowledged problems, making elements and links
readable, and adding elements, links and maps. Every map that a tree led to is still there in its relaxed
form, so scopes grow and the least severity that matters does not rise. What a map counted, its relaxed
form counts in the same slot.
-/

namespace ProblemBoard

open Navigation Relation

/-- The permission is the same, or has been raised from none to a readable one. -/
def Permission.RaisedTo (before after : Permission) : Prop :=
  after = before ∨ before = .deny ∧ after.isReadable = true

theorem Permission.RaisedTo.isReadable {before after : Permission} (raised : before.RaisedTo after)
    (readable : before.isReadable = true) : after.isReadable = true := by
  rcases raised with same | ⟨denied, readableNow⟩
  · exact same ▸ readable
  · exact readableNow

/-- The element stands for the same, with a permission that may have been raised. -/
structure Element.RaisedTo (before after : Element) : Prop where
  target : after.target = before.target
  permission : before.permission.RaisedTo after.permission

/-- The link carries the same triggers, with a permission that may have been raised. -/
structure Link.RaisedTo (before after : Link) : Prop where
  triggers : after.triggers = before.triggers
  permission : before.permission.RaisedTo after.permission

/-- Entries have been changed in their places, and others appended. -/
def Extended {α : Type} (changed : α → α → Prop) (before after : List α) : Prop :=
  ∃ front, List.Forall₂ changed before front ∧ front <+: after

theorem exists_mem_of_forall₂ {α : Type} {changed : α → α → Prop} {before front : List α}
    (places : List.Forall₂ changed before front) {entry : α} (member : entry ∈ before) :
    ∃ new ∈ front, changed entry new := by
  induction places with
  | nil => exact absurd member List.not_mem_nil
  | @cons first new _ _ here _ ih =>
    rcases List.mem_cons.mp member with rfl | later
    · exact ⟨new, List.mem_cons_self .., here⟩
    · obtain ⟨other, there, changed⟩ := ih later
      exact ⟨other, List.mem_cons_of_mem _ there, changed⟩

theorem Extended.exists_of_mem {α : Type} {changed : α → α → Prop} {before after : List α}
    (extended : Extended changed before after) {entry : α} (member : entry ∈ before) :
    ∃ new ∈ after, changed entry new := by
  obtain ⟨front, places, isFront⟩ := extended
  obtain ⟨new, there, changed⟩ := exists_mem_of_forall₂ places member
  exact ⟨new, isFront.subset there, changed⟩

/-- The map may count from a lower severity, count acknowledged problems too, make elements and links
readable, and have more of them. -/
structure NetworkMap.RelaxedTo (before after : NetworkMap) : Prop where
  id : after.id = before.id
  severityFloor : after.severityFloor ≤ before.severityFloor
  unacknowledgedOnly : after.unacknowledgedOnly = true → before.unacknowledgedOnly = true
  elements : Extended Element.RaisedTo before.elements after.elements
  links : Extended Link.RaisedTo before.links after.links

theorem NetworkMap.RelaxedTo.mem_embedded {before after : NetworkMap} (relaxed : before.RelaxedTo after)
    {inner : MapId} (embedded : inner ∈ before.embedded) : inner ∈ after.embedded := by
  obtain ⟨element, placed, named⟩ := NetworkMap.mem_embedded.mp embedded
  obtain ⟨new, placedNow, raised⟩ := relaxed.elements.exists_of_mem placed
  refine NetworkMap.mem_embedded.mpr ⟨new, placedNow, ?_⟩
  rw [Element.submap?, raised.target]
  exact named

theorem NetworkMap.RelaxedTo.mem_readableEmbedded {before after : NetworkMap}
    (relaxed : before.RelaxedTo after) {inner : MapId} (embedded : inner ∈ before.readableEmbedded) :
    inner ∈ after.readableEmbedded := by
  obtain ⟨element, placed, readable, named⟩ := NetworkMap.mem_readableEmbedded.mp embedded
  obtain ⟨new, placedNow, raised⟩ := relaxed.elements.exists_of_mem placed
  refine NetworkMap.mem_readableEmbedded.mpr ⟨new, placedNow, raised.permission.isReadable readable, ?_⟩
  rw [Element.submap?, raised.target]
  exact named

namespace World

/-- Every map is there in a form that may have been relaxed, and there may be more maps. As identifiers tell
the maps of each world apart, the others have identifiers that no map had. -/
structure RelaxedTo (world other : World) : Prop extends SameRecords world other where
  maps : ∀ map ∈ world.maps, ∃ new ∈ other.maps, map.RelaxedTo new

variable {world other : World} {tree : Tree} {item : Item} {least otherLeast : Severity}
  {map new : NetworkMap} {trigger : TriggerId} {severity : Severity}

namespace RelaxedTo

theorem embeds (relaxed : world.RelaxedTo other) {outer inner : MapId}
    (step : Embeds world.maps outer inner) : Embeds other.maps outer inner := by
  obtain ⟨nonzero, map, member, named, embedded⟩ := step
  obtain ⟨new, present, relaxedMap⟩ := relaxed.maps map member
  exact ⟨nonzero, new, present, relaxedMap.id.trans named, relaxedMap.mem_embedded embedded⟩

theorem embedsReadably (relaxed : world.RelaxedTo other) {outer inner : MapId}
    (step : EmbedsReadably world.maps outer inner) : EmbedsReadably other.maps outer inner := by
  obtain ⟨nonzero, map, member, named, embedded⟩ := step
  obtain ⟨new, present, relaxedMap⟩ := relaxed.maps map member
  exact ⟨nonzero, new, present, relaxedMap.id.trans named, relaxedMap.mem_readableEmbedded embedded⟩

theorem exists_known (relaxed : world.RelaxedTo other) (known : world.Known tree map) :
    ∃ new, other.Known tree new ∧ map.RelaxedTo new := by
  obtain ⟨member, root, start, way⟩ := known
  obtain ⟨new, present, relaxedMap⟩ := relaxed.maps map member
  refine ⟨new, ⟨present, root, start, ?_⟩, relaxedMap⟩
  rw [relaxedMap.id]
  exact ReflTransGen.mono (fun _ _ step => relaxed.embeds step) _ _ way

theorem exists_inScope (relaxed : world.RelaxedTo other) (within : world.InScope tree item map) :
    ∃ new, other.InScope tree item new ∧ map.RelaxedTo new := by
  obtain ⟨member, root, nonzero, linked, way⟩ := within
  obtain ⟨new, present, relaxedMap⟩ := relaxed.maps map member
  refine ⟨new, ⟨present, root, nonzero, linked, ?_⟩, relaxedMap⟩
  rw [relaxedMap.id]
  exact ReflTransGen.mono (fun _ _ step => relaxed.embedsReadably step) _ _ way

/-- If a tree leads to any map, the least severity that matters does not rise. -/
theorem leastFloor_le (relaxed : world.RelaxedTo other) (known : world.Known tree map)
    (floor : world.LeastFloor tree least) (otherFloor : other.LeastFloor tree otherLeast) :
    otherLeast ≤ least := by
  rcases floor with ⟨⟨lowest, knownLowest, rfl⟩, _⟩ | ⟨nothing, _⟩
  · obtain ⟨new, knownNew, relaxedMap⟩ := relaxed.exists_known knownLowest
    exact Nat.le_trans (otherFloor.le knownNew) relaxedMap.severityFloor
  · exact absurd known (nothing map)

end RelaxedTo

theorem Shows.relax (shows : world.Shows least map trigger) (relaxed : map.RelaxedTo new) :
    world.Shows least new trigger := by
  rcases shows with ⟨element, placed, readable, stands⟩ | ⟨link, placed, readable, carried⟩
  · obtain ⟨raisedElement, placedNow, raised⟩ := relaxed.elements.exists_of_mem placed
    refine .inl ⟨raisedElement, placedNow, raised.permission.isReadable readable, ?_⟩
    rw [raised.target]
    exact stands
  · obtain ⟨raisedLink, placedNow, raised⟩ := relaxed.links.exists_of_mem placed
    refine .inr ⟨raisedLink, placedNow, raised.permission.isReadable readable, ?_⟩
    rw [raised.triggers]
    exact carried

/-- What a map counts its relaxed form counts as well. -/
theorem Counts.relax (counts : world.Counts least map trigger severity) (relaxed : map.RelaxedTo new) :
    world.Counts least new trigger severity := by
  obtain ⟨shows, gravest, visible, unacknowledged⟩ := counts
  exact ⟨shows.relax relaxed, gravest, Nat.le_trans relaxed.severityFloor visible,
    fun only => unacknowledged (relaxed.unacknowledgedOnly only)⟩

end World

/-- When a world is relaxed, no slot of any item's bucket becomes smaller. -/
theorem countProblems_le_of_relaxedTo {world other : World} (relaxed : world.RelaxedTo other)
    {feeds otherFeeds : Feeds (Except FeedFault)} (answered : world.AnsweredBy feeds)
    (otherAnswered : other.AnsweredBy otherFeeds) (items : List Item) :
    ∃ tally otherTally,
      countProblems feeds (Tree.ofItems items) = .ok tally ∧
      countProblems otherFeeds (Tree.ofItems items) = .ok otherTally ∧
      ∀ item ∈ (Tree.ofItems items).items, ∃ bucket otherBucket,
        tally.buckets[item.id]? = some bucket ∧ otherTally.buckets[item.id]? = some otherBucket ∧
        ∀ severity, bucket.get severity ≤ otherBucket.get severity := by
  obtain ⟨atlas, ledger, counted, informed⟩ := exists_informed answered items
  obtain ⟨otherAtlas, otherLedger, otherCounted, otherInformed⟩ := exists_informed otherAnswered items
  obtain ⟨least, floor⟩ := informed.exists_leastFloor
  obtain ⟨otherLeast, otherFloor⟩ := otherInformed.exists_leastFloor
  refine ⟨_, _, counted, otherCounted, fun item member =>
    ⟨_, _, informed.getElem?_ofTree member, otherInformed.getElem?_ofTree member, ?_⟩⟩
  refine informed.get_ofItem_le floor member otherInformed otherFloor member ?_
  intro map trigger severity within counts
  obtain ⟨new, withinNow, relaxedMap⟩ := relaxed.exists_inScope within
  have below : otherLeast ≤ least := relaxed.leastFloor_le (within.known member) floor otherFloor
  have countsNow : world.Counts otherLeast new trigger severity := (counts.relax relaxedMap).lower below
  exact ⟨new, withinNow, relaxed.toSameRecords.counts_eq ▸ countsNow⟩

/-- The world `shielded` with all of its rules relaxed: the first map counts from a lower severity and
acknowledged problems too, may show the second map, and carries a link; a third map has come. -/
def unshielded : World where
  maps := [
    ⟨⟨3⟩, "", .notClassified, false, [⟨.map ⟨1⟩, .read⟩], [], ∅⟩,
    ⟨⟨1⟩, "", .information, false, [⟨.host ⟨7⟩, .read⟩, ⟨.map ⟨2⟩, .readWrite⟩, ⟨.map ⟨3⟩, .read⟩],
      [⟨[⟨5⟩], .read⟩], ∅⟩,
    ⟨⟨2⟩, "", .high, false, [⟨.triggers [⟨4⟩], .read⟩], [], ∅⟩]
  triggers := shielded.triggers
  problems := shielded.problems
  distinct := by decide

theorem shielded_relaxedTo_unshielded : shielded.RelaxedTo unshielded := by
  refine ⟨⟨rfl, rfl⟩, fun map member => ?_⟩
  rcases List.mem_cons.mp member with rfl | member
  · refine ⟨unshielded.maps[1], List.getElem_mem _, rfl, by decide, by decide, ?elements, ?links⟩
    case elements =>
      refine ⟨[⟨.host ⟨7⟩, .read⟩, ⟨.map ⟨2⟩, .readWrite⟩], ?_, [⟨.map ⟨3⟩, .read⟩], rfl⟩
      exact .cons ⟨rfl, .inl rfl⟩ (.cons ⟨rfl, .inr ⟨rfl, rfl⟩⟩ .nil)
    case links => exact ⟨[], .nil, List.nil_prefix⟩
  · obtain rfl := List.mem_singleton.mp member
    refine ⟨unshielded.maps[2], List.getElem_mem _, rfl, by decide, by decide, ?elements, ?links⟩
    case elements => exact ⟨_, .cons ⟨rfl, .inl rfl⟩ .nil, List.prefix_rfl⟩
    case links => exact ⟨[], .nil, List.nil_prefix⟩

/-- The item on top comes to count the trigger of the second map beside that of the host. -/
theorem countProblems_le_of_relaxedTo_unshielded :
    shielded.RelaxedTo unshielded ∧ ∃ tally otherTally bucket otherBucket,
      countProblems shielded.feeds (Tree.ofItems circling) = .ok tally ∧
      countProblems unshielded.feeds (Tree.ofItems circling) = .ok otherTally ∧
      tally.buckets[(⟨1⟩ : ItemId)]? = some bucket ∧ otherTally.buckets[(⟨1⟩ : ItemId)]? = some otherBucket ∧
      bucket.get .disaster = 1 ∧ otherBucket.get .disaster = 2 ∧
      ∀ severity, bucket.get severity ≤ otherBucket.get severity := by
  obtain ⟨tally, otherTally, counted, otherCounted, grows⟩ := countProblems_le_of_relaxedTo
    shielded_relaxedTo_unshielded shielded.answeredBy_feeds unshielded.answeredBy_feeds circling
  let top : Item := ⟨⟨1⟩, "", .zero, .zero, {⟨1⟩}⟩
  have member : top ∈ (Tree.ofItems circling).items := by decide +kernel
  obtain ⟨bucket, otherBucket, found, otherFound, bound⟩ := grows top member
  have shown : (countProblems shielded.feeds (Tree.ofItems circling)).toOption.map
      (fun tally => tally.buckets[top.id]?.map (·.get .disaster)) = some (some 1) := by
    decide +kernel
  have otherShown : (countProblems unshielded.feeds (Tree.ofItems circling)).toOption.map
      (fun tally => tally.buckets[top.id]?.map (·.get .disaster)) = some (some 2) := by
    decide +kernel
  rw [counted] at shown
  rw [otherCounted] at otherShown
  simp only [Except.toOption, Option.map_some, found, otherFound, Option.some.injEq] at shown otherShown
  exact ⟨shielded_relaxedTo_unshielded, tally, otherTally, bucket, otherBucket, counted, otherCounted, found,
    otherFound, shown, otherShown, bound⟩

end ProblemBoard
