import ProblemBoard.Proofs.Comparison

/-! # Counting does not depend on how feeds list their answers

The feeds of a board may list the records that answer a query in any order and any number of times. A
feed of maps may add maps that were not asked for, and a feed of problems may add problems of triggers
that were not asked for. Nothing of this reaches the counts: whatever tells two such feeds apart is lost
in the maps that are filed, in the gravest problem of a trigger and in whether any of its problems is
unacknowledged. It does not reach the batches in which maps are asked for either.
-/

namespace ProblemBoard

open Navigation

/-- The feeds with only those problems in an answer whose trigger was asked for. -/
def Feeds.withoutStrays {m : Type → Type} [Monad m] (feeds : Feeds m) : Feeds m :=
  { feeds with
    problems := fun query => (·.filter (query.triggers.contains ·.trigger)) <$> feeds.problems query }

section Strays

variable {m : Type → Type} [Monad m] [LawfulMonad m] (feeds : Feeds m)

theorem Ledger.gatherProblems_withoutStrays (references : References) (eligible : IdSet .trigger)
    (ledger : Ledger) :
    gatherProblems feeds.withoutStrays references eligible ledger =
      gatherProblems feeds references eligible ledger := by
  simp only [gatherProblems, Feeds.withoutStrays, bind_map_left, List.filter_filter, Bool.and_self]

/-- Problems of triggers that were not asked for are left out of the ledger in any case. -/
theorem countProblems_withoutStrays (tree : Tree) :
    countProblems feeds.withoutStrays tree = countProblems feeds tree := by
  have gathered (references : References) :
      Ledger.gather feeds.withoutStrays references = Ledger.gather feeds references := by
    simp only [Ledger.gather, Ledger.gatherProblems_withoutStrays]
    rfl
  simp only [countProblems, gathered]
  rfl

end Strays

namespace World

variable (world : World)

/-- The feeds supply the records of the world: of the maps, and of the problems of triggers, that were
asked for, they give those of the world, and every trigger that a query wants, in whatever order and
however often. What else comes with the maps and problems does not matter. -/
structure SuppliedBy (feeds : Feeds (Except FeedFault)) : Prop where
  maps : AnswersFrom world.maps feeds.maps
  triggers : ∀ query, ∃ answer, feeds.triggers query = .ok answer ∧
    ∀ trigger, trigger ∈ answer ↔ trigger ∈ world.triggers ∧ query.wants trigger = true
  problems : ∀ query, ∃ answer, feeds.problems query = .ok answer ∧
    ∀ problem : Problem, problem.trigger ∈ query.triggers →
      (problem ∈ answer ↔ problem ∈ world.problems ∧ query.wants problem = true)

variable {world}

theorem AnsweredBy.suppliedBy {feeds : Feeds (Except FeedFault)} (answered : world.AnsweredBy feeds) :
    world.SuppliedBy feeds where
  maps := answered.maps
  triggers := answered.triggers
  problems query := by
    obtain ⟨answer, given, members⟩ := answered.problems query
    exact ⟨answer, given, fun problem _ => members problem⟩

/-- Feeds that supply a world answer from it once stray problems are left out. -/
theorem SuppliedBy.answeredBy_withoutStrays {feeds : Feeds (Except FeedFault)}
    (supplied : world.SuppliedBy feeds) : world.AnsweredBy feeds.withoutStrays where
  maps := supplied.maps
  triggers := supplied.triggers
  problems query := by
    obtain ⟨answer, given, members⟩ := supplied.problems query
    refine ⟨answer.filter (query.triggers.contains ·.trigger), ?_, fun problem => ?_⟩
    · change (·.filter (query.triggers.contains ·.trigger)) <$> feeds.problems query = _
      rw [given]
      rfl
    · rw [List.mem_filter, Std.ExtTreeSet.contains_iff_mem]
      constructor
      · rintro ⟨member, asked⟩
        exact (members problem asked).mp member
      · rintro ⟨member, wanted⟩
        have asked : problem.trigger ∈ query.triggers := by
          simp only [ProblemQuery.wants, Bool.and_eq_true, Std.ExtTreeSet.contains_iff_mem] at wanted
          exact wanted.1
        exact ⟨(members problem asked).mpr ⟨member, wanted⟩, asked⟩

end World

namespace Atlas.Discovered

variable {table : List NetworkMap} {roots : Set MapId} {batches more : List (IdSet .map)}
  {atlas other : Atlas}

/-- The batch at each place holds what lies at that distance from the roots, in every discovery. -/
theorem getElem?_batches (discovered : Discovered table roots batches atlas)
    (alsoDiscovered : Discovered table roots more other) {place : Nat} {batch : IdSet .map}
    (found : batches[place]? = some batch) : more[place]? = some batch := by
  obtain ⟨first, member⟩ : ∃ id, id ∈ batch := by
    by_contra none_there
    refine discovered.nonempty batch (List.mem_of_getElem? found) ?_
    ext id
    simp only [Std.ExtTreeSet.not_mem_empty, iff_false]
    exact fun member => none_there ⟨id, member⟩
  obtain ⟨twin, foundThere, _⟩ :=
    (alsoDiscovered.level place first).mpr ((discovered.level place first).mp ⟨batch, found, member⟩)
  have same : batch = twin := by
    ext id
    have here := discovered.level place id
    have there := alsoDiscovered.level place id
    simp only [found, foundThere, Option.some.injEq, exists_eq_left'] at here there
    exact here.trans there.symm
  rw [foundThere, same]

theorem batches_eq (discovered : Discovered table roots batches atlas)
    (alsoDiscovered : Discovered table roots more other) : batches = more := by
  refine List.ext_getElem? fun place => ?_
  ext batch
  exact ⟨discovered.getElem?_batches alsoDiscovered, alsoDiscovered.getElem?_batches discovered⟩

/-- One table is charted in one way. -/
theorem maps_eq (distinct : (table.map NetworkMap.id).Nodup)
    (discovered : Discovered table roots batches atlas)
    (alsoDiscovered : Discovered table roots more other) : atlas.maps = other.maps := by
  refine Std.ExtTreeMap.ext_getElem? fun id => ?_
  have filed : id ∈ atlas.maps ↔ id ∈ other.maps :=
    (discovered.filed id).trans (alsoDiscovered.filed id).symm
  by_cases here : id ∈ atlas.maps
  · exact discovered.getElem?_eq distinct alsoDiscovered here (filed.mp here)
  · rw [Std.ExtTreeMap.getElem?_eq_none here, Std.ExtTreeMap.getElem?_eq_none (mt filed.mpr here)]

theorem missing_eq (discovered : Discovered table roots batches atlas)
    (alsoDiscovered : Discovered table roots more other) : atlas.missing = other.missing := by
  ext id
  exact (discovered.missing id).trans (alsoDiscovered.missing id).symm

end Atlas.Discovered

namespace Atlas

/-- Feeds that answer from one table are asked for the same batches and lead to the same atlas. -/
theorem run_discover_eq_of_answersFrom {table : List NetworkMap}
    (distinct : (table.map NetworkMap.id).Nodup)
    {feed other : IdSet .map → Except FeedFault (List NetworkMap)} (faithful : AnswersFrom table feed)
    (alsoFaithful : AnswersFrom table other) (roots : IdSet .map) :
    ∃ atlas batches, (discover (recorded feed) roots).run [] = .ok (atlas, batches) ∧
      (discover (recorded other) roots).run [] = .ok (atlas, batches) := by
  obtain ⟨answer, rfl, members⟩ := exists_answer faithful
  obtain ⟨otherAnswer, rfl, otherMembers⟩ := exists_answer alsoFaithful
  have discovered := discovered_charted distinct members roots
  have alsoDiscovered := discovered_charted distinct otherMembers roots
  have batches := discovered.batches_eq alsoDiscovered
  have same : charted answer roots = charted otherAnswer roots := by
    have maps := discovered.maps_eq distinct alsoDiscovered
    have missing := discovered.missing_eq alsoDiscovered
    have waves : (charted answer roots).waves = (charted otherAnswer roots).waves := by
      rw [discovered.waves, alsoDiscovered.waves, batches]
    rw [Atlas.mk.injEq]
    exact ⟨maps, rfl, missing, waves⟩
  refine ⟨_, _, run_discover_recorded answer roots, ?_⟩
  rw [run_discover_recorded, same, batches]

end Atlas

/-- Two sets of feeds that supply the records of one world, each in its own order, with its own
repetitions and its own surplus, lead to one count of problems, and to the same batches of maps. -/
theorem countProblems_rearranged {world : World} {feeds other : Feeds (Except FeedFault)}
    (supplied : world.SuppliedBy feeds) (alsoSupplied : world.SuppliedBy other) (items : List Item) :
    (∃ tally, countProblems feeds (Tree.ofItems items) = .ok tally ∧
      countProblems other (Tree.ofItems items) = .ok tally) ∧
    ∀ roots, ∃ atlas batches,
      (Atlas.discover (recorded feeds.maps) roots).run [] = .ok (atlas, batches) ∧
      (Atlas.discover (recorded other.maps) roots).run [] = .ok (atlas, batches) := by
  constructor
  · have answered := supplied.answeredBy_withoutStrays
    obtain ⟨atlas, ledger, counted, _⟩ := exists_informed answered items
    refine ⟨_, countProblems_withoutStrays feeds _ ▸ counted, ?_⟩
    rw [← countProblems_withoutStrays other,
      ← countProblems_eq_of_answeredBy answered alsoSupplied.answeredBy_withoutStrays, counted]
  · exact Atlas.run_discover_eq_of_answersFrom world.distinct supplied.maps alsoSupplied.maps

/-- Feeds that give every map they have and one that nobody drew, list triggers and problems back and
forth, and add a problem of a trigger that does not exist. -/
def rambling : Feeds (Except FeedFault) where
  maps ids := .ok (shielded.maps.reverse ++ shielded.maps ++
    [NetworkMap.embedding ⟨9⟩ .read [⟨1⟩]].filter (!ids.contains ·.id))
  triggers query :=
    let wanted := shielded.triggers.filter query.wants
    .ok (wanted.reverse ++ wanted)
  problems query :=
    let wanted := shielded.problems.filter query.wants
    .ok (wanted ++ wanted.reverse ++
      [⟨⟨9⟩, .disaster, false⟩].filter (!query.triggers.contains ·.trigger))

theorem suppliedBy_rambling : shielded.SuppliedBy rambling where
  maps _ := ⟨_, rfl, fun map asked => by simp [asked]⟩
  triggers _ := ⟨_, rfl, fun trigger => by simp⟩
  problems _ := ⟨_, rfl, fun problem asked => by simp [asked]⟩

/-- Every problem comes twice, and the item still counts one trigger. -/
theorem countProblems_rearranged_rambling :
    shielded.SuppliedBy rambling ∧ shielded.SuppliedBy shielded.feeds ∧
      ∃ tally bucket atlas batches,
        countProblems rambling (Tree.ofItems circling) = .ok tally ∧
        countProblems shielded.feeds (Tree.ofItems circling) = .ok tally ∧
        tally.buckets[(⟨1⟩ : ItemId)]? = some bucket ∧
        bucket.toList.map Prod.snd = [0, 0, 0, 0, 0, 1] ∧
        (Atlas.discover (recorded rambling.maps) {⟨1⟩}).run [] = .ok (atlas, batches) ∧
        (Atlas.discover (recorded shielded.feeds.maps) {⟨1⟩}).run [] = .ok (atlas, batches) ∧
        batches.map (·.toList) = [[⟨1⟩], [⟨2⟩]] := by
  have plain : shielded.SuppliedBy shielded.feeds := shielded.answeredBy_feeds.suppliedBy
  obtain ⟨⟨tally, counted, alsoCounted⟩, charted⟩ :=
    countProblems_rearranged suppliedBy_rambling plain circling
  obtain ⟨atlas, batches, run, alsoRun⟩ := charted {⟨1⟩}
  have bucket : (countProblems shielded.feeds (Tree.ofItems circling)).toOption.bind (fun tally =>
      tally.buckets[(⟨1⟩ : ItemId)]?.map fun bucket => bucket.toList.map Prod.snd) =
        some [0, 0, 0, 0, 0, 1] := by
    decide +kernel
  have asked : ((Atlas.discover (recorded shielded.feeds.maps) {⟨1⟩}).run []).toOption.map
      (·.2.map (·.toList)) = some [[⟨1⟩], [⟨2⟩]] := by
    decide +kernel
  rw [alsoCounted] at bucket
  rw [alsoRun] at asked
  obtain ⟨bucket, found, slots⟩ := Option.map_eq_some_iff.mp bucket
  exact ⟨suppliedBy_rambling, plain, tally, bucket, atlas, batches, counted, alsoCounted, found, slots, run,
    alsoRun, Option.some.inj asked⟩

end ProblemBoard
