import ProblemBoard.Proofs.Counting
import ProblemBoard.Proofs.Gathering
import ProblemBoard.Proofs.Results

/-! # How counts depend on the problems that are recorded

Counting asks for maps and triggers before it asks for problems, once, and records them in a ledger that is
blank until then. So two sets of feeds that differ in problems only lead to one atlas and one blank ledger,
and their counts can be compared by the problems that they give. With more problems a trigger that was
counted is counted still, perhaps for something graver. With the same problems, of which more are
acknowledged, no trigger is counted in another slot than before, and none is lost except on maps that show
only what nobody has acknowledged.
-/

namespace ProblemBoard

open Navigation

namespace Bucket

theorem total_add (bucket : Bucket) (severity : Severity) (count : Nat) :
    (bucket.add severity count).total = bucket.total + count := by
  cases severity <;> simp [add, total, Levels.toList, Severity.all, Levels.get_set] <;> omega

theorem total_ofList (severities : List Severity) : (ofList severities).total = severities.length := by
  have from_bucket (start : Bucket) :
      (severities.foldl (fun bucket other => bucket.add other 1) start).total =
        start.total + severities.length := by
    induction severities generalizing start with
    | nil => rfl
    | cons severity rest ih =>
      rw [List.foldl_cons, ih, total_add, List.length_cons]
      omega
  simpa [ofList, total, Levels.toList, Severity.all] using from_bucket empty

end Bucket

namespace Tally

variable {scope : IdSet .map} {atlas : Atlas} {ledger other : Ledger}

/-- A bucket counts every trigger that is counted once. -/
theorem total_ofScope_eq_length : (ofScope scope atlas ledger).total = (counted scope atlas ledger).keys.length := by
  rw [ofScope, Bucket.total_ofList, values_eq_map_toList, List.length_map,
    ← Std.ExtTreeMap.map_fst_toList_eq_keys, List.length_map]

/-- A scope counts at least as many triggers if each trigger is counted still, in whatever slot. -/
theorem total_ofScope_le
    (counted : ∀ (map : NetworkMap) (trigger : TriggerId) (severity : Severity),
      map.Counts ledger trigger severity → ∃ graver, map.Counts other trigger graver) :
    (ofScope scope atlas ledger).total ≤ (ofScope scope atlas other).total := by
  have subset : (Tally.counted scope atlas ledger).keys ⊆ (Tally.counted scope atlas other).keys := by
    intro trigger member
    rw [Std.ExtTreeMap.mem_keys, mem_iff_exists_getElem?] at member ⊢
    obtain ⟨severity, found⟩ := member
    obtain ⟨id, within, map, filed, counts⟩ := getElem?_counted.mp found
    obtain ⟨graver, counts⟩ := counted map trigger severity counts
    exact ⟨graver, getElem?_counted.mpr ⟨id, within, map, filed, counts⟩⟩
  rw [total_ofScope_eq_length, total_ofScope_eq_length]
  exact (Std.ExtTreeMap.nodup_keys.subperm subset).length_le

/-- The total of a bucket is the number of triggers that some map of the scope counts. -/
theorem total_ofScope : ((ofScope scope atlas ledger).total : ENat) = Set.encard {trigger | ∃ severity,
    ∃ id ∈ scope, ∃ map, atlas.maps[id]? = some map ∧ map.Counts ledger trigger severity} := by
  have listed : {trigger | ∃ severity, ∃ id ∈ scope, ∃ map,
      atlas.maps[id]? = some map ∧ map.Counts ledger trigger severity} =
        ((counted scope atlas ledger).keys.toFinset : Set TriggerId) := by
    ext trigger
    simp only [← getElem?_counted, ← mem_iff_exists_getElem?, Set.mem_ofPred_eq, List.coe_toFinset,
      Std.ExtTreeMap.mem_keys]
  rw [listed, Set.encard_coe_eq_coe_finsetCard, List.toFinset_card_of_nodup Std.ExtTreeMap.nodup_keys,
    total_ofScope_eq_length]

end Tally

/-- The gravest severity among the problems of a trigger. -/
def GravestOf (problems : List Problem) (trigger : TriggerId) (severity : Severity) : Prop :=
  (∃ problem ∈ problems, problem.trigger = trigger ∧ problem.severity = severity) ∧
    ∀ problem ∈ problems, problem.trigger = trigger → problem.severity ≤ severity

namespace Ledger

/-- No trigger stands with any problem. -/
def Blank (ledger : Ledger) : Prop := ∀ trigger, ledger.standing trigger = .clear trigger

section Standings

variable {ledger : Ledger} {problems : List Problem} {trigger : TriggerId} {severity : Severity}

theorem Blank.standing_foldl_record (blank : ledger.Blank) :
    (problems.foldl record ledger).standing trigger =
      ⟨trigger, ((problems.filter (·.trigger = trigger)).map Problem.severity).max?,
        (problems.filter (·.trigger = trigger)).length,
        (problems.filter (·.trigger = trigger)).countP (!·.acknowledged)⟩ := by
  rw [Ledger.standing_foldl_record, blank, Standing.foldl_record_clear]

theorem Blank.severity_eq_some_iff (blank : ledger.Blank) :
    ((problems.foldl record ledger).standing trigger).severity = some severity ↔
      GravestOf problems trigger severity := by
  rw [blank.standing_foldl_record, List.max?_eq_some_iff, GravestOf]
  simp only [List.mem_map, List.mem_filter, decide_eq_true_eq, and_assoc, forall_exists_index, and_imp]
  refine and_congr_right fun _ => ⟨fun bound problem member raised => bound _ problem member raised rfl, ?_⟩
  rintro bound _ problem member raised rfl
  exact bound problem member raised

theorem Blank.unacknowledged_pos_iff (blank : ledger.Blank) :
    0 < ((problems.foldl record ledger).standing trigger).unacknowledged ↔
      ∃ problem ∈ problems, problem.trigger = trigger ∧ problem.acknowledged = false := by
  rw [blank.standing_foldl_record]
  simp [List.countP_pos_iff, and_assoc]

theorem Blank.exists_severity (blank : ledger.Blank) {problem : Problem} (member : problem ∈ problems) :
    ∃ gravest, ((problems.foldl record ledger).standing problem.trigger).severity = some gravest := by
  rw [blank.standing_foldl_record, ← Option.isSome_iff_exists, List.isSome_max?_iff]
  exact List.ne_nil_of_mem (List.mem_map_of_mem (List.mem_filter.mpr ⟨member, decide_eq_true rfl⟩))

/-- Problems do not bring triggers to a map. -/
theorem shown_foldl_record (map : NetworkMap) :
    map.shown (problems.foldl record ledger) = map.shown ledger := by
  have groups : (problems.foldl record ledger).byGroup = ledger.byGroup :=
    foldl_keeps record byGroup fun _ _ => rfl
  have hosts : (problems.foldl record ledger).byHost = ledger.byHost := foldl_keeps record byHost fun _ _ => rfl
  have behind : (problems.foldl record ledger).behind = ledger.behind := by
    funext target
    cases target <;> simp only [Ledger.behind, ofGroup, ofHost, groups, hosts]
  rw [NetworkMap.shown, NetworkMap.shown, behind]

end Standings

end Ledger

section Comparison

variable {ledger : Ledger} {before after : List Problem} {map : NetworkMap} {trigger : TriggerId}
  {severity : Severity}

theorem Ledger.Blank.counts_iff (blank : ledger.Blank) :
    map.Counts (before.foldl Ledger.record ledger) trigger severity ↔
      trigger ∈ map.shown ledger ∧ GravestOf before trigger severity ∧ map.severityFloor ≤ severity ∧
        (map.unacknowledgedOnly = true →
          ∃ problem ∈ before, problem.trigger = trigger ∧ problem.acknowledged = false) := by
  rw [NetworkMap.Counts, Ledger.shown_foldl_record, Standing.visibleSeverity_eq_some_iff,
    blank.severity_eq_some_iff, blank.unacknowledged_pos_iff]

/-- With more problems a trigger is counted still. -/
theorem Ledger.Blank.counts_of_subset (blank : ledger.Blank) (subset : before ⊆ after)
    (counts : map.Counts (before.foldl Ledger.record ledger) trigger severity) :
    ∃ graver, map.Counts (after.foldl Ledger.record ledger) trigger graver := by
  obtain ⟨shown, ⟨⟨problem, member, rfl, rfl⟩, _⟩, visible, unacknowledged⟩ := blank.counts_iff.mp counts
  obtain ⟨graver, stands⟩ := blank.exists_severity (subset member)
  have gravest := blank.severity_eq_some_iff.mp stands
  have above : problem.severity ≤ graver := gravest.2 problem (subset member) rfl
  refine ⟨graver, blank.counts_iff.mpr ⟨shown, gravest, Nat.le_trans visible above, fun only => ?_⟩⟩
  obtain ⟨other, there, raised, pending⟩ := unacknowledged only
  exact ⟨other, subset there, raised, pending⟩

/-- The problems are the same as before, except that more of them may be acknowledged. -/
structure Calmed (before after : List Problem) : Prop where
  earlier : ∀ problem ∈ after, ∃ prior ∈ before, prior.trigger = problem.trigger ∧
    prior.severity = problem.severity ∧ (problem.acknowledged = false → prior.acknowledged = false)
  later : ∀ prior ∈ before, ∃ problem ∈ after,
    problem.trigger = prior.trigger ∧ problem.severity = prior.severity

namespace Calmed

theorem filter (calmed : Calmed before after) (asked : TriggerId → Severity → Bool) :
    Calmed (before.filter fun problem => asked problem.trigger problem.severity)
      (after.filter fun problem => asked problem.trigger problem.severity) where
  earlier problem member := by
    obtain ⟨member, wanted⟩ := List.mem_filter.mp member
    obtain ⟨prior, there, raised, grave, pending⟩ := calmed.earlier problem member
    rw [← raised, ← grave] at wanted
    exact ⟨prior, List.mem_filter.mpr ⟨there, wanted⟩, raised, grave, pending⟩
  later prior member := by
    obtain ⟨member, wanted⟩ := List.mem_filter.mp member
    obtain ⟨problem, there, raised, grave⟩ := calmed.later prior member
    rw [← raised, ← grave] at wanted
    exact ⟨problem, List.mem_filter.mpr ⟨there, wanted⟩, raised, grave⟩

theorem gravestOf_iff (calmed : Calmed before after) :
    GravestOf after trigger severity ↔ GravestOf before trigger severity := by
  constructor
  · rintro ⟨⟨problem, member, rfl, rfl⟩, bound⟩
    obtain ⟨prior, there, raised, grave, _⟩ := calmed.earlier problem member
    refine ⟨⟨prior, there, raised, grave⟩, fun other present raised => ?_⟩
    obtain ⟨later, present, same, level⟩ := calmed.later other present
    exact level ▸ bound later present (same.trans raised)
  · rintro ⟨⟨prior, member, rfl, rfl⟩, bound⟩
    obtain ⟨problem, there, raised, grave⟩ := calmed.later prior member
    refine ⟨⟨problem, there, raised, grave⟩, fun other present raised => ?_⟩
    obtain ⟨prior, present, same, level, _⟩ := calmed.earlier other present
    exact level ▸ bound prior present (same.trans raised)

/-- What is counted of calmed problems was counted before, in the same slot. -/
theorem counts (calmed : Calmed before after) (blank : ledger.Blank)
    (counts : map.Counts (after.foldl Ledger.record ledger) trigger severity) :
    map.Counts (before.foldl Ledger.record ledger) trigger severity := by
  obtain ⟨shown, gravest, visible, unacknowledged⟩ := blank.counts_iff.mp counts
  refine blank.counts_iff.mpr ⟨shown, calmed.gravestOf_iff.mp gravest, visible, fun only => ?_⟩
  obtain ⟨problem, member, rfl, pending⟩ := unacknowledged only
  obtain ⟨prior, there, raised, _, open_before⟩ := calmed.earlier problem member
  exact ⟨prior, there, raised, open_before pending⟩

/-- A map on which acknowledged problems count, counts what it counted before. -/
theorem counts_iff (calmed : Calmed before after) (blank : ledger.Blank)
    (tolerant : map.unacknowledgedOnly = false) :
    map.Counts (after.foldl Ledger.record ledger) trigger severity ↔
      map.Counts (before.foldl Ledger.record ledger) trigger severity := by
  rw [blank.counts_iff, blank.counts_iff, calmed.gravestOf_iff]
  simp [tolerant]

end Calmed

end Comparison

namespace Ledger

section Preparation

variable {m : Type → Type} [Monad m] (feeds : Feeds m) (references : References)

/-- Gather what the references need except for problems, and tell the triggers whose problems matter. -/
def prepare : m (Ledger × IdSet .trigger) := do
  let ledger ← gatherGroups feeds references empty
  let ledger ← gatherHosts feeds references ledger
  let ledger := references.triggers.toList.foldl track ledger
  if ledger.standings.isEmpty then pure (ledger, ∅)
  else do
    let answer ← feeds.triggers
      { (default : TriggerQuery) with
        triggers := ledger.tracked
        minSeverity := references.minSeverity
        skipDependent := true }
    pure (ledger, .ofList (answer.map Trigger.id))

/-- The problems that matter. -/
def relevant (eligible : IdSet .trigger) : m (List Problem) := do
  if eligible.isEmpty then pure []
  else do
    let answer ← feeds.problems ⟨eligible, references.minSeverity⟩
    pure (answer.filter (eligible.contains ·.trigger))

/-- Problems are asked for last, and then recorded. -/
theorem gather_eq [LawfulMonad m] : gather feeds references = (do
    let (ledger, eligible) ← prepare feeds references
    let problems ← relevant feeds references eligible
    pure (problems.foldl record ledger)) := by
  have asked (ledger : Ledger) (eligible : IdSet .trigger) :
      gatherProblems feeds references eligible ledger =
        (do
          let problems ← relevant feeds references eligible
          pure (problems.foldl record ledger)) := by
    rw [gatherProblems, relevant]
    split <;> simp
  simp only [gather, prepare, bind_assoc]
  refine bind_congr fun grouped => bind_congr fun hosted => ?_
  split
  · simp [relevant]
  · simp [asked]

end Preparation

section Blankness

variable {feeds : Feeds (Except FeedFault)} {references : References} {ledger : Ledger}

theorem blank_empty : empty.Blank := by
  intro trigger
  simp [standing, empty]

theorem Blank.gatherGroups (blank : ledger.Blank) {gathered : Ledger}
    (success : Ledger.gatherGroups feeds references ledger = .ok gathered) : gathered.Blank := by
  rw [Ledger.gatherGroups] at success
  split at success
  · cases success
    exact blank
  · obtain ⟨answer, _, success⟩ := exists_ok_of_bind success
    cases success
    intro trigger
    rw [foldl_owners_keeps addToGroup (·.standing trigger) fun _ _ _ => standing_addToGroup, blank]

theorem Blank.gatherHosts (blank : ledger.Blank) {gathered : Ledger}
    (success : Ledger.gatherHosts feeds references ledger = .ok gathered) : gathered.Blank := by
  rw [Ledger.gatherHosts] at success
  split at success
  · cases success
    exact blank
  · obtain ⟨answer, _, success⟩ := exists_ok_of_bind success
    cases success
    intro trigger
    rw [foldl_owners_keeps addToHost (·.standing trigger) fun _ _ _ => standing_addToHost, blank]

/-- Nothing is recorded before problems are asked for. -/
theorem blank_of_prepare {eligible : IdSet .trigger}
    (prepared : prepare feeds references = .ok (ledger, eligible)) : ledger.Blank := by
  obtain ⟨grouped, groups, prepared⟩ := exists_ok_of_bind prepared
  obtain ⟨hosted, hosts, prepared⟩ := exists_ok_of_bind prepared
  have blank : (references.triggers.toList.foldl track hosted).Blank := by
    intro trigger
    rw [foldl_keeps track (·.standing trigger) fun _ _ => standing_track]
    exact (blank_empty.gatherGroups groups).gatherHosts hosts trigger
  simp only at prepared
  split at prepared
  · cases prepared
    exact blank
  · obtain ⟨answer, _, prepared⟩ := exists_ok_of_bind prepared
    cases prepared
    exact blank

end Blankness

end Ledger

namespace Feeds

/-- The other feeds give the same maps and triggers, and related problems wherever these feeds give any. -/
structure Shifts (related : List Problem → List Problem → Prop) (feeds other : Feeds (Except FeedFault)) :
    Prop where
  maps : other.maps = feeds.maps
  triggers : other.triggers = feeds.triggers
  problems : ∀ query answer, feeds.problems query = .ok answer →
    ∃ changed, other.problems query = .ok changed ∧ related answer changed

/-- The feeds count the problems of an item in a bucket. -/
def CountIn (feeds : Feeds (Except FeedFault)) (tree : Tree) (item : Item) (bucket : Bucket) : Prop :=
  ∃ tally, countProblems feeds tree = .ok tally ∧ tally.buckets[item.id]? = some bucket

instance (feeds : Feeds (Except FeedFault)) (tree : Tree) (item : Item) (bucket : Bucket) :
    Decidable (feeds.CountIn tree item bucket) :=
  decidable_of_iff ((countProblems feeds tree).toOption.bind (·.buckets[item.id]?) = some bucket) <| by
    rw [CountIn]
    cases countProblems feeds tree <;> simp [Except.toOption]

/-- No map in the scope of the item leaves out problems that have been acknowledged. -/
def CountAcknowledged (feeds : Feeds (Except FeedFault)) (tree : Tree) (item : Item) : Prop :=
  ∀ atlas, Atlas.discover feeds.maps tree.referencedMaps = .ok atlas →
    ∀ id ∈ atlas.expandScope item.scopeRoots, ∀ map, atlas.maps[id]? = some map → map.unacknowledgedOnly = false

variable {related : List Problem → List Problem → Prop} {feeds other : Feeds (Except FeedFault)} {tree : Tree}
  {item : Item} {bucket : Bucket}

/-- Counting on both feeds finds one atlas and one blank ledger, and records related problems. -/
theorem Shifts.exists_countProblems (shifts : feeds.Shifts related other) (nothing : related [] [])
    (filtered : ∀ {before after} (asked : TriggerId → Bool), related before after →
      related (before.filter (asked ·.trigger)) (after.filter (asked ·.trigger)))
    {tally : Tally} (counted : countProblems feeds tree = .ok tally) :
    ∃ atlas ledger before after, Atlas.discover feeds.maps tree.referencedMaps = .ok atlas ∧ ledger.Blank ∧
      related before after ∧
      tally = ⟨Tally.ofTree tree atlas (before.foldl Ledger.record ledger), atlas.accessible⟩ ∧
      countProblems other tree =
        .ok ⟨Tally.ofTree tree atlas (after.foldl Ledger.record ledger), atlas.accessible⟩ := by
  obtain ⟨atlas, discovered, counted⟩ := exists_ok_of_bind counted
  obtain ⟨whole, gathered, counted⟩ := exists_ok_of_bind counted
  cases counted
  rw [Ledger.gather_eq] at gathered
  obtain ⟨⟨ledger, eligible⟩, prepared, gathered⟩ := exists_ok_of_bind gathered
  obtain ⟨before, mattered, gathered⟩ := exists_ok_of_bind gathered
  cases gathered
  have prepared_alike (references : References) :
      Ledger.prepare other references = Ledger.prepare feeds references := by
    obtain ⟨maps, triggers, problems⟩ := feeds
    obtain ⟨otherMaps, otherTriggers, otherProblems⟩ := other
    obtain ⟨rfl, rfl, _⟩ := shifts
    rfl
  obtain ⟨after, matters, relates⟩ : ∃ after,
      Ledger.relevant other (.ofMaps atlas.maps.values) eligible = .ok after ∧ related before after := by
    by_cases none_eligible : eligible.isEmpty = true
    · rw [Ledger.relevant, if_pos none_eligible] at mattered ⊢
      cases mattered
      exact ⟨[], rfl, nothing⟩
    · rw [Ledger.relevant, if_neg none_eligible] at mattered ⊢
      obtain ⟨answer, given, mattered⟩ := exists_ok_of_bind mattered
      cases mattered
      obtain ⟨changed, given, relates⟩ := shifts.problems _ answer given
      rw [given]
      exact ⟨_, rfl, filtered (eligible.contains ·) relates⟩
  refine ⟨atlas, ledger, before, after, discovered, Ledger.blank_of_prepare prepared, relates, rfl, ?_⟩
  rw [countProblems, shifts.maps, discovered]
  change (Ledger.gather other (.ofMaps atlas.maps.values) >>= _) = _
  rw [Ledger.gather_eq, prepared_alike, prepared]
  change ((Ledger.relevant other (.ofMaps atlas.maps.values) eligible >>= _) >>= _) = _
  rw [matters]
  rfl

/-- Feeds that differ in how often they give a problem, and in what order, lead to one count. -/
theorem Shifts.countProblems_eq
    (shifts : feeds.Shifts (fun before after => ∀ problem, problem ∈ before ↔ problem ∈ after) other)
    {tally : Tally} (counted : countProblems feeds tree = .ok tally) : countProblems other tree = .ok tally := by
  obtain ⟨atlas, ledger, before, after, _, blank, same, rfl, recounted⟩ :=
    shifts.exists_countProblems (fun _ => Iff.rfl) (fun asked same problem => by simp [same]) counted
  have counts (map : NetworkMap) (trigger : TriggerId) (severity : Severity) :
      map.Counts (after.foldl Ledger.record ledger) trigger severity ↔
        map.Counts (before.foldl Ledger.record ledger) trigger severity := by
    simp only [blank.counts_iff, GravestOf, same]
  rw [recounted]
  congr 2
  refine Tally.ofTree_congr fun item _ => Tally.ofScope_congr fun trigger severity => ?_
  simp only [counts]

variable (distinct : (tree.items.map Item.id).Nodup) (member : item ∈ tree.items)

include distinct member

/-- An item's bucket on both feeds is that of one atlas and one blank ledger with related problems. -/
theorem CountIn.exists_recount (count : feeds.CountIn tree item bucket) (shifts : feeds.Shifts related other)
    (nothing : related [] [])
    (filtered : ∀ {before after} (asked : TriggerId → Bool), related before after →
      related (before.filter (asked ·.trigger)) (after.filter (asked ·.trigger))) :
    ∃ atlas ledger before after, Atlas.discover feeds.maps tree.referencedMaps = .ok atlas ∧ ledger.Blank ∧
      related before after ∧ bucket = Tally.ofItem atlas (before.foldl Ledger.record ledger) item ∧
      other.CountIn tree item (Tally.ofItem atlas (after.foldl Ledger.record ledger) item) := by
  obtain ⟨tally, counted, found⟩ := count
  obtain ⟨atlas, ledger, before, after, discovered, blank, relates, rfl, recounted⟩ :=
    shifts.exists_countProblems nothing filtered counted
  rw [Tally.getElem?_ofTree_of_mem distinct member] at found
  exact ⟨atlas, ledger, before, after, discovered, blank, relates, (Option.some.inj found).symm, _, recounted,
    Tally.getElem?_ofTree_of_mem distinct member⟩

/-- With more problems, an item counts at least as many triggers. -/
theorem CountIn.grow (count : feeds.CountIn tree item bucket) (shifts : feeds.Shifts (· ⊆ ·) other) :
    ∃ after, other.CountIn tree item after ∧ bucket.total ≤ after.total := by
  obtain ⟨atlas, ledger, before, after, _, blank, subset, rfl, recount⟩ :=
    count.exists_recount distinct member shifts (List.Subset.refl _) fun _ => List.filter_subset _
  exact ⟨_, recount, Tally.total_ofScope_le fun _ _ _ => blank.counts_of_subset subset⟩

/-- With fewer problems, an item counts at most as many triggers. -/
theorem CountIn.shrink (count : feeds.CountIn tree item bucket)
    (shifts : feeds.Shifts (fun before after => after ⊆ before) other) :
    ∃ after, other.CountIn tree item after ∧ after.total ≤ bucket.total := by
  obtain ⟨atlas, ledger, before, after, _, blank, subset, rfl, recount⟩ :=
    count.exists_recount distinct member shifts (List.Subset.refl _) fun _ => List.filter_subset _
  exact ⟨_, recount, Tally.total_ofScope_le fun _ _ _ => blank.counts_of_subset subset⟩

/-- With more problems acknowledged, no slot of an item's bucket grows, and the bucket stays as it is if
acknowledged problems count on all maps in the scope. -/
theorem CountIn.calm (count : feeds.CountIn tree item bucket) (shifts : feeds.Shifts Calmed other) :
    ∃ after, other.CountIn tree item after ∧ (∀ severity, after.get severity ≤ bucket.get severity) ∧
      (feeds.CountAcknowledged tree item → after = bucket) := by
  obtain ⟨atlas, ledger, before, after, discovered, blank, calmed, rfl, recount⟩ :=
    count.exists_recount distinct member shifts ⟨by simp, by simp⟩ fun asked calmed =>
      calmed.filter fun trigger _ => asked trigger
  refine ⟨_, recount, fun severity => ?_, fun tolerant => Tally.ofScope_congr fun trigger severity => ?_⟩
  · rw [← ENat.natCast_le_natCast, Tally.ofItem, Tally.ofItem, Tally.get_ofScope, Tally.get_ofScope]
    refine Set.encard_le_encard ?_
    rintro trigger ⟨id, within, map, found, counts⟩
    exact ⟨id, within, map, found, calmed.counts blank counts⟩
  · refine exists_congr fun id => and_congr_right fun within =>
      exists_congr fun map => and_congr_right fun found => ?_
    exact calmed.counts_iff blank (tolerant atlas discovered id within map found)

end Feeds

end ProblemBoard
