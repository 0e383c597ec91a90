import ProblemBoard.Ledger
import ProblemBoard.Proofs.World

/-! # What the ledger knows

Feeds that answer from a world leave in the ledger, behind every group and host that was referred to,
the triggers with an admitted record there. Every trigger on record stands as its live problems say:
a standing counts problems and remembers the gravest, and problems come in only for triggers that are
eligible.
-/

namespace ProblemBoard

namespace TriggerQuery

@[simp] theorem groups_default : (default : TriggerQuery).groups = ∅ := rfl

@[simp] theorem hosts_default : (default : TriggerQuery).hosts = ∅ := rfl

@[simp] theorem triggers_default : (default : TriggerQuery).triggers = ∅ := rfl

/-- A query wants the records that pass its two filters and that one of its sets names. -/
theorem wants_iff {query : TriggerQuery} {trigger : Trigger} :
    query.wants trigger = true ↔
      query.minSeverity ≤ trigger.severity ∧
      (query.skipDependent = true → trigger.suppressed = false) ∧
      (trigger.id ∈ query.triggers ∨ (∃ host ∈ trigger.hosts, host ∈ query.hosts) ∨
        ∃ group ∈ trigger.groups, group ∈ query.groups) := by
  simp only [wants, names, Bool.and_eq_true, Bool.or_eq_true, Bool.not_eq_true', Bool.and_eq_false_iff,
    decide_eq_true_eq, any_eq_true_iff, Std.ExtTreeSet.contains_iff_mem, or_assoc, and_assoc]
  cases query.skipDependent <;> simp

end TriggerQuery

namespace Standing

/-- A standing sums up the problems that have been recorded. -/
theorem foldl_record_clear (trigger : TriggerId) (problems : List Problem) :
    problems.foldl record (clear trigger) =
      ⟨trigger, (problems.map Problem.severity).max?, problems.length,
        problems.countP (!·.acknowledged)⟩ := by
  induction problems using List.reverseRecOn with
  | nil => rfl
  | append_singleton problems problem ih =>
    let before : Standing := ⟨trigger, (problems.map Problem.severity).max?, problems.length,
      problems.countP (!·.acknowledged)⟩
    have gravest : ((problems ++ [problem]).map Problem.severity).max? =
        (before.record problem).severity := by
      cases problems with
      | nil => rfl
      | cons first rest =>
        simp only [before, record, List.cons_append, List.map_cons, List.map_append, List.map_nil,
          List.max?_cons', List.foldl_append, List.foldl_cons, List.foldl_nil]
    rw [List.foldl_concat, ih, gravest, List.length_append, List.countP_append]
    cases acknowledged : problem.acknowledged <;> simp [before, record, acknowledged]

end Standing

namespace Ledger

section Steps

variable {ledger : Ledger} {group otherGroup : GroupId} {host otherHost : HostId}
  {trigger other : TriggerId} {problem : Problem}

@[simp] theorem standing_track : (ledger.track trigger).standing other = ledger.standing other := by
  rw [standing, track, Std.ExtTreeMap.getD_insert]
  split
  · next same => rw [Std.compare_eq_iff_eq.mp same]
  · rfl

theorem mem_standings_track :
    other ∈ (ledger.track trigger).standings ↔ other ∈ ledger.standings ∨ other = trigger := by
  rw [track, Std.ExtTreeMap.mem_insert, Std.compare_eq_iff_eq, or_comm, eq_comm]

@[simp] theorem standing_addToGroup :
    (ledger.addToGroup group trigger).standing other = ledger.standing other := standing_track

@[simp] theorem standing_addToHost :
    (ledger.addToHost host trigger).standing other = ledger.standing other := standing_track

theorem mem_ofGroup_addToGroup : other ∈ (ledger.addToGroup group trigger).ofGroup otherGroup ↔
    other ∈ ledger.ofGroup otherGroup ∨ group = otherGroup ∧ other = trigger :=
  mem_getD_insert_insert

theorem mem_ofHost_addToHost : other ∈ (ledger.addToHost host trigger).ofHost otherHost ↔
    other ∈ ledger.ofHost otherHost ∨ host = otherHost ∧ other = trigger :=
  mem_getD_insert_insert

theorem standing_record : (ledger.record problem).standing trigger =
    if problem.trigger = trigger then (ledger.standing trigger).record problem
    else ledger.standing trigger := by
  rw [standing, record, Std.ExtTreeMap.getD_insert]
  simp only [Std.compare_eq_iff_eq]
  split
  · next same => rw [same]
  · rfl

theorem mem_standings_record : trigger ∈ (ledger.record problem).standings ↔
    trigger ∈ ledger.standings ∨ trigger = problem.trigger := by
  rw [record, Std.ExtTreeMap.mem_insert, Std.compare_eq_iff_eq, or_comm, eq_comm]

/-- After some problems, a trigger stands as it does after its own. -/
theorem standing_foldl_record {problems : List Problem} : (problems.foldl record ledger).standing trigger =
    (problems.filter (·.trigger = trigger)).foldl Standing.record (ledger.standing trigger) := by
  induction problems generalizing ledger with
  | nil => rfl
  | cons problem rest ih =>
    rw [List.foldl_cons, ih, standing_record]
    by_cases own : problem.trigger = trigger <;> simp [own]

section Owners

variable {entity : Entity} (step : Ledger → Ident entity → TriggerId → Ledger) {answer : List Trigger}
  {owners : Trigger → IdSet entity} {wanted : IdSet entity}

/-- When an answer holds the admitted records of some wanted owners, and a step is taken for each such
record and owner, then what steps can only add to is added up over the owners. -/
theorem foldl_owners_iff {world : World} {least : Severity}
    (members : ∀ record, record ∈ answer ↔
      world.Admits least record ∧ ∃ owner ∈ owners record, owner ∈ wanted)
    (holds : Ledger → Prop) {adds : Ident entity → TriggerId → Prop}
    (each : ∀ ledger owner trigger, holds (step ledger owner trigger) ↔ holds ledger ∨ adds owner trigger) :
    holds (answer.foldl (fun ledger trigger =>
        (owners trigger ∩ wanted).toList.foldl (step · · trigger.id) ledger) ledger) ↔
      holds ledger ∨ ∃ owner ∈ wanted, ∃ record,
        world.Admits least record ∧ owner ∈ owners record ∧ adds owner record.id := by
  have along (ledger : Ledger) (record : Trigger) :
      holds ((owners record ∩ wanted).toList.foldl (step · · record.id) ledger) ↔
        holds ledger ∨ ∃ owner ∈ owners record, owner ∈ wanted ∧ adds owner record.id := by
    rw [foldl_iff _ holds fun ledger owner => each ledger owner record.id]
    simp only [Std.ExtTreeSet.mem_toList, Std.ExtTreeSet.mem_inter_iff, and_assoc]
  rw [foldl_iff _ holds along]
  apply or_congr_right
  constructor
  · rintro ⟨record, member, owner, within, want, added⟩
    exact ⟨owner, want, record, ((members record).mp member).1, within, added⟩
  · rintro ⟨owner, want, record, admitted, within, added⟩
    exact ⟨record, (members record).mpr ⟨admitted, owner, within, want⟩, owner, within, want, added⟩

theorem foldl_owners_keeps {β : Type} (view : Ledger → β)
    (each : ∀ ledger owner trigger, view (step ledger owner trigger) = view ledger) :
    view (answer.foldl (fun ledger trigger =>
        (owners trigger ∩ wanted).toList.foldl (step · · trigger.id) ledger) ledger) = view ledger :=
  foldl_keeps _ view fun _ trigger => foldl_keeps _ view fun ledger owner => each ledger owner trigger.id

end Owners

end Steps

/-- What a ledger lists, as long as no problem has been recorded. -/
structure Lists (ledger : Ledger) (inGroup : GroupId → TriggerId → Prop)
    (onHost : HostId → TriggerId → Prop) (tracks : TriggerId → Prop) : Prop where
  ofGroup : ∀ group trigger, trigger ∈ ledger.ofGroup group ↔ inGroup group trigger
  ofHost : ∀ host trigger, trigger ∈ ledger.ofHost host ↔ onHost host trigger
  tracked : ∀ trigger, trigger ∈ ledger.standings ↔ tracks trigger
  clear : ∀ trigger, ledger.standing trigger = .clear trigger

theorem lists_empty : empty.Lists (fun _ _ => False) (fun _ _ => False) fun _ => False := by
  constructor <;> simp [empty, ofGroup, ofHost, standing]

section Gather

variable {world : World} {feeds : Feeds (Except FeedFault)} (references : References) {ledger : Ledger}
  {inGroup : GroupId → TriggerId → Prop} {onHost : HostId → TriggerId → Prop} {tracks : TriggerId → Prop}

/-- Asking for groups brings the triggers that the groups stand for. -/
theorem gatherGroups_ok (answered : world.AnsweredBy feeds) (lists : ledger.Lists inGroup onHost tracks) :
    ∃ gathered, gatherGroups feeds references ledger = .ok gathered ∧
      gathered.Lists
        (fun group trigger => inGroup group trigger ∨
          group ∈ references.groups ∧ world.StandsFor references.minSeverity (.group group) trigger)
        onHost
        (fun trigger => tracks trigger ∨
          ∃ group ∈ references.groups, world.StandsFor references.minSeverity (.group group) trigger) := by
  rw [gatherGroups]
  split
  · next nothing =>
    rw [Std.ExtTreeSet.isEmpty_iff] at nothing
    exact ⟨ledger, rfl, by simpa [nothing] using lists⟩
  · obtain ⟨answer, given, members⟩ := answered.triggers
      { (default : TriggerQuery) with
        groups := references.groups
        minSeverity := references.minSeverity
        skipDependent := true }
    have admitted (record : Trigger) : record ∈ answer ↔
        world.Admits references.minSeverity record ∧
          ∃ group ∈ record.groups, group ∈ references.groups := by
      rw [members, TriggerQuery.wants_iff]
      simp [World.Admits, and_assoc]
    rw [given]
    refine ⟨_, rfl, ?_, ?_, ?_, ?_⟩
    · intro group trigger
      rw [foldl_owners_iff addToGroup admitted (trigger ∈ ·.ofGroup group)
        fun _ _ _ => mem_ofGroup_addToGroup, lists.ofGroup]
      apply or_congr_right
      constructor
      · rintro ⟨_, referenced, record, admitted, within, rfl, rfl⟩
        exact ⟨referenced, record, admitted, rfl, within⟩
      · rintro ⟨referenced, record, admitted, rfl, within⟩
        exact ⟨group, referenced, record, admitted, within, rfl, rfl⟩
    · intro host trigger
      rw [foldl_owners_keeps addToGroup (·.ofHost host) fun _ _ _ => rfl]
      exact lists.ofHost host trigger
    · intro trigger
      rw [foldl_owners_iff addToGroup admitted (trigger ∈ ·.standings)
        fun _ _ _ => mem_standings_track, lists.tracked]
      refine or_congr_right (exists_congr fun group => and_congr_right fun _ => ?_)
      constructor
      · rintro ⟨record, admitted, within, rfl⟩
        exact ⟨record, admitted, rfl, within⟩
      · rintro ⟨record, admitted, rfl, within⟩
        exact ⟨record, admitted, within, rfl⟩
    · intro trigger
      rw [foldl_owners_keeps addToGroup (·.standing trigger) fun _ _ _ => standing_addToGroup]
      exact lists.clear trigger

/-- Asking for hosts brings the triggers that the hosts stand for. -/
theorem gatherHosts_ok (answered : world.AnsweredBy feeds) (lists : ledger.Lists inGroup onHost tracks) :
    ∃ gathered, gatherHosts feeds references ledger = .ok gathered ∧
      gathered.Lists
        inGroup
        (fun host trigger => onHost host trigger ∨
          host ∈ references.hosts ∧ world.StandsFor references.minSeverity (.host host) trigger)
        (fun trigger => tracks trigger ∨
          ∃ host ∈ references.hosts, world.StandsFor references.minSeverity (.host host) trigger) := by
  rw [gatherHosts]
  split
  · next nothing =>
    rw [Std.ExtTreeSet.isEmpty_iff] at nothing
    exact ⟨ledger, rfl, by simpa [nothing] using lists⟩
  · obtain ⟨answer, given, members⟩ := answered.triggers
      { (default : TriggerQuery) with
        hosts := references.hosts
        minSeverity := references.minSeverity
        skipDependent := true }
    have admitted (record : Trigger) : record ∈ answer ↔
        world.Admits references.minSeverity record ∧
          ∃ host ∈ record.hosts, host ∈ references.hosts := by
      rw [members, TriggerQuery.wants_iff]
      simp [World.Admits, and_assoc]
    rw [given]
    refine ⟨_, rfl, ?_, ?_, ?_, ?_⟩
    · intro group trigger
      rw [foldl_owners_keeps addToHost (·.ofGroup group) fun _ _ _ => rfl]
      exact lists.ofGroup group trigger
    · intro host trigger
      rw [foldl_owners_iff addToHost admitted (trigger ∈ ·.ofHost host)
        fun _ _ _ => mem_ofHost_addToHost, lists.ofHost]
      apply or_congr_right
      constructor
      · rintro ⟨_, referenced, record, admitted, within, rfl, rfl⟩
        exact ⟨referenced, record, admitted, rfl, within⟩
      · rintro ⟨referenced, record, admitted, rfl, within⟩
        exact ⟨host, referenced, record, admitted, within, rfl, rfl⟩
    · intro trigger
      rw [foldl_owners_iff addToHost admitted (trigger ∈ ·.standings)
        fun _ _ _ => mem_standings_track, lists.tracked]
      refine or_congr_right (exists_congr fun host => and_congr_right fun _ => ?_)
      constructor
      · rintro ⟨record, admitted, within, rfl⟩
        exact ⟨record, admitted, rfl, within⟩
      · rintro ⟨record, admitted, rfl, within⟩
        exact ⟨record, admitted, within, rfl⟩
    · intro trigger
      rw [foldl_owners_keeps addToHost (·.standing trigger) fun _ _ _ => standing_addToHost]
      exact lists.clear trigger

/-- Asking for problems records those of the eligible triggers. -/
theorem gatherProblems_ok (answered : world.AnsweredBy feeds) (eligible : IdSet .trigger) :
    ∃ problems : List Problem,
      gatherProblems feeds references eligible ledger = .ok (problems.foldl record ledger) ∧
      ∀ problem, problem ∈ problems ↔ problem ∈ world.problems ∧ problem.trigger ∈ eligible ∧
        references.minSeverity ≤ problem.severity := by
  rw [gatherProblems]
  split
  · next nothing =>
    rw [Std.ExtTreeSet.isEmpty_iff] at nothing
    exact ⟨[], rfl, by simp [nothing]⟩
  · obtain ⟨answer, given, members⟩ := answered.problems ⟨eligible, references.minSeverity⟩
    rw [given]
    refine ⟨_, rfl, fun problem => ?_⟩
    simp only [List.mem_filter, members, ProblemQuery.wants, Bool.and_eq_true, decide_eq_true_eq,
      Std.ExtTreeSet.contains_iff_mem]
    constructor
    · rintro ⟨⟨member, _, grave⟩, raised⟩
      exact ⟨member, raised, grave⟩
    · rintro ⟨member, raised, grave⟩
      exact ⟨⟨member, raised, grave⟩, raised⟩

/-- What a ledger holds that has been gathered for some references from a world. -/
structure Reflects (ledger : Ledger) (world : World) (references : References) : Prop where
  ofGroup : ∀ group trigger, trigger ∈ ledger.ofGroup group ↔
    group ∈ references.groups ∧ world.StandsFor references.minSeverity (.group group) trigger
  ofHost : ∀ host trigger, trigger ∈ ledger.ofHost host ↔
    host ∈ references.hosts ∧ world.StandsFor references.minSeverity (.host host) trigger
  tracked : ∀ trigger, trigger ∈ references.triggers ∨
    (∃ group ∈ references.groups, world.StandsFor references.minSeverity (.group group) trigger) ∨
    (∃ host ∈ references.hosts, world.StandsFor references.minSeverity (.host host) trigger) →
      trigger ∈ ledger.standings
  gravest : ∀ trigger ∈ ledger.standings, ∀ severity,
    (ledger.standing trigger).severity = some severity ↔
      world.Gravest references.minSeverity trigger severity
  unacknowledged : ∀ trigger ∈ ledger.standings,
    0 < (ledger.standing trigger).unacknowledged ↔ world.Unacknowledged references.minSeverity trigger

/-- A trigger without a standing of its own comes to stand as its live problems say. -/
theorem standing_of_live {problems : List Problem} {trigger : TriggerId} {least : Severity}
    (clear : ledger.standing trigger = .clear trigger)
    (live : ∀ problem, problem ∈ problems ∧ problem.trigger = trigger ↔ world.Live least trigger problem) :
    (∀ severity, ((problems.foldl record ledger).standing trigger).severity = some severity ↔
      world.Gravest least trigger severity) ∧
    (0 < ((problems.foldl record ledger).standing trigger).unacknowledged ↔
      world.Unacknowledged least trigger) := by
  rw [standing_foldl_record, clear, Standing.foldl_record_clear]
  constructor
  · intro severity
    rw [List.max?_eq_some_iff, World.Gravest, IsGreatest, upperBounds]
    simp only [← live, List.mem_map, List.mem_filter, decide_eq_true_eq, Set.mem_ofPred_eq]
  · simp only [World.Unacknowledged, ← live, List.countP_pos_iff, List.mem_filter, decide_eq_true_eq,
      Bool.not_eq_true']

theorem foldl_track (lists : ledger.Lists inGroup onHost tracks) (triggers : List TriggerId) :
    (triggers.foldl track ledger).Lists inGroup onHost
      fun trigger => tracks trigger ∨ trigger ∈ triggers := by
  constructor
  case ofGroup =>
    intro group trigger
    rw [foldl_keeps track (·.ofGroup group) fun _ _ => rfl]
    exact lists.ofGroup group trigger
  case ofHost =>
    intro host trigger
    rw [foldl_keeps track (·.ofHost host) fun _ _ => rfl]
    exact lists.ofHost host trigger
  case tracked =>
    intro trigger
    rw [foldl_iff track (trigger ∈ ·.standings) fun _ _ => mem_standings_track, lists.tracked]
    simp
  case clear =>
    intro trigger
    rw [foldl_keeps track (·.standing trigger) fun _ _ => standing_track]
    exact lists.clear trigger

theorem mem_tracked {trigger : TriggerId} : trigger ∈ ledger.tracked ↔ trigger ∈ ledger.standings := by
  simp [tracked]

/-- Asking for the triggers on record once more brings the live problems of all of them. -/
theorem gatherTracked_ok (answered : world.AnsweredBy feeds) (ledger : Ledger) :
    ∃ problems : List Problem,
      (if ledger.standings.isEmpty then pure ledger
        else do
          let answer ← feeds.triggers
            { (default : TriggerQuery) with
              triggers := ledger.tracked
              minSeverity := references.minSeverity
              skipDependent := true }
          gatherProblems feeds references (.ofList (answer.map Trigger.id)) ledger) =
        .ok (problems.foldl record ledger) ∧
      ∀ problem, problem ∈ problems ↔ problem.trigger ∈ ledger.standings ∧
        world.Live references.minSeverity problem.trigger problem := by
  split
  · next nothing =>
    rw [Std.ExtTreeMap.isEmpty_iff] at nothing
    exact ⟨[], rfl, by simp [nothing]⟩
  · obtain ⟨answer, given, members⟩ := answered.triggers
      { (default : TriggerQuery) with
        triggers := ledger.tracked
        minSeverity := references.minSeverity
        skipDependent := true }
    have eligible (trigger : TriggerId) : trigger ∈ Std.ExtTreeSet.ofList (answer.map Trigger.id) ↔
        trigger ∈ ledger.standings ∧ world.Eligible references.minSeverity trigger := by
      simp only [Std.ExtTreeSet.mem_ofList, List.contains_iff_mem, List.mem_map, members,
        TriggerQuery.wants_iff, mem_tracked]
      constructor
      · rintro ⟨record, ⟨member, grave, calm, named⟩, rfl⟩
        refine ⟨?_, record, ⟨member, grave, calm trivial⟩, rfl⟩
        simpa using named
      · rintro ⟨tracked, record, ⟨member, grave, calm⟩, rfl⟩
        exact ⟨record, ⟨member, grave, fun _ => calm, .inl tracked⟩, rfl⟩
    obtain ⟨problems, recorded, live⟩ :=
      gatherProblems_ok references answered (.ofList (answer.map Trigger.id))
    rw [given]
    refine ⟨problems, recorded, fun problem => ?_⟩
    rw [live, eligible]
    constructor
    · rintro ⟨member, ⟨tracked, eligible⟩, grave⟩
      exact ⟨tracked, eligible, member, rfl, grave⟩
    · rintro ⟨tracked, eligible, member, _, grave⟩
      exact ⟨member, ⟨tracked, eligible⟩, grave⟩

/-- Gathering succeeds on feeds that answer from a world, and the ledger reflects the world. -/
theorem gather_ok (answered : world.AnsweredBy feeds) :
    ∃ ledger, gather feeds references = .ok ledger ∧ ledger.Reflects world references := by
  obtain ⟨grouped, askedGroups, listsGroups⟩ := gatherGroups_ok references answered lists_empty
  obtain ⟨hosted, askedHosts, listsHosts⟩ := gatherHosts_ok references answered listsGroups
  have lists := foldl_track listsHosts references.triggers.toList
  obtain ⟨problems, askedTracked, live⟩ :=
    gatherTracked_ok references answered (references.triggers.toList.foldl track hosted)
  refine ⟨problems.foldl record (references.triggers.toList.foldl track hosted), ?success, ?reflects⟩
  case success =>
    rw [gather, askedGroups]
    change (gatherHosts feeds references grouped >>= _) = _
    rw [askedHosts]
    exact askedTracked
  case reflects =>
    generalize references.triggers.toList.foldl track hosted = ledger at lists live
    have same (trigger : TriggerId) :
        trigger ∈ (problems.foldl record ledger).standings ↔ trigger ∈ ledger.standings := by
      rw [foldl_iff record (trigger ∈ ·.standings) fun _ _ => mem_standings_record, or_iff_left_iff_imp]
      rintro ⟨problem, member, rfl⟩
      exact ((live problem).mp member).1
    have own (trigger : TriggerId) (tracked : trigger ∈ (problems.foldl record ledger).standings)
        (problem : Problem) : problem ∈ problems ∧ problem.trigger = trigger ↔
          world.Live references.minSeverity trigger problem := by
      rw [same] at tracked
      rw [live]
      constructor
      · rintro ⟨⟨_, alive⟩, rfl⟩
        exact alive
      · intro alive
        obtain rfl := alive.2.2.1
        exact ⟨⟨tracked, alive⟩, rfl⟩
    have stands (trigger : TriggerId) (tracked : trigger ∈ (problems.foldl record ledger).standings) :=
      standing_of_live (lists.clear trigger) (own trigger tracked)
    constructor
    case ofGroup =>
      intro group trigger
      rw [foldl_keeps record (·.ofGroup group) fun _ _ => rfl, lists.ofGroup, false_or]
    case ofHost =>
      intro host trigger
      rw [foldl_keeps record (·.ofHost host) fun _ _ => rfl, lists.ofHost, false_or]
    case tracked =>
      intro trigger named
      rw [same, lists.tracked, Std.ExtTreeSet.mem_toList, false_or]
      exact named.symm
    case gravest => exact fun trigger tracked => (stands trigger tracked).1
    case unacknowledged => exact fun trigger tracked => (stands trigger tracked).2

end Gather

end Ledger

end ProblemBoard
