import ProblemBoard.Proofs.Recording

/-! # Ledgers by their entries

A ledger is written entry by entry: a trigger behind a host group, a trigger behind a host, or an open
problem. Whatever the order of the entries, a group or a host stands for the triggers that were entered
behind it, and a trigger stands as its own problems say. The first mention of a trigger takes note of it
without a problem, and no later entry takes back a problem that came before. Entries made in another order
give the same ledger.
-/

namespace ProblemBoard

namespace Ledger

/-- One entry of a ledger. -/
inductive Entry where
  | group (group : GroupId) (trigger : TriggerId)
  | host (host : HostId) (trigger : TriggerId)
  | problem (problem : Problem)
  deriving DecidableEq

namespace Entry

def problem? : Entry → Option Problem
  | problem raised => some raised
  | group .. | host .. => none

/-- The open problems among some entries. -/
def problems (entries : List Entry) : List Problem := entries.filterMap problem?

/-- What a target stands for, according to some entries: a group or a host for the triggers entered behind
it, and triggers for themselves. -/
def StandsFor (entries : List Entry) : Target → TriggerId → Prop
  | .group id, trigger => .group id trigger ∈ entries
  | .host id, trigger => .host id trigger ∈ entries
  | .triggers ids, trigger => trigger ∈ ids
  | .map _, _ => False

/-- The trigger that an entry mentions. -/
def trigger : Entry → TriggerId
  | group _ trigger | host _ trigger => trigger
  | problem raised => raised.trigger

theorem mem_problems {entries : List Entry} {raised : Problem} :
    raised ∈ problems entries ↔ .problem raised ∈ entries := by
  rw [problems, List.mem_filterMap]
  constructor
  · rintro ⟨entry, member, raises⟩
    cases entry with
    | problem other =>
      obtain rfl := Option.some.inj raises
      exact member
    | group | host => cases raises
  · intro member
    exact ⟨_, member, rfl⟩

end Entry

/-- The ledger with one more entry. -/
def enter (ledger : Ledger) : Entry → Ledger
  | .group group trigger => ledger.addToGroup group trigger
  | .host host trigger => ledger.addToHost host trigger
  | .problem problem => ledger.record problem

/-- The ledger with some entries, made one after the other. -/
def ofEntries (entries : List Entry) : Ledger := entries.foldl enter empty

section Steps

variable {ledger : Ledger} {entry : Entry} {trigger : TriggerId}

theorem mem_ofGroup_enter {group : GroupId} : trigger ∈ (ledger.enter entry).ofGroup group ↔
    trigger ∈ ledger.ofGroup group ∨ entry = .group group trigger := by
  cases entry with
  | group id other => simp [enter, mem_ofGroup_addToGroup, eq_comm]
  | host | problem => simp [enter, addToHost, record, track, ofGroup]

theorem mem_ofHost_enter {host : HostId} : trigger ∈ (ledger.enter entry).ofHost host ↔
    trigger ∈ ledger.ofHost host ∨ entry = .host host trigger := by
  cases entry with
  | host id other => simp [enter, mem_ofHost_addToHost, eq_comm]
  | group | problem => simp [enter, addToGroup, record, track, ofHost]

/-- Only a problem changes how a trigger stands. -/
theorem standing_enter : (ledger.enter entry).standing trigger =
    (entry.problem?.toList.foldl record ledger).standing trigger := by
  cases entry with
  | group => exact standing_addToGroup
  | host => exact standing_addToHost
  | problem => rfl

end Steps

section Entries

variable {entries : List Entry} {trigger : TriggerId}

theorem ofEntries_concat (entry : Entry) :
    ofEntries (entries ++ [entry]) = (ofEntries entries).enter entry := List.foldl_concat ..

theorem mem_ofGroup_ofEntries {group : GroupId} :
    trigger ∈ (ofEntries entries).ofGroup group ↔ .group group trigger ∈ entries := by
  rw [ofEntries, foldl_iff enter (trigger ∈ ·.ofGroup group) fun _ _ => mem_ofGroup_enter]
  simp [empty, ofGroup]

theorem mem_ofHost_ofEntries {host : HostId} :
    trigger ∈ (ofEntries entries).ofHost host ↔ .host host trigger ∈ entries := by
  rw [ofEntries, foldl_iff enter (trigger ∈ ·.ofHost host) fun _ _ => mem_ofHost_enter]
  simp [empty, ofHost]

theorem mem_behind_ofEntries {target : Target} :
    trigger ∈ (ofEntries entries).behind target ↔ Entry.StandsFor entries target trigger := by
  cases target with
  | group id => rw [behind, Std.ExtTreeSet.mem_toList, mem_ofGroup_ofEntries, Entry.StandsFor]
  | host id => rw [behind, Std.ExtTreeSet.mem_toList, mem_ofHost_ofEntries, Entry.StandsFor]
  | triggers ids => exact Iff.rfl
  | map id => simp [behind, Entry.StandsFor]

/-- A trigger stands as if nothing but the problems had been entered. -/
theorem standing_ofEntries : (ofEntries entries).standing trigger =
    ((Entry.problems entries).foldl record empty).standing trigger := by
  induction entries using List.reverseRecOn with
  | nil => rfl
  | append_singleton entries entry ih =>
    have last : Entry.problems (entries ++ [entry]) = Entry.problems entries ++ entry.problem?.toList := by
      cases raised : entry.problem? <;> simp [Entry.problems, raised]
    rw [ofEntries_concat, standing_enter, last, List.foldl_append, standing_foldl_record, ih,
      ← standing_foldl_record]

/-- A trigger is visible at the severity of its gravest problem, unless that is below the floor or only
unacknowledged problems count and there is none. -/
theorem visibleSeverity_ofEntries {floor severity : Severity} {unacknowledgedOnly : Bool} :
    ((ofEntries entries).standing trigger).visibleSeverity floor unacknowledgedOnly = some severity ↔
      GravestOf (Entry.problems entries) trigger severity ∧ floor ≤ severity ∧
        (unacknowledgedOnly = true →
          ∃ problem ∈ Entry.problems entries, problem.trigger = trigger ∧ problem.acknowledged = false) := by
  rw [standing_ofEntries, Standing.visibleSeverity_eq_some_iff, blank_empty.severity_eq_some_iff,
    blank_empty.unacknowledged_pos_iff]

/-- How a trigger is visible depends on which entries were made, not on their order or number. -/
theorem visibleSeverity_ofEntries_congr {more : List Entry} (same : ∀ entry, entry ∈ entries ↔ entry ∈ more)
    (floor : Severity) (unacknowledgedOnly : Bool) :
    ((ofEntries entries).standing trigger).visibleSeverity floor unacknowledgedOnly =
      ((ofEntries more).standing trigger).visibleSeverity floor unacknowledgedOnly := by
  ext severity
  simp only [visibleSeverity_ofEntries, GravestOf, Entry.mem_problems, same]

end Entries

section Order

variable {entries more : List Entry}

end Order

end Ledger

end ProblemBoard
