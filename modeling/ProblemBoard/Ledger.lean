import ProblemBoard.Atlas
import ProblemBoard.Query
import ProblemBoard.Severity.Bucket

/-! # The ledger of triggers and their problems

What the maps of an atlas refer to decides which triggers and problems have to be fetched. The
ledger keeps what came: which triggers stand behind each host group and each host, and how every
trigger stands, that is, how many open problems it has, how many of them nobody has acknowledged, and
the gravest.

A board is drawn from one answer of a store, and for that the counts are plain numbers: to fill a
counter, the answer would have to hold billions of problems. A ledger that is written entry by entry may
well get there. Its counters are 32 bits wide, and beyond that either the program stops or a counter
starts again at zero.
-/

namespace ProblemBoard

/-- Everything that some maps refer to. -/
structure References where
  groups : IdSet .group
  hosts : IdSet .host
  /-- The triggers named by elements and links. -/
  triggers : IdSet .trigger
  /-- The lowest severity that any of the maps counts. -/
  minSeverity : Severity
  deriving DecidableEq

namespace References

/-- The references of a list of maps. Permissions make no difference here. -/
def ofMaps (maps : List NetworkMap) : References :=
  let targets := (maps.flatMap NetworkMap.elements).map Element.target
  let links := maps.flatMap NetworkMap.links
  { groups := .ofList (targets.filterMap fun
      | .group id => some id
      | _ => none)
    hosts := .ofList (targets.filterMap fun
      | .host id => some id
      | _ => none)
    triggers := .ofList (links.flatMap Link.triggers ++ targets.flatMap fun
      | .triggers ids => ids
      | _ => [])
    minSeverity := ((maps.map NetworkMap.severityFloor).min?).getD .notClassified }

end References

/-- How a trigger stands. -/
structure Standing where
  trigger : TriggerId
  /-- The gravest severity among the open problems, if there is any problem. -/
  severity : Option Severity
  problems : Nat
  unacknowledged : Nat
  deriving DecidableEq, Repr

namespace Standing

/-- The standing of a trigger without problems. -/
def clear (trigger : TriggerId) : Standing := ⟨trigger, none, 0, 0⟩

/-- The standing with one more open problem. -/
def record (standing : Standing) (problem : Problem) : Standing where
  trigger := standing.trigger
  severity := some (match standing.severity with
    | some gravest => max gravest problem.severity
    | none => problem.severity)
  problems := standing.problems + 1
  unacknowledged := standing.unacknowledged + if problem.acknowledged then 0 else 1

def isUnacknowledged (standing : Standing) : Bool := decide (0 < standing.unacknowledged)

/-- The severity at which the trigger counts on a map with the given display rules. -/
def visibleSeverity (standing : Standing) (floor : Severity) (unacknowledgedOnly : Bool) :
    Option Severity :=
  standing.severity.filter fun severity =>
    decide (floor ≤ severity) && (!unacknowledgedOnly || standing.isUnacknowledged)

end Standing

/-- The triggers behind host groups and hosts, and how each trigger stands. -/
structure Ledger where
  byGroup : Std.ExtTreeMap GroupId (IdSet .trigger)
  byHost : Std.ExtTreeMap HostId (IdSet .trigger)
  standings : Std.ExtTreeMap TriggerId Standing
  deriving DecidableEq

namespace Ledger

def empty : Ledger := ⟨∅, ∅, ∅⟩

/-- How a trigger stands; one never heard of has no problems. -/
def standing (ledger : Ledger) (trigger : TriggerId) : Standing :=
  ledger.standings.getD trigger (.clear trigger)

/-- Take note of a trigger. -/
def track (ledger : Ledger) (trigger : TriggerId) : Ledger :=
  { ledger with standings := ledger.standings.insert trigger (ledger.standing trigger) }

/-- The triggers behind a host group. -/
def ofGroup (ledger : Ledger) (group : GroupId) : IdSet .trigger := ledger.byGroup.getD group ∅

/-- The triggers behind a host. -/
def ofHost (ledger : Ledger) (host : HostId) : IdSet .trigger := ledger.byHost.getD host ∅

def addToGroup (ledger : Ledger) (group : GroupId) (trigger : TriggerId) : Ledger :=
  { ledger.track trigger with
    byGroup := ledger.byGroup.insert group ((ledger.ofGroup group).insert trigger) }

def addToHost (ledger : Ledger) (host : HostId) (trigger : TriggerId) : Ledger :=
  { ledger.track trigger with
    byHost := ledger.byHost.insert host ((ledger.ofHost host).insert trigger) }

/-- Take note of an open problem. -/
def record (ledger : Ledger) (problem : Problem) : Ledger :=
  { ledger with
    standings := ledger.standings.insert problem.trigger
      ((ledger.standing problem.trigger).record problem) }

/-- The triggers that a map element stands for; an embedded map stands for none. -/
def behind (ledger : Ledger) : Target → List TriggerId
  | .group id => (ledger.ofGroup id).toList
  | .host id => (ledger.ofHost id).toList
  | .triggers ids => ids
  | .map _ => []

/-- Every trigger the ledger has taken note of. -/
def tracked (ledger : Ledger) : IdSet .trigger := .ofList ledger.standings.keys

section Gather

variable {m : Type → Type} [Monad m]

/-- Ask which triggers belong to the referenced host groups. -/
def gatherGroups (feeds : Feeds m) (references : References) (ledger : Ledger) : m Ledger :=
  if references.groups.isEmpty then pure ledger
  else do
    let answer ← feeds.triggers
      { (default : TriggerQuery) with
        groups := references.groups
        minSeverity := references.minSeverity
        skipDependent := true }
    pure (answer.foldl (fun ledger trigger =>
      (trigger.groups ∩ references.groups).toList.foldl (·.addToGroup · trigger.id) ledger) ledger)

/-- Ask which triggers watch the referenced hosts. -/
def gatherHosts (feeds : Feeds m) (references : References) (ledger : Ledger) : m Ledger :=
  if references.hosts.isEmpty then pure ledger
  else do
    let answer ← feeds.triggers
      { (default : TriggerQuery) with
        hosts := references.hosts
        minSeverity := references.minSeverity
        skipDependent := true }
    pure (answer.foldl (fun ledger trigger =>
      (trigger.hosts ∩ references.hosts).toList.foldl (·.addToHost · trigger.id) ledger) ledger)

/-- Ask for the open problems of the eligible triggers. -/
def gatherProblems (feeds : Feeds m) (references : References) (eligible : IdSet .trigger)
    (ledger : Ledger) : m Ledger :=
  if eligible.isEmpty then pure ledger
  else do
    let answer ← feeds.problems ⟨eligible, references.minSeverity⟩
    pure ((answer.filter (eligible.contains ·.trigger)).foldl record ledger)

/-- Fetch everything that the references need. All triggers, also those that maps name directly,
are asked for once more by identifier, so that one rule on severity and dependency holds for them
all; only the problems of those that come back are recorded. -/
def gather (feeds : Feeds m) (references : References) : m Ledger := do
  let ledger ← gatherGroups feeds references empty
  let ledger ← gatherHosts feeds references ledger
  let ledger := references.triggers.toList.foldl track ledger
  if ledger.standings.isEmpty then pure ledger
  else do
    let answer ← feeds.triggers
      { (default : TriggerQuery) with
        triggers := ledger.tracked
        minSeverity := references.minSeverity
        skipDependent := true }
    gatherProblems feeds references (.ofList (answer.map Trigger.id)) ledger

end Gather

end Ledger

end ProblemBoard
