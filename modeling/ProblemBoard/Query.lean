import ProblemBoard.NetworkMap

/-! # Triggers, problems and the feeds that answer for them

Maps, triggers and problems live in stores outside the board. A feed answers a query about a whole
set of identifiers at once, so that one call serves many maps or triggers; it answers in some monad,
in which it may fail, keep a record of its calls or change from call to call.
-/

namespace ProblemBoard

/-- A condition under watch, with the hosts it watches and their groups. -/
structure Trigger where
  id : TriggerId
  severity : Severity
  hosts : IdSet .host
  groups : IdSet .group
  /-- Whether a trigger that this one depends on is itself in trouble. -/
  suppressed : Bool
  deriving DecidableEq

/-- An open problem, raised by a trigger. -/
structure Problem where
  trigger : TriggerId
  severity : Severity
  acknowledged : Bool
  deriving DecidableEq, Repr

/-- Which triggers to list. The three sets are alternatives: a trigger is wanted if it is named, or
watches a named host, or belongs to a named group. -/
structure TriggerQuery where
  groups : IdSet .group
  hosts : IdSet .host
  triggers : IdSet .trigger
  minSeverity : Severity
  /-- Whether to leave out suppressed triggers. -/
  skipDependent : Bool
  deriving DecidableEq

namespace TriggerQuery

instance : Inhabited TriggerQuery := ⟨⟨∅, ∅, ∅, .notClassified, false⟩⟩

/-- Whether the query names nothing at all, and so asks for nothing. -/
def isEmpty (query : TriggerQuery) : Bool :=
  query.groups.isEmpty && query.hosts.isEmpty && query.triggers.isEmpty

/-- Whether one of the three sets names the trigger, its hosts or its groups. -/
def names (query : TriggerQuery) (trigger : Trigger) : Bool :=
  query.triggers.contains trigger.id || trigger.hosts.any (query.hosts.contains ·) ||
    trigger.groups.any (query.groups.contains ·)

/-- Whether the query wants a trigger. -/
def wants (query : TriggerQuery) (trigger : Trigger) : Bool :=
  decide (query.minSeverity ≤ trigger.severity) &&
    !(query.skipDependent && trigger.suppressed) && query.names trigger

end TriggerQuery

/-- Which problems to list: those of the named triggers, from a severity upward. -/
structure ProblemQuery where
  triggers : IdSet .trigger
  minSeverity : Severity
  deriving DecidableEq

/-- Whether the query wants a problem. -/
def ProblemQuery.wants (query : ProblemQuery) (problem : Problem) : Bool :=
  query.triggers.contains problem.trigger && decide (query.minSeverity ≤ problem.severity)

/-- The outside stores, as far as the board reads them. Maps that do not exist, or that the user may
not see, are missing from an answer. -/
structure Feeds (m : Type → Type) where
  maps : IdSet .map → m (List NetworkMap)
  triggers : TriggerQuery → m (List Trigger)
  problems : ProblemQuery → m (List Problem)

end ProblemBoard
