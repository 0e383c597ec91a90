import ProblemBoard.NetworkMap.Json
import ProblemBoard.Query

/-! # Triggers, problems and queries in JSON -/

namespace ProblemBoard

namespace Trigger

def toJson (trigger : Trigger) : Json :=
  .object [("trigger_id", trigger.id.toJson), ("severity", trigger.severity.toJson),
    ("host_ids", trigger.hosts.toJson), ("group_ids", trigger.groups.toJson),
    ("suppressed_by_dependency", .bool trigger.suppressed)]

def fields : Fields Trigger :=
  Trigger.mk <$> .required "trigger_id" .ident <*> .required "severity" .severity <*>
    .optional "host_ids" .idSet ∅ <*> .optional "group_ids" .idSet ∅ <*>
    .optional "suppressed_by_dependency" .bool false

def decoder : Decoder Trigger := fields.decoder

end Trigger

namespace Problem

def toJson (problem : Problem) : Json :=
  .object [("trigger_id", problem.trigger.toJson), ("severity", problem.severity.toJson),
    ("acknowledged", .bool problem.acknowledged)]

def fields : Fields Problem :=
  Problem.mk <$> .required "trigger_id" .ident <*> .required "severity" .severity <*>
    .optional "acknowledged" .bool false

def decoder : Decoder Problem := fields.decoder

end Problem

def TriggerQuery.toJson (query : TriggerQuery) : Json :=
  .object [("group_ids", query.groups.toJson), ("host_ids", query.hosts.toJson),
    ("trigger_ids", query.triggers.toJson), ("min_severity", query.minSeverity.toJson),
    ("skip_dependent", .bool query.skipDependent)]

def ProblemQuery.toJson (query : ProblemQuery) : Json :=
  .object [("trigger_ids", query.triggers.toJson), ("min_severity", query.minSeverity.toJson)]

end ProblemBoard
