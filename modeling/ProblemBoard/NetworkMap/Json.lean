import ProblemBoard.Severity.Json

/-! # Network maps in JSON

An element is told apart by its member `kind`. Unlike other records it is read as a whole before its
fields are looked at, so that a fault in its text, or in its kind, comes before all others.
-/

namespace ProblemBoard

open Json (Node Quoted)

def Ident.toJson {entity : Entity} (id : Ident entity) : Json := .nat id.toNat

def IdSet.toJson {entity : Entity} (ids : IdSet entity) : Json := .array (ids.toList.map Ident.toJson)

def Permission.toJson (permission : Permission) : Json := .nat permission.level

namespace Element

/-- The kind of a target, the name of the field that holds what it stands for, and that field. -/
def targetMembers : Target → String × String × Json
  | .group id => ("host_group_ref", "group_id", id.toJson)
  | .host id => ("host_ref", "host_id", id.toJson)
  | .triggers ids => ("trigger_ref", "trigger_ids", .array (ids.map Ident.toJson))
  | .map id => ("map_ref", "map_id", id.toJson)

def toJson (element : Element) : Json :=
  let (kind, name, value) := targetMembers element.target
  .object [("kind", .string kind), (name, value), ("permission", element.permission.toJson)]

/-- The fields of an element of some kind. -/
def fieldsOf? (kind : String) : Option (Fields Element) :=
  let withTarget (target : Fields Target) : Fields Element :=
    Element.mk <$> target <*> .required "permission" .permission
  match kind with
  | "host_group_ref" => some (withTarget (Target.group <$> .required "group_id" .ident))
  | "host_ref" => some (withTarget (Target.host <$> .required "host_id" .ident))
  | "trigger_ref" => some (withTarget (Target.triggers <$> .required "trigger_ids" (.list .ident)))
  | "map_ref" => some (withTarget (Target.map <$> .required "map_id" .ident))
  | _ => none

def isKind (member : Quoted × Node) : Bool := member.1.text? == some "kind"

/-- The kind that a node names. -/
def kind? : Node → Option (Fields Element)
  | .string quoted => quoted.text?.bind fieldsOf?
  | _ => none

/-- Reads an element from an object with exactly one kind, or from an array that begins with it. -/
def decoder : Decoder Element := fun depth node =>
  if (Json.ofNode? depth node).isNone then .error .malformed
  else
    match node with
    | .object members closed =>
        match members.filter isKind with
        | [(_, kind)] =>
            (kind? kind).elim (.error .malformed) fun fields =>
              fields.ofMembers (depth + 1) (members.filter (!isKind ·)) closed
        | _ => .error .malformed
    | .array (kind :: items) closed =>
        (kind? kind).elim (.error .malformed) (·.ofItems (depth + 1) items closed)
    | _ => .error .malformed

end Element

namespace Link

def toJson (link : Link) : Json :=
  .object [("triggers", .array (link.triggers.map fun id => .object [("trigger_id", id.toJson)])),
    ("permission", link.permission.toJson)]

/-- A trigger of a link is a record of its own. -/
def triggerFields : Fields TriggerId := .required "trigger_id" .ident

def fields : Fields Link :=
  Link.mk <$> .required "triggers" (.list triggerFields.decoder) <*>
    .required "permission" .permission

end Link

namespace NetworkMap

/-- Nested maps are written only if there are any. -/
def toJson (map : NetworkMap) : Json :=
  .object ([("map_id", map.id.toJson), ("name", .string map.name),
    ("severity_floor", map.severityFloor.toJson),
    ("show_unacknowledged_only", .bool map.unacknowledgedOnly),
    ("elements", .array (map.elements.map Element.toJson)),
    ("links", .array (map.links.map Link.toJson))] ++
    if map.submaps.isEmpty then [] else [("submap_ids", map.submaps.toJson)])

def fields : Fields NetworkMap :=
  NetworkMap.mk <$> .required "map_id" .ident <*> .optional "name" .string "" <*>
    .optional "severity_floor" .severity .notClassified <*>
    .optional "show_unacknowledged_only" .bool false <*>
    .optional "elements" (.list Element.decoder) [] <*>
    .optional "links" (.list Link.fields.decoder) [] <*> .optional "submap_ids" .idSet ∅

def decoder : Decoder NetworkMap := fields.decoder

end NetworkMap

end ProblemBoard
