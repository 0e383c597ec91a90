import ProblemBoard.Navigation.Json
import ProblemBoard.Proofs.Reading
import ProblemBoard.Query.Json

/-! # Every model reads back as it was written

A record is written with all its fields, but for sets of nested maps that are empty, and the reader takes a
missing set for an empty one. What is kept for each severity is written under the severities' numbers. So the
text of a map, a navigation item, a trigger, a problem, a bucket or a configuration reads as that very model,
whatever names and identifiers it holds.
-/

namespace ProblemBoard

open Json Decimal

namespace Json

theorem toMembers_eq_map (members : List (String × Json)) :
    toMembers members = members.map fun member => (.ofText member.1, member.2.toNode) := by
  induction members with
  | nil => rfl
  | cons member rest step => rw [toMembers, step, List.map_cons]

@[simp] theorem whole_bool (value : Bool) : (bool value).Whole := trivial

end Json

theorem Ident.whole_toJson {entity : Entity} (id : Ident entity) : id.toJson.Whole :=
  whole_nat.mpr id.toNat_lt

theorem IdSet.whole_toJson {entity : Entity} (ids : IdSet entity) : (IdSet.toJson ids).Whole := by
  simp [IdSet.toJson, Ident.whole_toJson]

theorem Severity.whole_toJson (severity : Severity) : severity.toJson.Whole :=
  whole_nat.mpr (Nat.lt_trans severity.level_lt (by decide))

/-- A model is read from a JSON value, and from the text of the value in either form. -/
structure Decoder.ReadsBack {α : Type} (decoder : Decoder α) (written : Json) (model : α) : Prop where
  compact : decoder.run written.compact = .ok model
  pretty : decoder.run written.pretty = .ok model
  value : decoder.runJson written = .ok model

namespace Decoder

variable {α β : Type} {depth : Nat}

theorem run_pretty (decoder : Decoder α) {value : Json} (whole : value.Whole) :
    decoder.run value.pretty = decoder 0 value.toNode := by
  rw [run, ofText_pretty whole]
  exact bind_pure _

theorem readsBack_of_whole {decoder : Decoder α} {written : Json} {model : α} (whole : written.Whole)
    (read : decoder 0 written.toNode = .ok model) : decoder.ReadsBack written model :=
  ⟨(run_compact decoder whole).trans read, (run_pretty decoder whole).trans read, read⟩

theorem string_toNode (text : String) : Decoder.string depth (Json.string text).toNode = .ok text := by
  simp only [Decoder.string, toNode, Quoted.text?_ofText]
  rfl

theorem bool_toNode (value : Bool) : Decoder.bool depth (Json.bool value).toNode = .ok value := rfl

theorem severity_toNode (severity : Severity) :
    Decoder.severity depth severity.toJson.toNode = .ok severity := by
  have small : severity.level < 256 := Nat.lt_trans severity.level_lt (by decide)
  rw [Decoder.severity, Severity.toJson, natBelow_toNode small]
  simp only [bind, Except.bind, Severity.ofLevel?_level]
  rfl

theorem idSet_toNode {entity : Entity} (ids : IdSet entity) :
    idSet depth (IdSet.toJson ids).toNode = .ok ids := by
  have listed : (Std.ExtTreeSet.ofList ids.toList : IdSet entity) = ids := by
    ext id
    simp
  rw [idSet, map, IdSet.toJson, list_toNode fun id _ => ident_toNode id]
  exact congrArg Except.ok listed

section Keys

/-- Digits are written as they are. -/
theorem verbatim?_ofText_natText (number : Nat) :
    (Quoted.ofText (natText number)).verbatim? = some ((digits number).map digitChar) := by
  have plain : ∀ digit : Digit, Quoted.pieceOf (digitChar digit) = .plain (digitChar digit) := by decide
  have written : Quoted.ofText (natText number) = (digits number).map fun digit => .plain (digitChar digit) := by
    simp [Quoted.ofText, Quoted.ofChars, natText, plain]
  rw [written, Quoted.verbatim?]
  induction digits number with
  | nil => rfl
  | cons digit rest step => simp [step]

theorem numericKey?_natText {limit number : Nat} (bound : number < limit) :
    numericKey? limit (.ofText (natText number)) = some number := by
  have read : ((digits number).map digitChar).mapM digit? = some (digits number) := by
    induction digits number with
    | nil => rfl
    | cons digit rest step => simp [step]
  simp [numericKey?, verbatim?_ofText_natText, read, bound]

theorem severityKey_natText (severity : Severity) :
    severityKey (.ofText (natText severity.level)) = .ok severity := by
  have small : severity.level < 256 := Nat.lt_trans severity.level_lt (by decide)
  rw [severityKey, numericKey?_natText small]
  simp only [Severity.ofLevel?_level]
  rfl

theorem identKey_natText {entity : Entity} (id : Ident entity) :
    identKey (.ofText (natText id.toNat)) = .ok id := by
  rw [identKey, numericKey?_natText id.toNat_lt]
  simp [Ident.toNat, pure, Except.pure]

end Keys

/-- The members of an object are read back if each of their keys and values is. -/
theorem entries_toNode {readKey : Quoted → Except ReadFault α} {decoder : Decoder β} (writeKey : α → String)
    (write : β → Json) {values : List (α × β)}
    (keys : ∀ entry ∈ values, readKey (.ofText (writeKey entry.1)) = .ok entry.1)
    (each : ∀ entry ∈ values, decoder (depth + 1) (write entry.2).toNode = .ok entry.2) :
    entries readKey decoder depth
      (Json.object (values.map fun entry => (writeKey entry.1, write entry.2))).toNode = .ok values := by
  have read : (values.mapM fun entry => do
      let key ← readKey (.ofText (writeKey entry.1))
      let value ← decoder (depth + 1) (write entry.2).toNode
      pure (key, value)) = .ok (values.map id) :=
    mapM_eq_ok fun entry member => by
      rw [keys entry member, each entry member]
      rfl
  rw [List.map_id] at read
  rw [toNode, toMembers_eq_map, List.map_map, entries, List.mapM_map]
  simp only [Function.comp_def, read]
  rfl

/-- What is kept for each severity is read back, whatever is taken for missing levels. -/
theorem levels_toNode {decoder : Decoder α} {write : α → Json} {others levels : Levels α}
    (each : ∀ severity, decoder (depth + 1) (write (levels.get severity)).toNode = .ok (levels.get severity)) :
    Decoder.levels others decoder depth (levels.toJson write).toNode = .ok levels := by
  have keys (entry : Severity × α) (_ : entry ∈ levels.toList) :
      severityKey (.ofText (natText entry.1.level)) = .ok entry.1 := severityKey_natText entry.1
  have values (entry : Severity × α) (member : entry ∈ levels.toList) :
      decoder (depth + 1) (write entry.2).toNode = .ok entry.2 := Levels.mem_toList.mp member ▸ each entry.1
  have read := entries_toNode (fun severity : Severity => natText severity.level) write keys values
  rw [Decoder.levels, map, Levels.toJson, read]
  simp [Except.map]

end Decoder

namespace Fields

variable {α : Type} {name : String} {decoder : Decoder α} {depth : Nat} {values : FieldValues} {default : α}

@[simp] theorem names_optional : (optional name decoder default).names = [name] := rfl

theorem read_optional {node : Node} {value : α} (found : (find? name values).map Prod.snd = some node)
    (read : decoder depth node = .ok value) : (optional name decoder default).read depth values = .ok value := by
  obtain ⟨⟨place, _⟩, located, rfl⟩ := Option.map_eq_some_iff.mp found
  simp only [optional, field, located, read, mapError_ok]

/-- A missing field is what is taken for it. -/
theorem read_optional_missing (missing : find? name values = none) :
    (optional name decoder default).read depth values = .ok default := by
  simp only [optional, field, missing, mapError_ok]

end Fields

namespace Levels

theorem whole_toJson {α : Type} {write : α → Json} {levels : Levels α}
    (each : ∀ severity, (write (levels.get severity)).Whole) : (levels.toJson write).Whole := by
  rw [toJson, whole_object, List.forall_mem_map]
  intro entry member
  exact mem_toList.mp member ▸ each entry.1

end Levels

namespace NetworkMap

/-- A written map reads back, whether maps are nested in it or not. -/
theorem decoder_toNode {depth : Nat} (shallow : depth + 3 < depthLimit) (map : NetworkMap) :
    decoder depth map.toJson.toNode = .ok map := by
  have elements := Decoder.list_toNode fun element (_ : element ∈ map.elements) =>
    Element.decoder_toNode shallow element
  have links := Decoder.list_toNode fun link (_ : link ∈ map.links) => Link.decoder_toNode (depth + 2) link
  have submaps : Decoder.idSet (depth + 1) (IdSet.toJson map.submaps).toNode = .ok map.submaps :=
    Decoder.idSet_toNode map.submaps
  have front (values nested : FieldValues) (given : values =
      [("map_id", map.id.toJson.toNode), ("name", (Json.string map.name).toNode),
        ("severity_floor", map.severityFloor.toJson.toNode),
        ("show_unacknowledged_only", (Json.bool map.unacknowledgedOnly).toNode),
        ("elements", (Json.array (map.elements.map Element.toJson)).toNode),
        ("links", (Json.array (map.links.map Link.toJson)).toNode)] ++ nested)
      (last : (Fields.optional "submap_ids" .idSet ∅).read (depth + 1) values = .ok map.submaps) :
      fields.read (depth + 1) values = .ok map := by
    subst given
    simp only [fields, Fields.read_map, Fields.read_seq]
    rw [Fields.read_required (by simp [Fields.find?]) (Decoder.ident_toNode map.id),
      Fields.read_optional (by simp [Fields.find?]) (Decoder.string_toNode map.name),
      Fields.read_optional (by simp [Fields.find?]) (Decoder.severity_toNode map.severityFloor),
      Fields.read_optional (by simp [Fields.find?]) (Decoder.bool_toNode map.unacknowledgedOnly),
      Fields.read_optional (by simp [Fields.find?]) elements,
      Fields.read_optional (by simp [Fields.find?]) links, last]
    rfl
  rw [toJson, decoder]
  by_cases nothing : map.submaps.isEmpty = true
  · have missing : map.submaps = ∅ := Std.ExtTreeSet.isEmpty_iff.mp nothing
    rw [if_pos nothing]
    apply Fields.decoder_toNode
    · simp [fields]
    · simp
    · exact front _ [] rfl (missing ▸ Fields.read_optional_missing (by simp [Fields.find?]))
  · rw [if_neg nothing]
    apply Fields.decoder_toNode
    · simp [fields]
    · simp
    · exact front _ [("submap_ids", _)] rfl (Fields.read_optional (by simp [Fields.find?]) submaps)

theorem whole_toJson (map : NetworkMap) : map.toJson.Whole := by
  have nested : ∀ member ∈ (if map.submaps.isEmpty then [] else [("submap_ids", IdSet.toJson map.submaps)]),
      (member.2 : Json).Whole := by
    split <;> simp [IdSet.whole_toJson]
  rw [toJson, whole_object, List.forall_mem_append]
  refine ⟨?_, nested⟩
  simp [Ident.whole_toJson, Severity.whole_toJson, Element.whole_toJson, Link.whole_toJson]

end NetworkMap

namespace Navigation.Item

theorem decoder_toNode (depth : Nat) (item : Item) : decoder depth item.toJson.toNode = .ok item := by
  rw [toJson, decoder]
  apply Fields.decoder_toNode
  · simp [fields]
  · simp
  · simp only [fields, Fields.read_map, Fields.read_seq]
    rw [Fields.read_required (by simp [Fields.find?]) (Decoder.ident_toNode item.id),
      Fields.read_optional (by simp [Fields.find?]) (Decoder.string_toNode item.name),
      Fields.read_required (by simp [Fields.find?]) (Decoder.ident_toNode item.parent),
      Fields.read_required (by simp [Fields.find?]) (Decoder.ident_toNode item.linked),
      Fields.read_optional (by simp [Fields.find?]) (Decoder.idSet_toNode item.childMaps)]
    rfl

theorem whole_toJson (item : Item) : item.toJson.Whole := by
  simp [toJson, Ident.whole_toJson, IdSet.whole_toJson]

end Navigation.Item

namespace Trigger

theorem decoder_toNode (depth : Nat) (trigger : Trigger) : decoder depth trigger.toJson.toNode = .ok trigger := by
  rw [toJson, decoder]
  apply Fields.decoder_toNode
  · simp [fields]
  · simp
  · simp only [fields, Fields.read_map, Fields.read_seq]
    rw [Fields.read_required (by simp [Fields.find?]) (Decoder.ident_toNode trigger.id),
      Fields.read_required (by simp [Fields.find?]) (Decoder.severity_toNode trigger.severity),
      Fields.read_optional (by simp [Fields.find?]) (Decoder.idSet_toNode trigger.hosts),
      Fields.read_optional (by simp [Fields.find?]) (Decoder.idSet_toNode trigger.groups),
      Fields.read_optional (by simp [Fields.find?]) (Decoder.bool_toNode trigger.suppressed)]
    rfl

theorem whole_toJson (trigger : Trigger) : trigger.toJson.Whole := by
  simp [toJson, Ident.whole_toJson, IdSet.whole_toJson, Severity.whole_toJson]

end Trigger

namespace Problem

theorem decoder_toNode (depth : Nat) (problem : Problem) : decoder depth problem.toJson.toNode = .ok problem := by
  rw [toJson, decoder]
  apply Fields.decoder_toNode
  · simp [fields]
  · simp
  · simp only [fields, Fields.read_map, Fields.read_seq]
    rw [Fields.read_required (by simp [Fields.find?]) (Decoder.ident_toNode problem.trigger),
      Fields.read_required (by simp [Fields.find?]) (Decoder.severity_toNode problem.severity),
      Fields.read_optional (by simp [Fields.find?]) (Decoder.bool_toNode problem.acknowledged)]
    rfl

theorem whole_toJson (problem : Problem) : problem.toJson.Whole := by
  simp [toJson, Ident.whole_toJson, Severity.whole_toJson]

end Problem

namespace Bucket

/-- A bucket reads back if none of its counts is too large to be read. -/
theorem decoder_toNode (depth : Nat) {bucket : Bucket} (small : ∀ severity, bucket.get severity < countLimit) :
    decoder depth bucket.toJson.toNode = .ok bucket :=
  Decoder.levels_toNode fun severity => Decoder.natBelow_toNode (small severity)

theorem whole_toJson {bucket : Bucket} (small : ∀ severity, bucket.get severity < countLimit) :
    bucket.toJson.Whole :=
  Levels.whole_toJson fun severity => whole_nat.mpr (Nat.lt_trans (small severity) (by decide))

end Bucket

namespace SeverityConfig

theorem style_toNode (depth : Nat) (style : Style) : Style.fields.decoder depth style.toJson.toNode = .ok style := by
  rw [Style.toJson]
  apply Fields.decoder_toNode
  · simp [Style.fields]
  · simp
  · simp only [Style.fields, Fields.read_map, Fields.read_seq]
    rw [Fields.read_required (by simp [Fields.find?]) (Decoder.string_toNode style.name),
      Fields.read_required (by simp [Fields.find?]) (Decoder.string_toNode style.color)]
    rfl

theorem decoder_toNode (depth : Nat) (config : SeverityConfig) :
    decoder depth config.toJson.toNode = .ok config :=
  Decoder.levels_toNode fun severity => style_toNode (depth + 1) (config.get severity)

theorem whole_toJson (config : SeverityConfig) : config.toJson.Whole :=
  Levels.whole_toJson fun _ => by simp [Style.toJson]

end SeverityConfig

/-- Maps, navigation items, triggers, problems, buckets and configurations read back from the JSON that is
written for them: the names may hold any characters, the identifiers are any numbers of 64 bits, and the counts
of a bucket any numbers of 32 bits. -/
theorem models_read_back (map : NetworkMap) (item : Navigation.Item) (trigger : Trigger) (problem : Problem)
    (bucket : Bucket) (config : SeverityConfig) (small : ∀ severity, bucket.get severity < Bucket.countLimit) :
    NetworkMap.decoder.ReadsBack map.toJson map ∧ Navigation.Item.decoder.ReadsBack item.toJson item ∧
      Trigger.decoder.ReadsBack trigger.toJson trigger ∧ Problem.decoder.ReadsBack problem.toJson problem ∧
      Bucket.decoder.ReadsBack bucket.toJson bucket ∧
      SeverityConfig.decoder.ReadsBack config.toJson config := by
  refine ⟨?maps, ?items, ?triggers, ?problems, ?buckets, ?configs⟩
  case maps => exact Decoder.readsBack_of_whole map.whole_toJson (map.decoder_toNode (by decide))
  case items => exact Decoder.readsBack_of_whole item.whole_toJson (item.decoder_toNode 0)
  case triggers => exact Decoder.readsBack_of_whole trigger.whole_toJson (trigger.decoder_toNode 0)
  case problems => exact Decoder.readsBack_of_whole problem.whole_toJson (problem.decoder_toNode 0)
  case buckets => exact Decoder.readsBack_of_whole (Bucket.whole_toJson small) (Bucket.decoder_toNode 0 small)
  case configs =>
    exact Decoder.readsBack_of_whole (SeverityConfig.whole_toJson config) (SeverityConfig.decoder_toNode 0 config)

/-- A map whose name needs escapes, with an element of each kind, a trigger listed twice, the largest
identifier, and maps nested in it. -/
def awkward : NetworkMap :=
  ⟨⟨18446744073709551615⟩, "\"\\\n\x01é☃😀", .disaster, true,
    [⟨.triggers [⟨2⟩, ⟨1⟩, ⟨2⟩], .deny⟩, ⟨.host ⟨0⟩, .read⟩, ⟨.group ⟨18446744073709551615⟩, .readWrite⟩,
      ⟨.map ⟨7⟩, .read⟩],
    [⟨[⟨3⟩, ⟨3⟩], .deny⟩, ⟨[], .readWrite⟩], {⟨9⟩, ⟨7⟩}⟩

theorem models_read_back_awkward :
    let bucket : Bucket := ⟨0, 4294967295, 0, 1, 0, 0⟩
    (∀ severity, bucket.get severity < Bucket.countLimit) ∧
      NetworkMap.decoder.run awkward.toJson.compact = .ok awkward ∧
      Bucket.decoder.run bucket.toJson.compact = .ok bucket := by
  intro bucket
  have small : ∀ severity, bucket.get severity < Bucket.countLimit := by
    intro severity
    cases severity <;> decide
  obtain ⟨maps, _, _, _, buckets, _⟩ := models_read_back awkward ⟨⟨1⟩, "", .zero, .zero, ∅⟩
    ⟨⟨1⟩, .high, ∅, ∅, false⟩ ⟨⟨1⟩, .high, false⟩ bucket .default small
  exact ⟨small, maps.compact, buckets.compact⟩

end ProblemBoard
