import ProblemBoard.Proofs.Results
import ProblemBoard.Proofs.Writing
import ProblemBoard.Severity.Json
import ProblemBoard.NetworkMap.Json

/-! # Written models read back

Each decoder reads the node of what is written for a model as that model. The lemmas follow the way
decoders are put together: numbers, lists, records given by their fields, and then the elements and
links of maps, which are records of different kinds.
-/

namespace ProblemBoard

open Json

namespace Json

theorem wholeItems_iff {items : List Json} : WholeItems items ↔ ∀ value ∈ items, value.Whole := by
  induction items with
  | nil => simp [WholeItems]
  | cons value rest step => simp [WholeItems, step]

theorem wholeMembers_iff {members : List (String × Json)} :
    WholeMembers members ↔ ∀ member ∈ members, member.2.Whole := by
  induction members with
  | nil => simp [WholeMembers]
  | cons member rest step => simp [WholeMembers, step]

@[simp] theorem whole_nat {value : Nat} : (nat value).Whole ↔ value < Nat.pow 2 64 := by
  simp only [nat, Whole]
  omega

@[simp] theorem whole_array {items : List Json} : (array items).Whole ↔ ∀ value ∈ items, value.Whole := by
  rw [Whole, wholeItems_iff]

@[simp] theorem whole_object {members : List (String × Json)} :
    (object members).Whole ↔ ∀ member ∈ members, member.2.Whole := by
  rw [Whole, wholeMembers_iff]

@[simp] theorem whole_string (text : String) : (string text).Whole := trivial

theorem toNodes_eq_map (items : List Json) : toNodes items = items.map toNode := by
  induction items with
  | nil => rfl
  | cons value rest step => rw [toNodes, step, List.map_cons]

/-- A value can be read back where it has some arrays and objects around it. -/
def ReadableAt (depth : Nat) (value : Json) : Prop := (ofNode? depth value.toNode).isSome = true

theorem readableAt_string (depth : Nat) (text : String) : ReadableAt depth (string text) := by
  simp [ReadableAt, toNode, ofNode?]

theorem readableAt_nat (depth : Nat) {value : Nat} (bound : value < Nat.pow 2 64) :
    ReadableAt depth (nat value) := by
  have inside : -(Nat.pow 2 63 : Int) ≤ value ∧ (value : Int) < Nat.pow 2 64 := by omega
  simp only [ReadableAt, nat, toNode, ofNode?, Number.numeral, Numeral.number?, Numeral.int?_ofInt,
    if_pos inside, Option.map_some, Option.isSome_some]

theorem readableAt_array {depth : Nat} {items : List Json} (shallow : depth < depthLimit)
    (each : ∀ value ∈ items, ReadableAt (depth + 1) value) : ReadableAt depth (array items) := by
  have read : (ofNodes? (depth + 1) (toNodes items)).isSome = true := by
    induction items with
    | nil => rfl
    | cons value rest step =>
      obtain ⟨_, first⟩ := Option.isSome_iff_exists.mp (each value (List.mem_cons_self ..))
      obtain ⟨_, others⟩ := Option.isSome_iff_exists.mp
        (step fun other member => each other (List.mem_cons_of_mem _ member))
      simp only [toNodes, ofNodes?, first, others, Option.isSome_some]
  simp [ReadableAt, toNode, ofNode?, shallow, read]

theorem readableAt_object {depth : Nat} {members : List (String × Json)} (shallow : depth < depthLimit)
    (each : ∀ member ∈ members, ReadableAt (depth + 1) member.2) : ReadableAt depth (object members) := by
  have read : (ofMembers? (depth + 1) (toMembers members)).isSome = true := by
    induction members with
    | nil => rfl
    | cons member rest step =>
      obtain ⟨_, first⟩ := Option.isSome_iff_exists.mp (each member (List.mem_cons_self ..))
      obtain ⟨_, others⟩ := Option.isSome_iff_exists.mp
        (step fun other present => each other (List.mem_cons_of_mem _ present))
      simp only [toMembers, ofMembers?, Quoted.text?_ofText, first, others, Option.isSome_some]
  simp [ReadableAt, toNode, ofNode?, shallow, read]

end Json

namespace Decoder

variable {α : Type} {depth : Nat}

/-- Reading the text of a value is reading its node. -/
theorem run_compact (decoder : Decoder α) {value : Json} (whole : value.Whole) :
    decoder.run value.compact = decoder 0 value.toNode := by
  rw [run, ofText_compact whole]
  exact bind_pure _

theorem intBetween_toNode {low high value : Int} (bounds : low ≤ value ∧ value < high) :
    intBetween low high depth (Json.int value).toNode = .ok value := by
  have read : int depth (Json.int value).toNode = .ok value := by
    simp only [int, Json.int, toNode, Number.numeral, Numeral.int?_ofInt]
    rfl
  rw [intBetween, read]
  exact if_pos bounds

theorem natBelow_toNode {limit value : Nat} (bound : value < limit) :
    natBelow limit depth (Json.nat value).toNode = .ok value := by
  have inside : (0 : Int) ≤ value ∧ (value : Int) < limit := by omega
  have read : intBetween 0 limit depth (Json.nat value).toNode = .ok (value : Int) :=
    intBetween_toNode inside
  rw [natBelow, map, read]
  rfl

theorem ident_toNode {entity : Entity} (id : Ident entity) :
    ident depth id.toJson.toNode = .ok id := by
  rw [ident, map, Ident.toJson, natBelow_toNode id.toNat_lt]
  simp [Except.map, Ident.toNat]

theorem permission_toNode (depth : Nat) (permission : Permission) :
    Decoder.permission depth permission.toJson.toNode = .ok permission := by
  have small : permission.level < 256 := by cases permission <;> decide
  rw [Decoder.permission, Permission.toJson, natBelow_toNode small]
  simp only [bind, Except.bind, Permission.ofLevel?_level]
  rfl

/-- A list is read back if each of its values is. -/
theorem list_toNode {decoder : Decoder α} {write : α → Json} {values : List α}
    (each : ∀ value ∈ values, decoder (depth + 1) (write value).toNode = .ok value) :
    list decoder depth (Json.array (values.map write)).toNode = .ok values := by
  have read : ((values.map write).map toNode).mapM (decoder (depth + 1)) = .ok values := by
    rw [List.map_map, List.mapM_map]
    exact (mapM_eq_ok each).trans (congrArg _ (List.map_id' values))
  rw [toNode, list, toNodes_eq_map, read]
  rfl

end Decoder

namespace Fields

variable {α β : Type}

/-- All members of an object that names each field once count. -/
theorem collect_toMembers {names seen : List String} {members : List (String × Json)}
    (known : ∀ member ∈ members, member.1 ∈ names) (fresh : ∀ member ∈ members, member.1 ∉ seen)
    (distinct : (members.map Prod.fst).Nodup) :
    collect names seen (toMembers members) =
      (members.map fun member => (member.1, member.2.toNode), true) := by
  induction members generalizing seen with
  | nil => rfl
  | cons member rest step =>
    rw [List.map_cons, List.nodup_cons] at distinct
    have fresh_rest (other : String × Json) (present : other ∈ rest) : other.1 ∉ member.1 :: seen := by
      rw [List.mem_cons, not_or]
      refine ⟨fun same => distinct.1 ?_, fresh other (List.mem_cons_of_mem _ present)⟩
      rw [← same]
      exact List.mem_map_of_mem present
    have others := step (fun other present => known other (List.mem_cons_of_mem _ present))
      fresh_rest distinct.2
    have here := known member (List.mem_cons_self ..)
    have first := fresh member (List.mem_cons_self ..)
    simp [toMembers, collect, here, first, others]

/-- Members that name each field once are read by the fields. -/
theorem ofMembers_toMembers {fields : Fields α} {depth : Nat} {members : List (String × Json)} {record : α}
    (known : ∀ member ∈ members, member.1 ∈ fields.names) (distinct : (members.map Prod.fst).Nodup)
    (read : fields.read depth (members.map fun member => (member.1, member.2.toNode)) = .ok record) :
    fields.ofMembers depth (toMembers members) true = .ok record := by
  rw [ofMembers, collect_toMembers known (fun _ _ => List.not_mem_nil) distinct]
  simp [finish, read]

/-- An object that names each field once is read by the fields. -/
theorem decoder_toNode {fields : Fields α} {depth : Nat} {members : List (String × Json)} {record : α}
    (known : ∀ member ∈ members, member.1 ∈ fields.names) (distinct : (members.map Prod.fst).Nodup)
    (read : fields.read (depth + 1) (members.map fun member => (member.1, member.2.toNode)) = .ok record) :
    fields.decoder depth (Json.object members).toNode = .ok record := by
  rw [Json.toNode, decoder]
  exact ofMembers_toMembers known distinct read

@[simp] theorem names_map (change : α → β) (fields : Fields α) : (change <$> fields).names = fields.names :=
  rfl

@[simp] theorem names_seq (front : Fields (α → β)) (back : Fields α) :
    (front <*> back).names = front.names ++ back.names := rfl

@[simp] theorem names_required (name : String) (decoder : Decoder α) :
    (required name decoder).names = [name] := rfl

@[simp] theorem read_map (change : α → β) (fields : Fields α) (depth : Nat) (values : FieldValues) :
    (change <$> fields).read depth values = (fields.read depth values).map change := rfl

@[simp] theorem read_seq (front : Fields (α → β)) (back : Fields α) (depth : Nat) (values : FieldValues) :
    (front <*> back).read depth values = (front.read depth values).both (back.read depth values) := rfl

/-- A field is read from the first value that is given for it. -/
theorem read_required {name : String} {decoder : Decoder α} {depth : Nat} {values : FieldValues}
    {node : Node} {value : α} (found : (find? name values).map Prod.snd = some node)
    (read : decoder depth node = .ok value) : (required name decoder).read depth values = .ok value := by
  obtain ⟨⟨place, _⟩, located, rfl⟩ := Option.map_eq_some_iff.mp found
  simp only [required, field, located, read, mapError_ok]

end Fields

namespace Link

theorem triggerFields_toNode (depth : Nat) (trigger : TriggerId) :
    triggerFields.decoder depth (Json.object [("trigger_id", trigger.toJson)]).toNode = .ok trigger := by
  apply Fields.decoder_toNode
  · simp [triggerFields]
  · simp
  · exact Fields.read_required (by simp [Fields.find?]) (Decoder.ident_toNode trigger)

/-- A written link reads back. -/
theorem decoder_toNode (depth : Nat) (link : Link) :
    fields.decoder depth link.toJson.toNode = .ok link := by
  have triggers := Decoder.list_toNode fun id (_ : id ∈ link.triggers) =>
    triggerFields_toNode (depth + 2) id
  have permission := Decoder.permission_toNode (depth + 1) link.permission
  rw [toJson]
  apply Fields.decoder_toNode
  · simp [fields]
  · simp
  · simp only [fields, Fields.read_map, Fields.read_seq]
    rw [Fields.read_required (by simp [Fields.find?]) triggers,
      Fields.read_required (by simp [Fields.find?]) permission]
    rfl

theorem whole_toJson (link : Link) : link.toJson.Whole := by
  have bound (id : TriggerId) : id.toNat < Nat.pow 2 64 := id.toNat_lt
  have small : link.permission.level < Nat.pow 2 64 := by cases link.permission <;> decide
  simp [toJson, Permission.toJson, Ident.toJson, bound, small]

end Link

namespace Element

/-- A written element can be read as a whole, before its kind is known. -/
theorem readableAt_toJson {depth : Nat} (shallow : depth + 1 < depthLimit) (element : Element) :
    ReadableAt depth element.toJson := by
  have numbers {entity : Entity} (id : Ident entity) (at_ : Nat) : ReadableAt at_ id.toJson :=
    readableAt_nat at_ id.toNat_lt
  have target : ReadableAt (depth + 1) (targetMembers element.target).2.2 := by
    cases element.target with
    | group id | host id | map id => exact numbers id _
    | triggers ids =>
      apply readableAt_array shallow
      simp only [List.mem_map]
      rintro _ ⟨id, _, rfl⟩
      exact numbers id _
  have permission : ReadableAt (depth + 1) element.permission.toJson :=
    readableAt_nat _ (by cases element.permission <;> decide)
  apply readableAt_object (by omega)
  simp only [List.mem_cons, List.not_mem_nil, or_false]
  rintro _ (rfl | rfl | rfl)
  · exact readableAt_string _ _
  · exact target
  · exact permission

/-- The object of an element is read by the fields of its kind. -/
theorem decoder_of_kind {depth : Nat} {kind name : String} {value permission : Json} {fields : Fields Element}
    {element : Element} (known : fieldsOf? kind = some fields) (names : fields.names = [name, "permission"])
    (notKind : name ≠ "kind") (notPermission : name ≠ "permission")
    (readable : ReadableAt depth (.object [("kind", .string kind), (name, value), ("permission", permission)]))
    (read : fields.read (depth + 1) [(name, value.toNode), ("permission", permission.toNode)] = .ok element) :
    decoder depth (Json.object [("kind", .string kind), (name, value), ("permission", permission)]).toNode =
      .ok element := by
  have members : (toMembers [("kind", .string kind), (name, value), ("permission", permission)]).filter
      (!isKind ·) = toMembers [(name, value), ("permission", permission)] := by
    simp [toMembers, isKind, notKind]
  have kinds : (toMembers [("kind", .string kind), (name, value), ("permission", permission)]).filter
      isKind = [(.ofText "kind", .string (.ofText kind))] := by
    simp [toMembers, toNode, isKind, notKind]
  have found : kind? (.string (.ofText kind)) = some fields := by simpa [kind?] using known
  have record : fields.ofMembers (depth + 1) (toMembers [(name, value), ("permission", permission)]) true =
      .ok element := by
    apply Fields.ofMembers_toMembers
    · simp [names]
    · simpa using notPermission
    · exact read
  have node : (Json.object [("kind", .string kind), (name, value), ("permission", permission)]).toNode =
      .object (toMembers [("kind", .string kind), (name, value), ("permission", permission)]) true := by
    rw [toNode]
  have whole := Option.isNone_eq_false_iff.mpr readable
  rw [node] at whole ⊢
  simp only [decoder, whole, Bool.false_eq_true, if_false, kinds, members, found, Option.elim, record]

/-- The fields of an element hold its target and its permission. -/
theorem read_target {α : Type} {depth : Nat} {name : String} {decoder : Decoder α} {make : α → Target}
    {node : Node} {value : α} (differs : name ≠ "permission") (read : decoder depth node = .ok value)
    (permission : Permission) :
    (Element.mk <$> (make <$> Fields.required name decoder) <*>
        Fields.required "permission" .permission).read depth
      [(name, node), ("permission", permission.toJson.toNode)] = .ok ⟨make value, permission⟩ := by
  simp only [Fields.read_map, Fields.read_seq]
  rw [Fields.read_required (by simp [Fields.find?]) read,
    Fields.read_required (by simp [Fields.find?, differs]) (Decoder.permission_toNode depth permission)]
  rfl

/-- A written element reads back. -/
theorem decoder_toNode {depth : Nat} (shallow : depth + 1 < depthLimit) (element : Element) :
    decoder depth element.toJson.toNode = .ok element := by
  have readable := readableAt_toJson shallow element
  obtain ⟨target, permission⟩ := element
  cases target with
  | group id =>
    exact decoder_of_kind rfl rfl (by decide) (by decide) readable
      (read_target (by decide) (Decoder.ident_toNode id) permission)
  | host id =>
    exact decoder_of_kind rfl rfl (by decide) (by decide) readable
      (read_target (by decide) (Decoder.ident_toNode id) permission)
  | triggers ids =>
    exact decoder_of_kind rfl rfl (by decide) (by decide) readable
      (read_target (by decide) (Decoder.list_toNode fun id _ => Decoder.ident_toNode id) permission)
  | map id =>
    exact decoder_of_kind rfl rfl (by decide) (by decide) readable
      (read_target (by decide) (Decoder.ident_toNode id) permission)

theorem whole_toJson (element : Element) : element.toJson.Whole := by
  have bound {entity : Entity} (id : Ident entity) : id.toNat < Nat.pow 2 64 := id.toNat_lt
  have small : element.permission.level < Nat.pow 2 64 := by cases element.permission <;> decide
  cases target : element.target <;>
    simp [toJson, targetMembers, target, Permission.toJson, Ident.toJson, bound, small]

end Element

end ProblemBoard
