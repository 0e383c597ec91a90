import ProblemBoard.Proofs.Cells
import ProblemBoard.Proofs.FieldNumbers
import ProblemBoard.Proofs.Results

/-! # How a board is set up by its fields

Every field that gives the parent of an item as a number makes one item, whose map and name are found under
the item's number in plain decimal. The items ascend, and items of one number stay in the order of the bytes
of their fields' names. Several fields give the parent of one item if zeros stand in front of its number; if
no name has such zeros, there is one item for each number that has a parent.
-/

namespace ProblemBoard.Widget

open Navigation

section Meaning

variable (fields : FieldTable)

/-- The field gives the parent of the item as a number. -/
def GivesParent (name : String) (id parent : ItemId) : Prop :=
  NamesParentOf name id ∧ ∃ value, fields[name]? = some value ∧ HoldsNumber value parent.val

/-- The field holds the number, which is zero if the field is missing or null. -/
def GivesNumber (name : String) (number : UInt64) : Prop :=
  (fields[name]? = none ∨ fields[name]? = some .null) ∧ number = 0 ∨
    ∃ value, fields[name]? = some value ∧ HoldsNumber value number

/-- The name of an item, which is empty unless its field holds text or a number. -/
def givenName (id : ItemId) : String :=
  match fields[nameField id]? with
  | some (.string text) => text
  | some (.number number) => number.text
  | _ => ""

/-- The item is as the field that gives its parent and the fields under its number have it. -/
structure Describes (name : String) (item : Item) : Prop where
  parent : GivesParent fields name item.id item.parent
  linked : GivesNumber fields (mapField item.id) item.linked.val
  name : item.name = givenName fields item.id
  childMaps : item.childMaps = ∅

/-- The field is there, it is not null, and it does not hold what it should. -/
def Misread {α : Type} (holds : Json → α → Prop) (name : String) : Prop :=
  ∃ value, fields[name]? = some value ∧ value ≠ .null ∧ ∀ result, ¬ holds value result

end Meaning

section Reading

variable {fields : FieldTable} {name : String} {fault : ViewFault}

/-- What a field holds, or something else if the field is missing or null. -/
def readOr {α : Type} (fields : FieldTable) (read : Json → Option α) (blank : α) (reason : FieldReason)
    (name : String) : Except ViewFault α :=
  match fields[name]? with
  | none | some .null => pure blank
  | some value => (read value).elim (throw (.invalidField name reason)) pure

theorem numberOrZero_eq : numberOrZero fields name = readOr fields numeric? 0 .notANumber name := rfl

theorem flagOrNo_eq : flagOrNo fields name = readOr fields flag? false .notAFlag name := rfl

variable {α : Type} {read : Json → Option α} {holds : Json → α → Prop} {blank : α} {reason : FieldReason}

theorem readOr_of_missing (missing : fields[name]? = none ∨ fields[name]? = some .null) :
    readOr fields read blank reason name = .ok blank := by
  rcases missing with missing | missing <;> rw [readOr, missing] <;> rfl

theorem readOr_of_present {value : Json} (found : fields[name]? = some value) (present : value ≠ .null) :
    readOr fields read blank reason name = (read value).elim (.error (.invalidField name reason)) .ok := by
  rw [readOr, found]
  cases value with
  | null => exact absurd rfl present
  | bool | number | string | array | object => rfl

theorem readOr_eq_ok_iff (reads : ∀ {value result}, read value = some result ↔ holds value result)
    (null : ∀ result, ¬ holds .null result) {result : α} :
    readOr fields read blank reason name = .ok result ↔
      (fields[name]? = none ∨ fields[name]? = some .null) ∧ result = blank ∨
        ∃ value, fields[name]? = some value ∧ holds value result := by
  cases found : fields[name]? with
  | none => simp [readOr_of_missing (.inl found), eq_comm]
  | some value =>
    by_cases empty : value = .null
    · subst empty
      simp [readOr_of_missing (.inr found), null, eq_comm]
    · rw [readOr_of_present found empty]
      cases given : read value with
      | none => simp [empty, ← reads, given]
      | some other => simp [empty, ← reads, given]

theorem readOr_eq_error_iff (reads : ∀ {value result}, read value = some result ↔ holds value result) :
    readOr fields read blank reason name = .error fault ↔
      Misread fields holds name ∧ fault = .invalidField name reason := by
  rw [Misread]
  cases found : fields[name]? with
  | none => simp [readOr_of_missing (.inl found)]
  | some value =>
    by_cases empty : value = .null
    · subst empty
      simp [readOr_of_missing (.inr found)]
    · rw [readOr_of_present found empty]
      cases given : read value with
      | none => simp [empty, ← reads, given, eq_comm]
      | some other => simp [empty, ← reads, given]

theorem numberOrZero_eq_ok_iff {number : UInt64} :
    numberOrZero fields name = .ok number ↔ GivesNumber fields name number := by
  rw [numberOrZero_eq]
  exact readOr_eq_ok_iff numeric?_eq_some_iff fun _ => id

theorem numberOrZero_eq_error_iff : numberOrZero fields name = .error fault ↔
    Misread fields HoldsNumber name ∧ fault = .invalidField name .notANumber := by
  rw [numberOrZero_eq]
  exact readOr_eq_error_iff numeric?_eq_some_iff

theorem flagOrNo_eq_error_iff : flagOrNo fields name = .error fault ↔
    Misread fields HoldsFlag name ∧ fault = .invalidField name .notAFlag := by
  rw [flagOrNo_eq]
  exact readOr_eq_error_iff flag?_eq_some_iff

end Reading

section Items

variable {fields : FieldTable} {name : String} {id parent : ItemId} {item : Item} {fault : ViewFault}

/-- The item whose parent an entry gives, and the parent. -/
def parentOf? (entry : String × Json) : Option (ItemId × ItemId) :=
  (parentField? entry.1).bind fun id => (numeric? entry.2).map fun parent => (id, ⟨parent⟩)

/-- All fields that give the parent of an item as a number, in order, with the item and the parent. -/
def parents (fields : FieldTable) : List (String × ItemId × ItemId) :=
  fields.toList.filterMap fun entry => (parentOf? entry).map (entry.1, ·)

/-- The item with a parent, if its map can be read. -/
def readItem (fields : FieldTable) (id parent : ItemId) : Except ViewFault Item :=
  (numberOrZero fields (mapField id)).map fun linked =>
    { id, name := givenName fields id, parent, linked := ⟨linked⟩, childMaps := ∅ }

theorem givenName_eq : ((fields[nameField id]?).bind name?).getD "" = givenName fields id := by
  rw [givenName]
  cases fields[nameField id]? with
  | none => rfl
  | some value => cases value <;> rfl

theorem itemOfField_eq {value : Json} : itemOfField fields name value =
    ((parentOf? (name, value)).map (name, ·)).elim (pure none) fun row =>
      some <$> readItem fields row.2.1 row.2.2 := by
  rw [itemOfField, parentOf?]
  cases parentField? name with
  | none => rfl
  | some id =>
    cases numeric? value with
    | none => rfl
    | some parent =>
      simp only [Option.bind_some, Option.map_some, Option.elim_some, readItem, givenName_eq]
      cases numberOrZero fields (mapField id) <;> rfl

/-- To set up a board is to read the item of every field that gives a parent. -/
theorem ofFields_eq : Setup.ofFields fields = (do
    let items ← (parents fields).mapM fun row => readItem fields row.2.1 row.2.2
    let showUnavailable ← flagOrNo fields unavailableField
    pure ⟨items.mergeSort fun left right => (compare left.id right.id).isLE, showUnavailable⟩) := by
  rw [parents, mapM_filterMap, Setup.ofFields]
  simp only [itemOfField_eq]
  cases fields.toList.mapM fun entry => ((parentOf? entry).map (entry.1, ·)).elim (pure none) fun row =>
    some <$> readItem fields row.2.1 row.2.2 <;> rfl

theorem parentOf?_eq_some_iff {value : Json} :
    parentOf? (name, value) = some (id, parent) ↔ NamesParentOf name id ∧ HoldsNumber value parent.val := by
  rw [← parentField?_eq_some_iff, ← numeric?_eq_some_iff, parentOf?]
  cases parentField? name with
  | none => simp
  | some other =>
    cases numeric? value with
    | none => simp
    | some number =>
      cases parent
      simp

theorem ofFields_of_read {items : List Item} {flag : Bool}
    (read : ((parents fields).mapM fun row => readItem fields row.2.1 row.2.2) = .ok items)
    (flagged : flagOrNo fields unavailableField = .ok flag) :
    Setup.ofFields fields = .ok ⟨items.mergeSort fun left right => (compare left.id right.id).isLE, flag⟩ := by
  rw [ofFields_eq, read, flagged]
  rfl

theorem mem_parents : (name, id, parent) ∈ parents fields ↔ GivesParent fields name id parent := by
  rw [parents, List.mem_filterMap, GivesParent]
  simp only [Prod.exists, Std.ExtTreeMap.mem_toList_iff_getElem?_eq_some, Option.map_eq_some_iff, Prod.mk.injEq,
    parentOf?_eq_some_iff]
  constructor
  · rintro ⟨_, value, found, _, _, ⟨names, holds⟩, rfl, rfl, rfl⟩
    exact ⟨names, value, found, holds⟩
  · rintro ⟨names, value, found, holds⟩
    exact ⟨name, value, found, id, parent, ⟨names, holds⟩, rfl, rfl, rfl⟩

/-- The names of the fields that give parents ascend. -/
theorem parents_ascend (fields : FieldTable) :
    (parents fields).Pairwise fun front back => compare front.1 back.1 = .lt := by
  rw [parents, List.pairwise_filterMap]
  refine Std.ExtTreeMap.ordered_keys_toList.imp fun {front back} less => ?_
  simp only [Option.map_eq_some_iff]
  rintro _ ⟨_, _, rfl⟩ _ ⟨_, _, rfl⟩
  exact less

theorem bytes_ascend (fields : FieldTable) :
    (parents fields).Pairwise fun front back => Text.bytes front.1 < Text.bytes back.1 := by
  refine List.Pairwise.imp_of_mem (fun {front back} front_member back_member less => ?_) (parents_ascend fields)
  have front_names := (mem_parents.mp front_member).1
  have back_names := (mem_parents.mp back_member).1
  exact (Text.compare_eq_lt_iff_bytes front_names.ascii back_names.ascii).mp less

theorem describes_of_readItem (gives : GivesParent fields name id parent)
    (read : readItem fields id parent = .ok item) : item.id = id ∧ Describes fields name item := by
  obtain ⟨linked, given, rfl⟩ := exists_of_map_eq_ok read
  exact ⟨rfl, gives, numberOrZero_eq_ok_iff.mp given, rfl, rfl⟩

theorem readItem_eq_error_iff : readItem fields id parent = .error fault ↔
    Misread fields HoldsNumber (mapField id) ∧ fault = .invalidField (mapField id) .notANumber := by
  rw [← numberOrZero_eq_error_iff, readItem]
  cases numberOrZero fields (mapField id) <;> simp [Except.map]

end Items

section Order

variable {fields : FieldTable} {setup : Setup} {id : ItemId}

/-- Sorting keeps what is of equal rank in its order. -/
theorem filter_mergeSort {α : Type} {le : α → α → Bool} (trans : ∀ a b c, le a b → le b c → le a c)
    (total : ∀ a b, le a b || le b a) (values : List α) {keep : α → Bool}
    (equal : ∀ a b, keep a → keep b → le a b) : (values.mergeSort le).filter keep = values.filter keep := by
  have ranked : (values.filter keep).Pairwise fun a b => le a b := by
    refine List.pairwise_of_forall_mem_list fun a a_member b b_member => ?_
    exact equal a b (List.mem_filter.mp a_member).2 (List.mem_filter.mp b_member).2
  have within := (List.sublist_mergeSort trans total ranked List.filter_sublist).filter keep
  simp only [List.filter_filter, Bool.and_self] at within
  exact (within.eq_of_length ((List.mergeSort_perm values le).filter keep).length_eq.symm).symm

/-- Items are ordered by their numbers. -/
def precedes (left right : Item) : Bool := (compare left.id right.id).isLE

theorem precedes_iff {left right : Item} : precedes left right = true ↔ left.id.toNat ≤ right.id.toNat := by
  rw [precedes, Ident.compare_def, Std.isLE_compare, UInt64.le_iff_toNat_le]
  rfl

theorem precedes_trans (a b c : Item) (first : precedes a b) (second : precedes b c) : precedes a c := by
  rw [precedes_iff] at first second ⊢
  exact first.trans second

theorem precedes_total (a b : Item) : precedes a b || precedes b a := by
  rw [Bool.or_eq_true, precedes_iff, precedes_iff]
  exact Nat.le_total ..

/-- The items of a board are those that its fields describe, sorted by their numbers. -/
theorem exists_described (given : Setup.ofFields fields = .ok setup) :
    ∃ items, setup.items = items.mergeSort precedes ∧
      List.Forall₂ (fun row item => item.id = row.2.1 ∧ Describes fields row.1 item) (parents fields) items := by
  rw [ofFields_eq] at given
  obtain ⟨items, read, given⟩ := exists_ok_of_bind given
  obtain ⟨flag, _, given⟩ := exists_ok_of_bind given
  cases given
  refine ⟨items, rfl, ?_⟩
  have rows : ∀ row ∈ parents fields, GivesParent fields row.1 row.2.1 row.2.2 := fun _ => mem_parents.mp
  exact (List.forall₂_and_left _ _ |>.mpr ⟨rows, forall₂_of_mapM read⟩).imp fun row item each =>
    describes_of_readItem each.1 each.2

theorem ascend_of_ofFields (given : Setup.ofFields fields = .ok setup) :
    setup.items.Pairwise fun front back => front.id.toNat ≤ back.id.toNat := by
  obtain ⟨items, sorted, _⟩ := exists_described given
  rw [sorted]
  exact (List.pairwise_mergeSort precedes_trans precedes_total items).imp precedes_iff.mp

/-- The items of one number are described by the fields that give their parents, in the order of their names. -/
theorem exists_names (given : Setup.ofFields fields = .ok setup) (id : ItemId) :
    ∃ names : List String, (∀ name, name ∈ names ↔ ∃ parent, GivesParent fields name id parent) ∧
      names.Pairwise (fun front back => Text.bytes front < Text.bytes back) ∧
      List.Forall₂ (Describes fields) names (setup.items.filter (·.id = id)) := by
  obtain ⟨items, sorted, described⟩ := exists_described given
  refine ⟨((parents fields).filter (·.2.1 = id)).map Prod.fst, fun name => ?_, ?_, ?_⟩
  · simp only [List.mem_map, List.mem_filter, Prod.exists, decide_eq_true_eq, mem_parents]
    constructor
    · rintro ⟨_, _, parent, ⟨gives, rfl⟩, rfl⟩
      exact ⟨parent, gives⟩
    · rintro ⟨parent, gives⟩
      exact ⟨name, id, parent, ⟨gives, rfl⟩, rfl⟩
  · exact List.pairwise_map.mpr ((bytes_ascend fields).filter _)
  · rw [sorted, filter_mergeSort precedes_trans precedes_total, List.forall₂_map_left_iff]
    · exact (List.rel_filter (fun _ _ each => by simp [each.1]) described).imp fun _ _ each => each.2
    · intro a b keeps keeps_too
      rw [decide_eq_true_eq] at keeps keeps_too
      rw [precedes_iff, keeps, keeps_too]

/-- Every item has the plain name of the field that gives its parent. -/
def Plain (fields : FieldTable) : Prop := ∀ name id parent, GivesParent fields name id parent → name = parentField id

theorem plain_iff : Plain fields ↔ ∀ row ∈ parents fields, row.1 = parentField row.2.1 := by
  constructor
  · rintro plain ⟨name, id, parent⟩ member
    exact plain name id parent (mem_parents.mp member)
  · intro plain name id parent gives
    exact plain (name, id, parent) (mem_parents.mpr gives)

instance (fields : FieldTable) : Decidable (Plain fields) := decidable_of_iff _ plain_iff.symm

/-- Where names are plain, there is one item for a number that has a parent, and none for another. -/
theorem Plain.filter_items (plain : Plain fields) (given : Setup.ofFields fields = .ok setup) (id : ItemId) :
    (¬ ∃ parent, GivesParent fields (parentField id) id parent) ∧ setup.items.filter (·.id = id) = [] ∨
      ∃ item, setup.items.filter (·.id = id) = [item] ∧ Describes fields (parentField id) item := by
  obtain ⟨names, named, ascend, described⟩ := exists_names given id
  cases names with
  | nil =>
    refine .inl ⟨fun gives => ?_, List.forall₂_nil_left_iff.mp described⟩
    exact absurd ((named _).mpr gives) List.not_mem_nil
  | cons name rest =>
    have only (other : String) (member : other ∈ name :: rest) : other = parentField id := by
      obtain ⟨parent, gives⟩ := (named other).mp member
      exact plain other id parent gives
    have alone : rest = [] := by
      refine List.eq_nil_iff_forall_not_mem.mpr fun other later => ?_
      have less := List.rel_of_pairwise_cons ascend later
      rw [only name (List.mem_cons_self ..), only other (List.mem_cons_of_mem _ later)] at less
      exact List.lt_irrefl _ less
    subst alone
    obtain ⟨item, others, describes, nothing, filtered⟩ := List.forall₂_cons_left_iff.mp described
    rw [List.forall₂_nil_left_iff.mp nothing] at filtered
    exact .inr ⟨item, filtered, only name (List.mem_cons_self ..) ▸ describes⟩

theorem Plain.describes (plain : Plain fields) (given : Setup.ofFields fields = .ok setup) {item : Item}
    (member : item ∈ setup.items) : Describes fields (parentField item.id) item := by
  have kept : item ∈ setup.items.filter (·.id = item.id) := List.mem_filter.mpr ⟨member, by simp⟩
  rcases plain.filter_items given item.id with ⟨_, none_there⟩ | ⟨other, one, describes⟩
  · rw [none_there] at kept
    cases kept
  · rw [one, List.mem_singleton] at kept
    exact kept ▸ describes

theorem exists_givesParent_iff : (∃ parent, GivesParent fields (parentField id) id parent) ↔
    ∃ value number, fields[parentField id]? = some value ∧ HoldsNumber value number := by
  constructor
  · rintro ⟨parent, _, value, found, holds⟩
    exact ⟨value, parent.val, found, holds⟩
  · rintro ⟨value, number, found, holds⟩
    exact ⟨⟨number⟩, namesParentOf_parentField id, value, found, holds⟩

/-- Where names are plain, a number that has a parent is that of an item. -/
theorem Plain.exists_item_iff (plain : Plain fields) (given : Setup.ofFields fields = .ok setup) :
    (∃ item ∈ setup.items, item.id = id) ↔
      ∃ value number, fields[parentField id]? = some value ∧ HoldsNumber value number := by
  rw [← exists_givesParent_iff]
  constructor
  · rintro ⟨item, member, rfl⟩
    exact ⟨item.parent, (plain.describes given member).parent⟩
  · intro gives
    rcases plain.filter_items given id with ⟨nobody, _⟩ | ⟨item, one, _⟩
    · exact absurd gives nobody
    · have kept : item ∈ setup.items.filter (·.id = id) := by simp [one]
      obtain ⟨member, same⟩ := List.mem_filter.mp kept
      exact ⟨item, member, of_decide_eq_true same⟩

theorem Plain.strictly_ascend (plain : Plain fields) (given : Setup.ofFields fields = .ok setup) :
    setup.items.Pairwise fun front back => front.id.toNat < back.id.toNat := by
  rw [List.pairwise_iff_forall_sublist]
  intro front back within
  have ascends := List.pairwise_iff_forall_sublist.mp (ascend_of_ofFields given) within
  refine Nat.lt_of_le_of_ne ascends fun same => ?_
  have both : [front, back].Sublist (setup.items.filter (·.id = front.id)) := by
    have kept := within.filter fun item => item.id = front.id
    simpa [Ident.toNat_inj.mp same] using kept
  have few : (setup.items.filter (·.id = front.id)).length ≤ 1 := by
    rcases plain.filter_items given front.id with ⟨_, none_there⟩ | ⟨item, one, _⟩
    · simp [none_there]
    · simp [one]
  exact absurd (both.length_le.trans few) (by simp)

end Order

/-- Every field that gives a parent as a number makes one item. The items ascend, and those of one number are
described by their fields in the order of the bytes of the names. Where all these names are in plain decimal,
the items ascend strictly, there is an item for just those numbers whose plain field gives a parent, and that
field describes it. -/
theorem ofFields_exact (fields : FieldTable) {setup : Setup} (given : Setup.ofFields fields = .ok setup) :
    setup.items.Pairwise (fun front back => front.id.toNat ≤ back.id.toNat) ∧
      (∀ id, ∃ names : List String, (∀ name, name ∈ names ↔ ∃ parent, GivesParent fields name id parent) ∧
        names.Pairwise (fun front back => Text.bytes front < Text.bytes back) ∧
        List.Forall₂ (Describes fields) names (setup.items.filter (·.id = id))) ∧
      (Plain fields →
        setup.items.Pairwise (fun front back => front.id.toNat < back.id.toNat) ∧
        (∀ id, (∃ item ∈ setup.items, item.id = id) ↔
          ∃ value number, fields[parentField id]? = some value ∧ HoldsNumber value number) ∧
        ∀ item ∈ setup.items, Describes fields (parentField item.id) item) := by
  exact ⟨ascend_of_ofFields given, exists_names given, fun plain =>
    ⟨plain.strictly_ascend given, fun _ => plain.exists_item_iff given, fun _ => plain.describes given⟩⟩

/-- Two items; the parents of two others are no numbers, and one item has no parent. -/
def branchFields : FieldTable :=
  let fields : List (String × Json) := [
    ("map.parent.10", .string "2"), ("mapid.10", .nat 7), ("map.name.10", .string "Branch"),
    ("map.parent.2", .nat 0), ("mapid.2", .string " +05\t"), ("map.name.2", .nat 4),
    ("map.parent.01", .string "-1"), ("map.parent.y", .nat 0), ("mapid.3", .string "x")]
  .ofList fields

theorem ofFields_exact_branch :
    Plain branchFields ∧
      Setup.ofFields branchFields =
        .ok ⟨[⟨⟨2⟩, "4", .zero, ⟨5⟩, ∅⟩, ⟨⟨10⟩, "Branch", ⟨2⟩, ⟨7⟩, ∅⟩], false⟩ ∧
      Describes branchFields (parentField ⟨10⟩) ⟨⟨10⟩, "Branch", ⟨2⟩, ⟨7⟩, ∅⟩ ∧
      ¬ ∃ value number, branchFields[parentField ⟨1⟩]? = some value ∧ HoldsNumber value number := by
  have given : Setup.ofFields branchFields =
      .ok ⟨[⟨⟨2⟩, "4", .zero, ⟨5⟩, ∅⟩, ⟨⟨10⟩, "Branch", ⟨2⟩, ⟨7⟩, ∅⟩], false⟩ := by
    have read : ((parents branchFields).mapM fun row => readItem branchFields row.2.1 row.2.2) =
        .ok [⟨⟨10⟩, "Branch", ⟨2⟩, ⟨7⟩, ∅⟩, ⟨⟨2⟩, "4", .zero, ⟨5⟩, ∅⟩] := by decide +kernel
    have flagged : flagOrNo branchFields unavailableField = .ok false := by decide +kernel
    rw [ofFields_of_read read flagged]
    simp [List.mergeSort, Ident.compare_def, Std.isLE_compare]
  have plain : Plain branchFields := by decide +kernel
  obtain ⟨_, _, plainly⟩ := ofFields_exact branchFields given
  obtain ⟨_, present, describes⟩ := plainly plain
  refine ⟨plain, given, describes ⟨⟨10⟩, "Branch", ⟨2⟩, ⟨7⟩, ∅⟩ (by simp), ?_⟩
  rw [← present]
  simp

/-- One item is described twice, once with a zero in front of its number. -/
def paddedFields : FieldTable :=
  ((∅ : FieldTable).insert "map.parent.01" (.nat 5)).insert "map.parent.1" (.nat 0)

/-- With zeros in front of a number, items do not ascend strictly, and their plain fields do not describe them. -/
theorem ofFields_padded : ¬ ∀ (fields : FieldTable) (setup : Setup), Setup.ofFields fields = .ok setup →
    setup.items.Pairwise (fun front back => front.id.toNat < back.id.toNat) ∧
      (∀ id, (∃ item ∈ setup.items, item.id = id) ↔
        ∃ value number, fields[parentField id]? = some value ∧ HoldsNumber value number) ∧
      ∀ item ∈ setup.items, Describes fields (parentField item.id) item := by
  intro claim
  have given : Setup.ofFields paddedFields =
      .ok ⟨[⟨⟨1⟩, "", ⟨5⟩, .zero, ∅⟩, ⟨⟨1⟩, "", .zero, .zero, ∅⟩], false⟩ := by
    have read : ((parents paddedFields).mapM fun row => readItem paddedFields row.2.1 row.2.2) =
        .ok [⟨⟨1⟩, "", ⟨5⟩, .zero, ∅⟩, ⟨⟨1⟩, "", .zero, .zero, ∅⟩] := by decide +kernel
    have flagged : flagOrNo paddedFields unavailableField = .ok false := by decide +kernel
    rw [ofFields_of_read read flagged, List.mergeSort_of_pairwise (by decide)]
  have ascends := (claim paddedFields _ given).1
  revert ascends
  decide

end ProblemBoard.Widget
