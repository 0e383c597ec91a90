import ProblemBoard.Proofs.Setups

/-! # Boards that cannot be set up

A board cannot be set up if an item that has a parent has a map that is not a number. Of several such items the
one is reported whose parent comes first in the order of the bytes of the fields' names, which need not be the
one with the least number. Only if there is none, the flag for the whole board is at fault if it is neither a
boolean nor a number. The map and the name of an item without a parent make no difference.
-/

namespace ProblemBoard.Widget

open Navigation

variable {fields other : FieldTable} {fault : ViewFault}

/-- The field gives the parent of an item whose map is not a number. -/
def Misfit (fields : FieldTable) (name : String) (id : ItemId) : Prop :=
  (∃ parent, GivesParent fields name id parent) ∧ Misread fields HoldsNumber (mapField id)

/-- The fault names the map of the item whose misfit comes first. -/
def FirstMisfit (fields : FieldTable) (fault : ViewFault) : Prop :=
  ∃ name id, Misfit fields name id ∧
    (∀ later other, Misfit fields later other → later = name ∨ Text.bytes name < Text.bytes later) ∧
    fault = .invalidField (mapField id) .notANumber

/-- The flag for the whole board is neither a boolean nor a number. -/
def BadFlag (fields : FieldTable) : Prop := Misread fields HoldsFlag unavailableField

/-- The field is the flag for the whole board, or it gives the parent of an item, or it is the map or the name of an
item that has a parent. -/
def Concerns (fields : FieldTable) (name : String) : Prop :=
  name = unavailableField ∨ (∃ id, NamesParentOf name id) ∨
    ∃ origin id parent, GivesParent fields origin id parent ∧ (name = mapField id ∨ name = nameField id)

theorem readItems_eq_error_iff :
    ((parents fields).mapM fun row => readItem fields row.2.1 row.2.2) = .error fault ↔ FirstMisfit fields fault := by
  rw [mapM_eq_error_iff]
  constructor
  · rintro ⟨before, ⟨name, id, parent⟩, after, split, fine, failed⟩
    obtain ⟨misread, named⟩ := readItem_eq_error_iff.mp failed
    have member : (name, id, parent) ∈ parents fields := by simp [split]
    refine ⟨name, id, ⟨⟨parent, mem_parents.mp member⟩, misread⟩, ?_, named⟩
    rintro later other ⟨⟨upper, gives⟩, unread⟩
    have listed := mem_parents.mpr gives
    rw [split, List.mem_append, List.mem_cons] at listed
    rcases listed with earlier | same | behind
    · obtain ⟨item, read⟩ := fine _ earlier
      rw [readItem_eq_error_iff.mpr ⟨unread, rfl⟩] at read
      cases read
    · exact .inl (congrArg Prod.fst same)
    · have ascend := bytes_ascend fields
      rw [split] at ascend
      exact .inr (List.rel_of_pairwise_cons (List.pairwise_append.mp ascend).2.1 behind)
  · rintro ⟨name, id, ⟨⟨parent, gives⟩, misread⟩, first, rfl⟩
    obtain ⟨before, after, split⟩ := List.append_of_mem (mem_parents.mpr gives)
    refine ⟨before, _, after, split, fun earlier member => ?_, readItem_eq_error_iff.mpr ⟨misread, rfl⟩⟩
    cases read : readItem fields earlier.2.1 earlier.2.2 with
    | ok item => exact ⟨item, rfl⟩
    | error reason =>
      -- An earlier field would be a misfit that comes before the first one.
      have ascend := bytes_ascend fields
      rw [split] at ascend
      have less := (List.pairwise_append.mp ascend).2.2 earlier member _ (List.mem_cons_self ..)
      have listed : earlier ∈ parents fields := by simp [split, member]
      have misfit : Misfit fields earlier.1 earlier.2.1 :=
        ⟨⟨earlier.2.2, mem_parents.mp listed⟩, (readItem_eq_error_iff.mp read).1⟩
      rcases first _ _ misfit with same | greater
      · exact absurd (same ▸ less) (List.lt_irrefl _)
      · exact absurd less (List.lt_asymm greater)

theorem not_misfit_of_readItems {items : List Item}
    (read : ((parents fields).mapM fun row => readItem fields row.2.1 row.2.2) = .ok items) (name : String)
    (id : ItemId) : ¬ Misfit fields name id := by
  rintro ⟨⟨parent, gives⟩, misread⟩
  obtain ⟨item, fine⟩ := exists_ok_of_mapM read _ (mem_parents.mpr gives)
  rw [readItem_eq_error_iff.mpr ⟨misread, rfl⟩] at fine
  cases fine

theorem ofFields_eq_error_iff : Setup.ofFields fields = .error fault ↔
    FirstMisfit fields fault ∨ (∀ name id, ¬ Misfit fields name id) ∧ BadFlag fields ∧
      fault = .invalidField unavailableField .notAFlag := by
  rw [ofFields_eq]
  cases read : (parents fields).mapM fun row => readItem fields row.2.1 row.2.2 with
  | error reason =>
    obtain ⟨name, id, misfit, _⟩ := readItems_eq_error_iff.mp read
    rw [or_iff_left fun flagged => flagged.1 name id misfit, ← readItems_eq_error_iff, read]
    simp [bind, Except.bind]
  | ok items =>
    have fit := not_misfit_of_readItems read
    rw [or_iff_right fun ⟨name, id, misfit, _⟩ => fit name id misfit, and_iff_right fit, BadFlag,
      ← flagOrNo_eq_error_iff]
    change (flagOrNo fields unavailableField >>= _) = _ ↔ _
    cases flagOrNo fields unavailableField <;> simp [bind, Except.bind, pure, Except.pure]

theorem fails_iff : (∃ fault, Setup.ofFields fields = .error fault) ↔
    (∃ name id, Misfit fields name id) ∨ BadFlag fields := by
  constructor
  · rintro ⟨fault, failed⟩
    rcases ofFields_eq_error_iff.mp failed with ⟨name, id, misfit, _⟩ | ⟨_, bad, _⟩
    · exact .inl ⟨name, id, misfit⟩
    · exact .inr bad
  · intro wrong
    cases given : Setup.ofFields fields with
    | error fault => exact ⟨fault, rfl⟩
    | ok setup =>
      rw [ofFields_eq] at given
      obtain ⟨items, read, given⟩ := exists_ok_of_bind given
      obtain ⟨flag, flagged, _⟩ := exists_ok_of_bind given
      rcases wrong with ⟨name, id, misfit⟩ | bad
      · exact absurd misfit (not_misfit_of_readItems read name id)
      · rw [flagOrNo_eq_error_iff.mpr ⟨bad, rfl⟩] at flagged
        cases flagged

theorem parents_congr (agree : ∀ name, Concerns fields name → other[name]? = fields[name]?) :
    parents other = parents fields := by
  refine eq_of_ascending Prod.fst (parents_ascend other) (parents_ascend fields) ?_
  rintro ⟨name, id, parent⟩
  rw [mem_parents, mem_parents, GivesParent, GivesParent]
  refine and_congr_right fun names => ?_
  rw [agree name (.inr (.inl ⟨id, names⟩))]

theorem ofFields_congr (agree : ∀ name, Concerns fields name → other[name]? = fields[name]?) :
    Setup.ofFields other = Setup.ofFields fields := by
  have items : ∀ row ∈ parents fields, readItem other row.2.1 row.2.2 = readItem fields row.2.1 row.2.2 := by
    rintro ⟨name, id, parent⟩ member
    have gives := mem_parents.mp member
    have map := agree (mapField id) (.inr (.inr ⟨name, id, parent, gives, .inl rfl⟩))
    have named := agree (nameField id) (.inr (.inr ⟨name, id, parent, gives, .inr rfl⟩))
    rw [readItem, readItem, numberOrZero, numberOrZero, givenName, givenName, map, named]
  have flag : flagOrNo other unavailableField = flagOrNo fields unavailableField := by
    rw [flagOrNo, flagOrNo, agree unavailableField (.inl rfl)]
  rw [ofFields_eq, ofFields_eq, parents_congr agree, mapM_congr items, flag]

/-- A board cannot be set up if and only if an item with a parent has a map that is not a number, or the flag for
the whole board is neither a boolean nor a number. The first such item is reported, in the order of the bytes of
the names of the fields that give parents, and the flag only if there is none. Other fields than the flag, those
that may give parents, and the maps and names of items with parents make no difference. -/
theorem ofFields_fails_exactly (fields : FieldTable) :
    ((∃ fault, Setup.ofFields fields = .error fault) ↔ (∃ name id, Misfit fields name id) ∨ BadFlag fields) ∧
      (∀ fault, Setup.ofFields fields = .error fault ↔ FirstMisfit fields fault ∨
        (∀ name id, ¬ Misfit fields name id) ∧ BadFlag fields ∧
          fault = .invalidField unavailableField .notAFlag) ∧
      ∀ other : FieldTable, (∀ name, Concerns fields name → other[name]? = fields[name]?) →
        Setup.ofFields other = Setup.ofFields fields := by
  exact ⟨fails_iff, fun _ => ofFields_eq_error_iff, fun _ => ofFields_congr⟩

/-- Items are reported in the order of names and not of numbers, and an item without a parent is not reported. -/
example : Setup.ofFields (.ofList [("map.parent.2", Json.nat 0), ("mapid.2", Json.bool true),
    ("map.parent.10", Json.string "2"), ("mapid.10", Json.string "x"), ("map.parent.1", Json.string "x"),
    ("mapid.1", Json.string "x"), ("show_unavailable", Json.string "maybe")]) =
      .error (.invalidField "mapid.10" .notANumber) := by
  decide +kernel

end ProblemBoard.Widget
