import ProblemBoard.Proofs.Setups

/-! # Numbers spelled out in the fields of a board

To everything that reads a field, a number without sign and the text of its digits are one value: they are the
same number, the same flag and the same name, and neither is null. So it makes no difference to a board which of
its numbers are given as text, whether it can be set up or not.
-/

namespace ProblemBoard.Widget

open Decimal Navigation

/-- Whatever reads a field takes the two values for one. -/
structure Alike (value twin : Json) : Prop where
  number : numeric? twin = numeric? value
  flag : flag? twin = flag? value
  name : name? twin = name? value
  null : twin = .null ↔ value = .null

/-- The fields have the same names, and under each of them values that are taken for one. -/
def AlikeFields (fields other : FieldTable) : Prop :=
  ∀ name : String, fields[name]? = none ∧ other[name]? = none ∨
    ∃ value twin, fields[name]? = some value ∧ other[name]? = some twin ∧ Alike value twin

/-- The other fields are the same, except that some numbers without sign are spelled out in decimal digits. -/
def SpellsOut (fields other : FieldTable) : Prop :=
  ∀ name : String, other[name]? = fields[name]? ∨ ∃ number : UInt64,
    fields[name]? = some (Json.nat number.toNat) ∧ other[name]? = some (Json.string (natText number.toNat))

section Values

theorem text_int (number : UInt64) : (Json.Number.int number.toNat).text = natText number.toNat := by
  simp [Json.Number.text, Json.Number.numeral, Json.Numeral.ofInt, Json.Numeral.chars, natText]

theorem numeric?_nat (number : UInt64) : numeric? (.nat number.toNat) = some number :=
  numeric?_eq_some_iff.mpr rfl

theorem numeric?_natText (number : UInt64) : numeric? (.string (natText number.toNat)) = some number := by
  rw [numeric?_eq_some_iff]
  exact ⟨[], [], (natText number.toNat).toList, [], by simp, by simp, .inl rfl, Text.writes_natText number⟩

theorem flag?_of_numeric? {value : Json} {number : UInt64} (read : numeric? value = some number) :
    flag? value = some (number != 0) := by
  rw [flag?_eq_some_iff]
  exact .inr ⟨number, numeric?_eq_some_iff.mp read, rfl⟩

/-- A number and the text of its digits are taken for one. -/
theorem alike_natText (number : UInt64) : Alike (.nat number.toNat) (.string (natText number.toNat)) := by
  have plain := numeric?_nat number
  have written := numeric?_natText number
  have named : name? (.string (natText number.toNat)) = name? (.nat number.toNat) := by
    rw [Json.nat, name?, name?, text_int]
  exact ⟨written.trans plain.symm, (flag?_of_numeric? written).trans (flag?_of_numeric? plain).symm, named,
    by simp [Json.nat]⟩

end Values

section Fields

variable {fields other : FieldTable}

theorem SpellsOut.empty : SpellsOut ∅ ∅ := fun _ => .inl rfl

theorem SpellsOut.keep (spells : SpellsOut fields other) (name : String) (value : Json) :
    SpellsOut (fields.insert name value) (other.insert name value) := by
  intro place
  rw [Std.ExtTreeMap.getElem?_insert, Std.ExtTreeMap.getElem?_insert]
  split
  · exact .inl rfl
  · exact spells place

theorem SpellsOut.spell (spells : SpellsOut fields other) (name : String) (number : UInt64) :
    SpellsOut (fields.insert name (.nat number.toNat)) (other.insert name (.string (natText number.toNat))) := by
  intro place
  rw [Std.ExtTreeMap.getElem?_insert, Std.ExtTreeMap.getElem?_insert]
  split
  · exact .inr ⟨number, rfl, rfl⟩
  · exact spells place

theorem SpellsOut.alike (spells : SpellsOut fields other) : AlikeFields fields other := by
  intro name
  rcases spells name with same | ⟨number, given, spelled⟩
  · rw [same]
    cases fields[name]? with
    | none => exact .inl ⟨rfl, rfl⟩
    | some value => exact .inr ⟨value, value, rfl, rfl, rfl, rfl, rfl, Iff.rfl⟩
  · exact .inr ⟨_, _, given, spelled, alike_natText number⟩

theorem AlikeFields.parents_eq (alike : AlikeFields fields other) : parents other = parents fields := by
  refine eq_of_ascending Prod.fst (parents_ascend other) (parents_ascend fields) ?_
  rintro ⟨name, id, parent⟩
  rw [mem_parents, mem_parents, GivesParent, GivesParent]
  refine and_congr_right fun _ => ?_
  rcases alike name with ⟨absent, missing⟩ | ⟨value, twin, given, spelled, same⟩
  · simp [absent, missing]
  · simp [given, spelled, ← numeric?_eq_some_iff, same.number]

theorem AlikeFields.readOr_eq {α : Type} {read : Json → Option α} {blank : α} {reason : FieldReason}
    (alike : AlikeFields fields other) (reads : ∀ value twin, Alike value twin → read twin = read value)
    (name : String) : readOr other read blank reason name = readOr fields read blank reason name := by
  rcases alike name with ⟨absent, missing⟩ | ⟨value, twin, given, spelled, same⟩
  · rw [readOr_of_missing (.inl absent), readOr_of_missing (.inl missing)]
  · by_cases empty : value = .null
    · have blanked := same.null.mpr empty
      subst empty blanked
      rw [readOr_of_missing (.inr given), readOr_of_missing (.inr spelled)]
    · have present : twin ≠ .null := fun blanked => empty (same.null.mp blanked)
      rw [readOr_of_present given empty, readOr_of_present spelled present, reads value twin same]

theorem AlikeFields.givenName_eq (alike : AlikeFields fields other) (id : ItemId) :
    givenName other id = givenName fields id := by
  rw [← Widget.givenName_eq, ← Widget.givenName_eq]
  rcases alike (nameField id) with ⟨absent, missing⟩ | ⟨value, twin, given, spelled, same⟩
  · rw [absent, missing]
  · rw [given, spelled, Option.bind_some, Option.bind_some, same.name]

/-- Fields whose values are taken for one set up the same board, or fail to for the same reason. -/
theorem AlikeFields.ofFields_eq (alike : AlikeFields fields other) :
    Setup.ofFields other = Setup.ofFields fields := by
  have items (id parent : ItemId) : readItem other id parent = readItem fields id parent := by
    rw [readItem, readItem, numberOrZero_eq, numberOrZero_eq, alike.readOr_eq fun _ _ same => same.number,
      alike.givenName_eq]
  have flag : flagOrNo other unavailableField = flagOrNo fields unavailableField := by
    rw [flagOrNo_eq, flagOrNo_eq, alike.readOr_eq fun _ _ same => same.flag]
  rw [Widget.ofFields_eq, Widget.ofFields_eq, alike.parents_eq, flag]
  simp only [items]

end Fields

/-- Numbers and the texts of their digits are interchangeable in the fields of a board: whichever numbers without
sign are spelled out, the same board is set up, or it fails to be for the same reason. -/
theorem ofFields_spelledOut {fields other : FieldTable} (spells : SpellsOut fields other) :
    Setup.ofFields other = Setup.ofFields fields :=
  spells.alike.ofFields_eq

/-- An item with the greatest map number and a number for a name, and the map of an item that does not exist. -/
def numberedFields : FieldTable :=
  let fields : FieldTable := (∅ : FieldTable).insert "map.parent.2" (.nat 1)
  let fields := fields.insert "mapid.2" (.nat 18446744073709551615)
  let fields := fields.insert "map.name.2" (.nat 7)
  let fields := fields.insert "mapid.3" (.bool true)
  fields.insert "show_unavailable" (.nat 1)

/-- The same fields with the parent, the map and the name as text. -/
def writtenFields : FieldTable :=
  let fields : FieldTable := (∅ : FieldTable).insert "map.parent.2" (.string (natText 1))
  let fields := fields.insert "mapid.2" (.string (natText 18446744073709551615))
  let fields := fields.insert "map.name.2" (.string (natText 7))
  let fields := fields.insert "mapid.3" (.bool true)
  fields.insert "show_unavailable" (.nat 1)

theorem ofFields_spelledOut_written :
    SpellsOut numberedFields writtenFields ∧
      writtenFields["mapid.2"]? = some (.string "18446744073709551615") ∧
      Setup.ofFields numberedFields = .ok ⟨[⟨⟨2⟩, "7", ⟨1⟩, ⟨18446744073709551615⟩, ∅⟩], true⟩ ∧
      Setup.ofFields writtenFields = .ok ⟨[⟨⟨2⟩, "7", ⟨1⟩, ⟨18446744073709551615⟩, ∅⟩], true⟩ := by
  have spells : SpellsOut numberedFields writtenFields :=
    ((((SpellsOut.empty.spell "map.parent.2" 1).spell "mapid.2" 18446744073709551615).spell "map.name.2" 7).keep
      "mapid.3" (.bool true)).keep "show_unavailable" (.nat 1)
  have given : Setup.ofFields numberedFields = .ok ⟨[⟨⟨2⟩, "7", ⟨1⟩, ⟨18446744073709551615⟩, ∅⟩], true⟩ := by
    have read : ((parents numberedFields).mapM fun row => readItem numberedFields row.2.1 row.2.2) =
        .ok [⟨⟨2⟩, "7", ⟨1⟩, ⟨18446744073709551615⟩, ∅⟩] := by decide +kernel
    have flagged : flagOrNo numberedFields unavailableField = .ok true := by decide +kernel
    rw [ofFields_of_read read flagged, List.mergeSort_singleton]
  have written : writtenFields["mapid.2"]? = some (.string "18446744073709551615") := by
    have digits : natText 18446744073709551615 = "18446744073709551615" := by decide +kernel
    simp [writtenFields, Std.ExtTreeMap.getElem_insert, digits]
  exact ⟨spells, written, given, (ofFields_spelledOut spells).trans given⟩

end ProblemBoard.Widget
