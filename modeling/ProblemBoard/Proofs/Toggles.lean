import ProblemBoard.Proofs.FieldNumbers
import ProblemBoard.Proofs.Settings

/-! # The names that stand for an item

The name of an item's entry is read with some freedom: a plus sign and zeros may stand in front of the number. So
an item has many names, of which the board itself writes only the plain one, and that is the one it deletes. Among
entries of any kind an item is listed once for each of its names, and closing it takes away one of them at most.
-/

namespace ProblemBoard

open Decimal

namespace Decimal

theorem value_zeros_append (zeros : Nat) (digits : List Digit) :
    value (List.replicate zeros 0 ++ digits) = value digits := by
  induction zeros with
  | zero => rfl
  | succ zeros ih => exact ih

/-- Digits are those of their number, with zeros in front. -/
theorem exists_zeros_of_ne_nil {written : List Digit} (nonempty : written ≠ []) :
    ∃ zeros, written = List.replicate zeros 0 ++ digits (value written) := by
  induction written using List.reverseRecOn with
  | nil => exact absurd rfl nonempty
  | append_singleton front digit ih =>
    have single (number : Nat) (same : number = digit.val) : digits number = [digit] := by
      subst same
      exact digits_of_lt digit.isLt
    rw [value_concat]
    by_cases alone : front = []
    · subst alone
      exact ⟨0, (single _ (Nat.zero_add _)).symm⟩
    · obtain ⟨zeros, split⟩ := ih alone
      by_cases nothing : value front = 0
      · rw [nothing, digits_of_lt (by decide : 0 < 10)] at split
        refine ⟨zeros + 1, ?_⟩
        rw [nothing, single _ (Nat.zero_add _), split, List.replicate_succ']
        rfl
      · have last : (10 * value front + digit.val) % 10 = digit.val := by omega
        have others : (10 * value front + digit.val) / 10 = value front := by omega
        refine ⟨zeros, ?_⟩
        rw [digits_of_le (by omega), others, ← List.append_assoc, ← split]
        simp only [last]

end Decimal

/-- The texts of a number are its plain text with zeros in front. -/
theorem Text.writes_iff_exists_zeros {chars : List Char} {number : UInt64} :
    Writes chars number ↔ ∃ zeros, chars = List.replicate zeros '0' ++ (natText number.toNat).toList := by
  have padded (zeros : Nat) : List.replicate zeros '0' ++ (natText number.toNat).toList =
      (List.replicate zeros 0 ++ digits number.toNat).map digitChar := by
    rw [List.map_append, List.map_replicate, natText, String.toList_ofList]
    rfl
  constructor
  · rintro ⟨written, nonempty, rfl, same⟩
    obtain ⟨zeros, split⟩ := exists_zeros_of_ne_nil nonempty
    rw [same] at split
    exact ⟨zeros, by rw [padded, ← split]⟩
  · rintro ⟨zeros, rfl⟩
    exact ⟨_, by simp [digits_ne_nil], padded zeros, by rw [value_zeros_append, value_digits]⟩

namespace Profile

/-- The name spells the item: it is the plain name of the item's entry, but for a plus sign and zeros in front of
the number. -/
def Spells (name : String) (item : ItemId) : Prop :=
  ∃ (sign : String) (zeros : Nat), (sign = "" ∨ sign = "+") ∧
    name = toggleFront ++ sign ++ String.ofList (List.replicate zeros '0') ++ natText item.toNat ++ toggleBack

section Names

variable {name : String} {item : ItemId}

theorem itemOfName?_eq_some_iff : itemOfName? name = some item ↔ Spells name item := by
  constructor
  · intro found
    obtain ⟨rest, front, found⟩ := Option.bind_eq_some_iff.mp found
    obtain ⟨middle, back, found⟩ := Option.bind_eq_some_iff.mp found
    obtain ⟨number, read, found⟩ := Option.bind_eq_some_iff.mp found
    obtain rfl := Option.some.inj found
    obtain ⟨sign, written, split, signed, writes⟩ := Text.natural?_eq_some_iff.mp read
    obtain ⟨zeros, padded⟩ := Text.writes_iff_exists_zeros.mp writes
    have whole := Text.dropFront?_eq_some_iff.mp front
    rw [Text.dropBack?_eq_some_iff.mp back, split, padded] at whole
    refine ⟨String.ofList sign, zeros, ?_, ?_⟩
    · rcases signed with rfl | rfl <;> simp
    · rw [← String.toList_inj, whole]
      simp [Ident.toNat]
  · rintro ⟨sign, zeros, signed, rfl⟩
    let written := List.replicate zeros '0' ++ (natText item.toNat).toList
    have front : Text.dropFront? toggleFront.toList
        (toggleFront ++ sign ++ String.ofList (List.replicate zeros '0') ++ natText item.toNat ++ toggleBack).toList =
          some (sign.toList ++ written ++ toggleBack.toList) := by
      simp [Text.dropFront?_eq_some_iff, written]
    have back : Text.dropBack? toggleBack.toList (sign.toList ++ written ++ toggleBack.toList) =
        some (sign.toList ++ written) := Text.dropBack?_eq_some_iff.mpr rfl
    have signs : sign.toList = [] ∨ sign.toList = ['+'] := by
      rcases signed with rfl | rfl <;> simp
    have number : Text.natural? (sign.toList ++ written) = some item.val :=
      Text.natural?_eq_some_iff.mpr ⟨_, written, rfl, signs, Text.writes_iff_exists_zeros.mpr ⟨zeros, rfl⟩⟩
    simp only [itemOfName?, front, back, number, Option.bind_eq_bind, Option.bind_some]
    rfl

theorem Spells.begins (spells : Spells name item) : toggleFront.toList <+: name.toList := by
  obtain ⟨_, _, _, rfl⟩ := spells
  simp only [String.toList_append, List.append_assoc]
  exact List.prefix_append ..

theorem Spells.ends (spells : Spells name item) : toggleBack.toList <:+ name.toList := by
  obtain ⟨_, _, _, rfl⟩ := spells
  rw [String.toList_append]
  exact List.suffix_append ..

end Names

section Entries

variable (profile : Profile) (user widget : Int) (item : ItemId)

/-- The names that spell an item among a user's entries for a widget. -/
def spellings : List String :=
  (profile.find user widget toggleFront toggleBack).filter fun name => itemOfName? name == some item

variable {profile user widget item}

theorem mem_spellings {name : String} : name ∈ profile.spellings user widget item ↔
    (∃ text, profile.get? user widget name = some text) ∧ Spells name item := by
  rw [spellings, List.mem_filter, mem_find, beq_iff_eq, itemOfName?_eq_some_iff]
  constructor
  · rintro ⟨⟨found, _⟩, spells⟩
    exact ⟨found, spells⟩
  · rintro ⟨found, spells⟩
    exact ⟨⟨found, spells.begins, spells.ends⟩, spells⟩

theorem nodup_spellings : (profile.spellings user widget item).Nodup := nodup_find.filter _

/-- An item is listed as often as there are entries whose names spell it. -/
theorem count_opened : (profile.opened user widget).count item = (profile.spellings user widget item).length := by
  rw [opened, ProfileStore.opened, (List.mergeSort_perm _ _).count_eq, List.count_filterMap,
    List.countP_eq_length_filter]
  rfl

/-- Closing an item deletes its plain name and no other. -/
theorem spellings_close : ((profile.setOpened user widget item false).spellings user widget item).Perm
    ((profile.spellings user widget item).erase (toggleName item)) := by
  rw [List.perm_ext_iff_of_nodup nodup_spellings (nodup_spellings.erase _)]
  intro name
  have left_over : (profile.setOpened user widget item false).get? user widget name =
      if toggleName item = name then none else profile.get? user widget name := by
    have deleted : profile.setOpened user widget item false = profile.delete user widget (toggleName item) := rfl
    rw [deleted, get?_delete]
    simp
  rw [nodup_spellings.mem_erase_iff, mem_spellings, mem_spellings, left_over]
  by_cases plain : toggleName item = name
  · simp [plain]
  · simp [plain, Ne.symm plain]

end Entries

/-- An item has the names that spell it, and no others. Whatever entries a store keeps, it lists the item as often as
there are entries with such names, and of these, closing the item deletes the one with the plain name. Where that is
the only one, the item is listed once at most, and not at all after it was closed. -/
theorem opened_as_spelled {σ : Type} [ProfileStore σ] {profile : σ → Profile}
    (keeps : ProfileStore.KeepsIn profile) (store : σ) (user widget : Int) (item : ItemId) :
    (∀ name, itemOfName? name = some item ↔ Spells name item) ∧
      ∃ names : List String, names.Nodup ∧
        (∀ name, name ∈ names ↔ (∃ text, ProfileStore.get? store user widget name = some text) ∧ Spells name item) ∧
        (ProfileStore.opened store user widget).count item = names.length ∧
        (ProfileStore.opened (ProfileStore.setOpened store user widget item false) user widget).count item =
          (names.erase (toggleName item)).length ∧
        ((∀ name ∈ names, name = toggleName item) → (ProfileStore.opened store user widget).count item ≤ 1 ∧
          item ∉ ProfileStore.opened (ProfileStore.setOpened store user widget item false) user widget) := by
  simp only [keeps.get?, keeps.opened_eq, keeps.profile_setOpened]
  have closed : (((profile store).setOpened user widget item false).opened user widget).count item =
      (((profile store).spellings user widget item).erase (toggleName item)).length := by
    rw [count_opened, spellings_close.length_eq]
  refine ⟨fun _ => itemOfName?_eq_some_iff, (profile store).spellings user widget item, nodup_spellings,
    fun _ => mem_spellings, count_opened, closed, fun plain => ?_⟩
  have few : ((profile store).spellings user widget item).Subperm [toggleName item] :=
    nodup_spellings.subperm fun name member => List.mem_singleton.mpr (plain name member)
  have none_left : ((profile store).spellings user widget item).erase (toggleName item) = [] := by
    refine List.eq_nil_iff_forall_not_mem.mpr fun name member => ?_
    obtain ⟨other, kept⟩ := nodup_spellings.mem_erase_iff.mp member
    exact other (plain name kept)
  constructor
  · rw [count_opened]
    exact few.length_le
  · rw [← List.count_eq_zero, closed, none_left, List.length_nil]

/-- A profile with an entry for the seventh item under its plain name, and one under a name with zeros. -/
def zeroedProfile : Profile :=
  (Profile.setOpened ∅ 1 1 ⟨7⟩ true).set 1 1 "web.dashbrd.navtree-007.toggle" "1"

/-- In a database with these entries, the item is listed under both names, and under one of them after it was
closed. -/
theorem opened_as_spelled_doubled :
    let database : Database := { Database.empty with profile := zeroedProfile }
    ProfileStore.KeepsIn Database.profile ∧
      ∃ names : List String, names.Nodup ∧ names.length = 2 ∧
        (∀ name, name ∈ names ↔ (∃ text, ProfileStore.get? database 1 1 name = some text) ∧ Spells name ⟨7⟩) ∧
        ⟨7⟩ ∈ ProfileStore.opened (ProfileStore.setOpened database 1 1 ⟨7⟩ false) 1 1 := by
  intro database
  obtain ⟨_, names, distinct, spelled, listed, closed, _⟩ :=
    opened_as_spelled Database.keepsIn_profile database 1 1 ⟨7⟩
  have twice : names.length = 2 := by
    rw [← listed, Database.keepsIn_profile.opened_eq, count_opened]
    decide +kernel
  refine ⟨Database.keepsIn_profile, names, distinct, twice, spelled, List.count_pos_iff.mp ?_⟩
  rw [closed, List.length_erase]
  split <;> omega

/-- A name may be read as an item without being its plain name, and so an item may be listed twice, and also after
it was closed. -/
theorem opened_under_two_names :
    (¬ ∀ name item, itemOfName? name = some item ↔ name = toggleName item) ∧
      (¬ ∀ (profile : Profile) (user widget : Int), (profile.opened user widget).Nodup) ∧
      ¬ ∀ (profile : Profile) (user widget : Int) (item : ItemId),
        item ∉ (profile.setOpened user widget item false).opened user widget := by
  refine ⟨fun claim => ?_, fun claim => ?_, fun claim => ?_⟩
  · have plain := (claim "web.dashbrd.navtree-+7.toggle" ⟨7⟩).mp (by decide +kernel)
    revert plain
    decide +kernel
  · have few := List.nodup_iff_count_le_one.mp (claim zeroedProfile 1 1) ⟨7⟩
    rw [count_opened] at few
    revert few
    decide +kernel
  · have gone := List.count_eq_zero.mpr (claim zeroedProfile 1 1 ⟨7⟩)
    rw [count_opened] at gone
    revert gone
    decide +kernel

end Profile

end ProblemBoard
