import Mathlib.Data.List.Basic
import ProblemBoard.Text.Bytes
import ProblemBoard.Widget.Fields

/-! # Numbers in the fields of a board

A field holds a number if it is an integer of at most 64 bits without sign, or text that writes one in decimal
digits: zeros may stand in front of them, then a plus sign, and blanks on both sides. The name of a field that
gives a parent ends in digits as well, with nothing else around them. Such names consist of ASCII characters,
so their order is that of their bytes.
-/

namespace ProblemBoard

open Decimal

namespace Text

/-- The text consists of the decimal digits of a number, perhaps with zeros in front. -/
def Writes (chars : List Char) (number : UInt64) : Prop :=
  ∃ digits : List Digit, digits ≠ [] ∧ chars = digits.map digitChar ∧ value digits = number.toNat

section Digits

variable {chars : List Char} {number : UInt64}

theorem digit?_eq_some_iff {c : Char} {digit : Digit} : digit? c = some digit ↔ c = digitChar digit := by
  constructor
  · intro found
    rw [digit?] at found
    split at found
    · next bounds =>
      obtain rfl := Option.some.inj found
      rw [digitChar, Nat.add_sub_cancel' bounds.1, Char.ofNat_toNat]
    · cases found
  · rintro rfl
    exact digit?_digitChar digit

theorem digits?_eq_some_iff {digits : List Digit} : digits? chars = some digits ↔ chars = digits.map digitChar := by
  constructor
  · intro found
    induction chars generalizing digits with
    | nil =>
      obtain rfl := Option.some.inj found
      rfl
    | cons c rest ih =>
      rw [digits?, List.mapM_cons] at found
      obtain ⟨digit, first, found⟩ := Option.bind_eq_some_iff.mp found
      obtain ⟨others, later, found⟩ := Option.bind_eq_some_iff.mp found
      obtain rfl := Option.some.inj found
      rw [List.map_cons, ← ih later, digit?_eq_some_iff.mp first]
  · rintro rfl
    exact digits?_map_digitChar digits

theorem plainNatural?_eq_some_iff : plainNatural? chars = some number ↔ Writes chars number := by
  constructor
  · intro found
    rw [plainNatural?] at found
    split at found
    · cases found
    · cases found
    · next digits nonempty read =>
      split at found
      · next bound =>
        obtain rfl := Option.some.inj found
        exact ⟨digits, nonempty, digits?_eq_some_iff.mp read, (UInt64.toNat_ofNat_of_lt bound).symm⟩
      · cases found
  · rintro ⟨digits, nonempty, rfl, written⟩
    rw [plainNatural?, digits?_map_digitChar]
    cases digits with
    | nil => exact absurd rfl nonempty
    | cons digit rest =>
      simp only [written, number.toNat_lt, if_true]
      simp

theorem natural?_eq_some_iff : natural? chars = some number ↔
    ∃ sign digits, chars = sign ++ digits ∧ (sign = [] ∨ sign = ['+']) ∧ Writes digits number := by
  constructor
  · intro found
    rw [natural?.eq_def] at found
    split at found
    · next rest => exact ⟨['+'], rest, rfl, .inr rfl, plainNatural?_eq_some_iff.mp found⟩
    · next other _ => exact ⟨[], chars, rfl, .inl rfl, plainNatural?_eq_some_iff.mp found⟩
  · rintro ⟨_, written, rfl, rfl | rfl, writes⟩
    · obtain ⟨digits, nonempty, rfl, same⟩ := writes
      cases digits with
      | nil => exact absurd rfl nonempty
      | cons digit rest =>
        have unsigned : ∀ digit : Digit, digitChar digit ≠ '+' := by decide
        have plain : natural? ((digit :: rest).map digitChar) = plainNatural? ((digit :: rest).map digitChar) := by
          simp [natural?, unsigned digit]
        rw [List.nil_append, plain]
        exact plainNatural?_eq_some_iff.mpr ⟨digit :: rest, nonempty, rfl, same⟩
    · exact plainNatural?_eq_some_iff.mpr writes

/-- There is no blank in a number. -/
theorem Writes.solid (writes : Writes chars number) : ∀ c ∈ chars, isBlank c = false := by
  obtain ⟨digits, _, rfl, _⟩ := writes
  have each : ∀ digit : Digit, isBlank (digitChar digit) = false := by decide
  simp [each]

theorem Writes.ne_nil (writes : Writes chars number) : chars ≠ [] := by
  obtain ⟨digits, nonempty, rfl, _⟩ := writes
  simpa using nonempty

theorem writes_natText (number : UInt64) : Writes (natText number.toNat).toList number :=
  ⟨digits number.toNat, digits_ne_nil _, String.toList_ofList, value_digits _⟩

end Digits

section Blanks

variable {front core back : List Char}

theorem exists_blanks_around_trim (chars : List Char) : ∃ front back, chars = front ++ trim chars ++ back ∧
    ∀ c ∈ front ++ back, isBlank c = true := by
  let rest := chars.dropWhile isBlank
  have begins : chars.takeWhile isBlank ++ rest = chars := List.takeWhile_append_dropWhile
  have ends : trim chars ++ (rest.reverse.takeWhile isBlank).reverse = rest := by
    rw [trim, ← List.reverse_append, List.takeWhile_append_dropWhile, List.reverse_reverse]
  refine ⟨chars.takeWhile isBlank, (rest.reverse.takeWhile isBlank).reverse, ?_, fun c member => ?_⟩
  · rw [List.append_assoc, ends, begins]
  · rw [List.mem_append, List.mem_reverse] at member
    exact member.elim (List.all_eq_true.mp List.all_takeWhile c) (List.all_eq_true.mp List.all_takeWhile c)

theorem dropWhile_blanks (blank : ∀ c ∈ front, isBlank c = true) (solid : ∀ c ∈ core, isBlank c = false)
    (nonempty : core ≠ []) : (front ++ (core ++ back)).dropWhile isBlank = core ++ back := by
  rw [List.dropWhile_append_of_pos blank]
  cases core with
  | nil => exact absurd rfl nonempty
  | cons c rest => exact List.dropWhile_cons_of_neg (by simp [solid c])

theorem trim_of_blanks_around (blank : ∀ c ∈ front ++ back, isBlank c = true)
    (solid : ∀ c ∈ core, isBlank c = false) (nonempty : core ≠ []) : trim (front ++ core ++ back) = core := by
  rw [List.forall_mem_append] at blank
  have ends : (back.reverse ++ (core.reverse ++ [])).dropWhile isBlank = core.reverse ++ [] :=
    dropWhile_blanks (by simpa using blank.2) (by simpa using solid) (by simpa using nonempty)
  rw [List.append_nil] at ends
  rw [trim, List.append_assoc, dropWhile_blanks blank.1 solid nonempty, List.reverse_append, ends,
    List.reverse_reverse]

end Blanks

section Bytes

variable {front back : String}

/-- A character in ASCII is one byte. -/
theorem bytes_of_ascii {text : String} (ascii : ∀ c ∈ text.toList, c.toNat < 128) :
    bytes text = text.toList.map fun c => c.val.toUInt8 := by
  rw [bytes, List.map_eq_flatMap]
  refine List.flatMap_congr fun c member => String.utf8EncodeChar_eq_singleton (Char.utf8Size_eq_one_iff.mpr ?_)
  exact Nat.le_of_lt_succ (ascii c member)

theorem toNat_byte {c : Char} (ascii : c.toNat < 128) : c.val.toUInt8.toNat = c.toNat := by
  rw [UInt32.toNat_toUInt8]
  exact Nat.mod_eq_of_lt (by change c.toNat < 256; omega)

/-- The order of characters in ASCII is that of their bytes. -/
theorem map_byte_lt_iff {chars others : List Char} (ascii : ∀ c ∈ chars, c.toNat < 128)
    (others_ascii : ∀ c ∈ others, c.toNat < 128) :
    chars.map (fun c => c.val.toUInt8) < others.map (fun c => c.val.toUInt8) ↔ chars < others := by
  induction chars generalizing others with
  | nil => cases others <;> simp
  | cons c rest ih =>
    cases others with
    | nil => simp
    | cons d more =>
      rw [List.forall_mem_cons] at ascii others_ascii
      have less : c.val.toUInt8 < d.val.toUInt8 ↔ c < d := by
        rw [UInt8.lt_iff_toNat_lt, toNat_byte ascii.1, toNat_byte others_ascii.1]
        rfl
      have same : c.val.toUInt8 = d.val.toUInt8 ↔ c = d := by
        rw [← UInt8.toNat_inj, toNat_byte ascii.1, toNat_byte others_ascii.1, Char.toNat_inj]
      rw [List.map_cons, List.map_cons, List.cons_lt_cons_iff, List.cons_lt_cons_iff, less, same,
        ih ascii.2 others_ascii.2]

/-- The order of names in ASCII is that of their bytes. -/
theorem compare_eq_lt_iff_bytes (front_ascii : ∀ c ∈ front.toList, c.toNat < 128)
    (back_ascii : ∀ c ∈ back.toList, c.toNat < 128) :
    compare front back = .lt ↔ bytes front < bytes back := by
  rw [bytes_of_ascii front_ascii, bytes_of_ascii back_ascii, map_byte_lt_iff front_ascii back_ascii]
  exact compareOfLessAndEq_eq_lt.trans String.lt_iff

end Bytes

end Text

namespace Widget

/-- The value holds the number: as an integer, or as text in digits, perhaps with a plus sign in front of them
and blanks around. -/
def HoldsNumber : Json → UInt64 → Prop
  | .number (.int value), number => value = number.toNat
  | .string text, number => ∃ front sign digits back, text.toList = front ++ (sign ++ digits) ++ back ∧
      (∀ c ∈ front ++ back, Text.isBlank c = true) ∧ (sign = [] ∨ sign = ['+']) ∧ Text.Writes digits number
  | _, _ => False

/-- The value holds the flag: as a boolean, or as a number, of which all but zero mean yes. -/
def HoldsFlag (value : Json) (flag : Bool) : Prop :=
  value = .bool flag ∨ ∃ number, HoldsNumber value number ∧ flag = (number != 0)

/-- The name is that of the field that gives the parent of the item. -/
def NamesParentOf (name : String) (id : ItemId) : Prop :=
  ∃ digits, name.toList = "map.parent.".toList ++ digits ∧ Text.Writes digits id.val

/-- The name of the field that gives the parent of an item, in plain decimal. -/
def parentField (id : ItemId) : String := "map.parent." ++ natText id.toNat

variable {value : Json} {number : UInt64} {name : String} {id : ItemId}

theorem numeric?_eq_some_iff : numeric? value = some number ↔ HoldsNumber value number := by
  cases value with
  | null | bool | array | object => simp [numeric?, HoldsNumber]
  | number held =>
    cases held with
    | float value => simp [numeric?, HoldsNumber, Json.Number.natural?]
    | int held =>
      simp only [numeric?, HoldsNumber, Json.Number.natural?]
      constructor
      · intro found
        split at found
        · next bounds =>
          obtain rfl := Option.some.inj found
          have small : held.toNat < UInt64.size := (Int.toNat_lt bounds.1).mpr bounds.2
          rw [Nat.toUInt64_eq, UInt64.toNat_ofNat_of_lt' small, Int.toNat_of_nonneg bounds.1]
        · cases found
      · rintro rfl
        rw [if_pos ⟨Int.natCast_nonneg _, Int.ofNat_lt.mpr number.toNat_lt⟩]
        simp
  | string text =>
    rw [numeric?, Text.natural?_eq_some_iff, HoldsNumber]
    constructor
    · rintro ⟨sign, digits, split, signed, writes⟩
      obtain ⟨front, back, whole, blank⟩ := Text.exists_blanks_around_trim text.toList
      exact ⟨front, sign, digits, back, split ▸ whole, blank, signed, writes⟩
    · rintro ⟨front, sign, digits, back, whole, blank, signed, writes⟩
      have solid : ∀ c ∈ sign ++ digits, Text.isBlank c = false := by
        rw [List.forall_mem_append]
        refine ⟨?_, writes.solid⟩
        rcases signed with rfl | rfl
        · exact List.forall_mem_nil _
        · exact List.forall_mem_singleton.mpr (by decide)
      have nonempty : sign ++ digits ≠ [] := by simp [writes.ne_nil]
      rw [whole, Text.trim_of_blanks_around blank solid nonempty]
      exact ⟨sign, digits, rfl, signed, writes⟩

theorem flag?_eq_some_iff {flag : Bool} : flag? value = some flag ↔ HoldsFlag value flag := by
  have number_only (other : ∀ held, value ≠ .bool held) :
      (numeric? value).map (· != 0) = some flag ↔ HoldsFlag value flag := by
    simp only [HoldsFlag, other, false_or, Option.map_eq_some_iff, numeric?_eq_some_iff, eq_comm (a := flag)]
  cases value with
  | bool held => simp [flag?, HoldsFlag, HoldsNumber]
  | null | number | string | array | object => exact number_only nofun

theorem parentField?_eq_some_iff : parentField? name = some id ↔ NamesParentOf name id := by
  constructor
  · intro found
    obtain ⟨digits, split, found⟩ := Option.bind_eq_some_iff.mp found
    obtain ⟨number, read, found⟩ := Option.bind_eq_some_iff.mp found
    obtain rfl := Option.some.inj found
    exact ⟨digits, Text.dropFront?_eq_some_iff.mp split, Text.plainNatural?_eq_some_iff.mp read⟩
  · rintro ⟨digits, split, writes⟩
    rw [parentField?, Text.dropFront?_eq_some_iff.mpr split]
    change (Text.plainNatural? digits >>= _) = _
    rw [Text.plainNatural?_eq_some_iff.mpr writes]
    rfl

theorem NamesParentOf.ascii (names : NamesParentOf name id) : ∀ c ∈ name.toList, c.toNat < 128 := by
  obtain ⟨_, split, digits, _, rfl, _⟩ := names
  have front : ("map.parent.".toList.all fun c => decide (c.toNat < 128)) = true := by decide +kernel
  have back : ∀ digit : Digit, (digitChar digit).toNat < 128 := by decide
  rw [split, List.forall_mem_append]
  exact ⟨fun c member => of_decide_eq_true (List.all_eq_true.mp front c member), by simp [back]⟩

theorem namesParentOf_parentField (id : ItemId) : NamesParentOf (parentField id) id :=
  ⟨(natText id.toNat).toList, String.toList_append, Text.writes_natText id.val⟩

end Widget

end ProblemBoard
