import ProblemBoard.Decimal.Digits
import ProblemBoard.Ident

/-! # Natural numbers in free text

A number in free text is one or more ASCII digits, after a plus sign or not; leading zeros do no
harm. It is read only if it fits in 64 bits.
-/

namespace ProblemBoard.Text

open Decimal

/-- The digits that a text consists of. -/
def digits? (chars : List Char) : Option (List Digit) := chars.mapM digit?

/-- The number written by one or more digits and nothing else, if it fits in 64 bits. -/
def plainNatural? (chars : List Char) : Option UInt64 :=
  match digits? chars with
  | none => none
  | some [] => none
  | some digits => if value digits < UInt64.size then some (value digits).toUInt64 else none

/-- The number written by digits, with a plus sign in front or without. -/
def natural? : List Char → Option UInt64
  | '+' :: rest => plainNatural? rest
  | chars => plainNatural? chars

theorem digits?_map_digitChar (digits : List Digit) :
    digits? (digits.map digitChar) = some digits := by
  induction digits with
  | nil => rfl
  | cons digit rest step =>
    rw [digits?] at step ⊢
    simp [List.mapM_cons, step]

theorem plainNatural?_digits (number : UInt64) :
    plainNatural? ((Decimal.digits number.toNat).map digitChar) = some number := by
  rw [plainNatural?, digits?_map_digitChar]
  have nonempty := digits_ne_nil number.toNat
  split
  · next none => cases none
  · next empty => exact absurd (Option.some.inj empty) nonempty
  · next digits _ same =>
    obtain rfl := Option.some.inj same
    rw [value_digits, if_pos number.toNat_lt]
    simp

/-- What is written for a number is read as that number. -/
@[simp] theorem natural?_natText (number : UInt64) :
    natural? (natText number.toNat).toList = some number := by
  have written : (natText number.toNat).toList = (Decimal.digits number.toNat).map digitChar :=
    String.toList_ofList
  rw [written, ← plainNatural?_digits number]
  cases digits : Decimal.digits number.toNat with
  | nil => exact absurd digits (digits_ne_nil _)
  | cons digit rest =>
    have unsigned : ∀ digit : Digit, digitChar digit ≠ '+' := by decide
    simp [natural?, unsigned digit]

end ProblemBoard.Text
