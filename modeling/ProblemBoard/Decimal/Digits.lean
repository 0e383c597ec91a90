/-! # Decimal digits

Natural numbers as lists of decimal digits, most significant first, and digits as characters.
`value_digits` says that the digits of a number read back as that number.
-/

namespace ProblemBoard.Decimal

/-- One decimal digit. -/
abbrev Digit := Fin 10

/-- The character that writes a digit. -/
def digitChar (digit : Digit) : Char := Char.ofNat ('0'.toNat + digit.val)

/-- The digit that a character writes. -/
def digit? (c : Char) : Option Digit :=
  if h : '0'.toNat ≤ c.toNat ∧ c.toNat ≤ '9'.toNat then
    some ⟨c.toNat - '0'.toNat, by
      have : '0'.toNat = 48 := rfl
      have : '9'.toNat = 57 := rfl
      omega⟩
  else none

@[simp] theorem digit?_digitChar (digit : Digit) : digit? (digitChar digit) = some digit := by
  revert digit
  decide

/-- The number that a list of digits writes. -/
def value (digits : List Digit) : Nat := digits.foldl (fun total digit => 10 * total + digit.val) 0

/-- The digits of a number in front of other digits. -/
def digitsBefore (number : Nat) (after : List Digit) : List Digit :=
  if h : number < 10 then ⟨number, h⟩ :: after
  else digitsBefore (number / 10) (⟨number % 10, Nat.mod_lt _ (by decide)⟩ :: after)

/-- The digits of a number, without leading zeros. -/
def digits (number : Nat) : List Digit := digitsBefore number []

/-- The decimal text of a number. -/
def natText (number : Nat) : String := String.ofList ((digits number).map digitChar)

/-- The decimal text of an integer. -/
def intText (number : Int) : String :=
  if number < 0 then "-" ++ natText number.natAbs else natText number.natAbs

theorem value_concat (front : List Digit) (digit : Digit) :
    value (front ++ [digit]) = 10 * value front + digit.val := by
  rw [value, List.foldl_append]
  rfl

theorem digitsBefore_eq_append (number : Nat) (after : List Digit) :
    digitsBefore number after = digits number ++ after := by
  induction number using Nat.strongRecOn generalizing after with
  | ind number step =>
    unfold digits
    rw [digitsBefore, digitsBefore.eq_def number []]
    split
    · rfl
    · rw [step (number / 10) (by omega), step (number / 10) (by omega) [_], List.append_assoc]
      rfl

theorem digits_of_lt {number : Nat} (small : number < 10) : digits number = [⟨number, small⟩] := by
  rw [digits, digitsBefore, dif_pos small]

theorem digits_of_le {number : Nat} (large : 10 ≤ number) :
    digits number = digits (number / 10) ++ [⟨number % 10, Nat.mod_lt _ (by decide)⟩] := by
  rw [digits, digitsBefore, dif_neg (by omega), digitsBefore_eq_append]

@[simp] theorem value_digits (number : Nat) : value (digits number) = number := by
  induction number using Nat.strongRecOn with
  | ind number step =>
    by_cases small : number < 10
    · simp [digits_of_lt small, value]
    · rw [digits_of_le (by omega), value_concat, step (number / 10) (by omega)]
      exact Nat.div_add_mod number 10

theorem digits_ne_nil (number : Nat) : digits number ≠ [] := by
  rw [digits, digitsBefore]
  split
  · simp
  · rw [digitsBefore_eq_append]
    simp

end ProblemBoard.Decimal
