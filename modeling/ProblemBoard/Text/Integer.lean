import ProblemBoard.Text.Natural

/-! # Signed integers in free text

An integer is one or more ASCII digits, after a sign or not; it is read only if it fits in a signed
number of 64 bits.
-/

namespace ProblemBoard.Text

open Decimal

/-- The number written by one or more digits and nothing else. -/
def unboundedNatural? (chars : List Char) : Option Nat :=
  match digits? chars with
  | none => none
  | some [] => none
  | some digits => some (value digits)

/-- The number written by digits, with a sign in front or without. -/
def integer? (chars : List Char) : Option Int :=
  let number : Option Int :=
    match chars with
    | '-' :: rest => (unboundedNatural? rest).map fun size => -(size : Int)
    | '+' :: rest => (unboundedNatural? rest).map Int.ofNat
    | chars => (unboundedNatural? chars).map Int.ofNat
  number.filter fun number => decide (-(Nat.pow 2 63 : Int) ≤ number) && decide (number < Nat.pow 2 63)

end ProblemBoard.Text
