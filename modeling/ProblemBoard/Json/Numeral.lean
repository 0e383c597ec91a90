import ProblemBoard.Decimal.Shortest

/-! # Numbers in JSON

A numeral is a number as it is written, digit for digit. `Numeral.number?` gives its value: whole
numbers within the range of 64 bits are exact, and every other numeral is read as a floating-point
number, unless it is too large for one. In the other direction, `Number.numeral` writes whole numbers
in full and floating-point numbers in their shortest form.
-/

namespace ProblemBoard.Json

open Decimal

/-- The exponent of a numeral, as written after `e`. -/
structure Exponent where
  negative : Bool
  digits : List Digit
  deriving DecidableEq, Repr

/-- A number as written. -/
structure Numeral where
  negative : Bool
  whole : List Digit
  /-- The digits after the point; none if there is no point. -/
  fraction : List Digit
  exponent : Option Exponent
  deriving DecidableEq, Repr

/-- The value of a numeral. -/
inductive Number where
  | int (value : Int)
  | float (value : Binary64)
  deriving DecidableEq, Repr

namespace Numeral

/-- The numeral as text. -/
def chars (numeral : Numeral) : List Char :=
  (if numeral.negative then ['-'] else []) ++ numeral.whole.map digitChar ++
    (if numeral.fraction.isEmpty then [] else '.' :: numeral.fraction.map digitChar) ++
    match numeral.exponent with
    | none => []
    | some exponent =>
        'e' :: (if exponent.negative then '-' else '+') :: exponent.digits.map digitChar

/-- The numeral that writes an integer. -/
def ofInt (value : Int) : Numeral :=
  ⟨decide (value < 0), digits value.natAbs, [], none⟩

/-- The value of a numeral written without point and exponent; a negative zero has none. -/
def int? (numeral : Numeral) : Option Int :=
  if numeral.fraction.isEmpty && numeral.exponent.isNone then
    if numeral.negative then
      if value numeral.whole = 0 then none else some (-(value numeral.whole : Int))
    else some (value numeral.whole)
  else none

@[simp] theorem int?_ofInt (number : Int) : (ofInt number).int? = some number := by
  simp only [int?, ofInt, List.isEmpty_nil, Option.isNone_none, Bool.and_self, if_true,
    value_digits, decide_eq_true_eq]
  split
  · rw [if_neg (by omega)]
    congr 1
    omega
  · congr 1
    omega

/-- The digits of a numeral as far as they fit in 64 bits, and the power of ten that this leaves. A
digit of the whole part that no longer fits raises the power, also for the digits behind it; the
digits of the fraction end where one no longer fits. -/
def significand (whole fraction : List Digit) : Nat × Int :=
  let rec takeWhole : Nat → List Digit → Nat × Nat
    | total, [] => (total, 0)
    | total, digit :: rest =>
        let next := 10 * total + digit.val
        if next < UInt64.size then takeWhole next rest else (total, rest.length + 1)
  let rec takeFraction : Nat → List Digit → Nat × Nat
    | total, [] => (total, 0)
    | total, digit :: rest =>
        let next := 10 * total + digit.val
        if next < UInt64.size then
          let (result, places) := takeFraction next rest
          (result, places + 1)
        else (total, 0)
  let (total, dropped) := takeWhole 0 whole
  let (total, places) := takeFraction total fraction
  (total, (dropped : Int) - places)

/-- The greatest exponent that is reckoned with. -/
def exponentLimit : Nat := Nat.pow 2 31

/-- The magnitude of a numeral, or nothing if it is out of range. An exponent beyond the limit makes
every number zero or too large. -/
def magnitude? (numeral : Numeral) : Option Magnitude :=
  let (significand, power) := significand numeral.whole numeral.fraction
  match Magnitude.ofFraction? significand 1, numeral.exponent with
  | none, _ => none
  | some magnitude, none => magnitude.timesTenPower? power
  | some magnitude, some exponent =>
      let size := value exponent.digits
      if exponentLimit ≤ size then
        if magnitude.isZero || exponent.negative then some .zero else none
      else magnitude.timesTenPower? (if exponent.negative then power - size else power + size)

/-- The value of a numeral, or nothing if it is out of range. -/
def number? (numeral : Numeral) : Option Number :=
  match numeral.int? with
  | some number =>
      if -(Nat.pow 2 63 : Int) ≤ number ∧ number < Nat.pow 2 64 then some (.int number)
      else numeral.magnitude?.map fun magnitude => .float ⟨numeral.negative, magnitude⟩
  | none => numeral.magnitude?.map fun magnitude => .float ⟨numeral.negative, magnitude⟩

end Numeral

/-- How floating-point numbers are written: in positions if the power of ten of the first digit lies
between these bounds, and with an exponent otherwise. -/
structure FloatFormat where
  leastPositional : Int
  greatestPositional : Int

namespace FloatFormat

/-- The numeral of a decimal number in a format. A positional numeral has at least one digit on
either side of the point. -/
def numeral (format : FloatFormat) (negative : Bool) (number : Scientific) : Numeral :=
  let written := digits number.significand
  let point : Int := written.length + number.exponent
  let leading := point - 1
  if leading < format.leastPositional ∨ format.greatestPositional < leading then
    ⟨negative, written.take 1, written.drop 1,
      some ⟨decide (leading < 0), digits leading.natAbs⟩⟩
  else if 0 ≤ number.exponent then
    ⟨negative, written ++ List.replicate number.exponent.toNat 0, [0], none⟩
  else if 0 < point then
    ⟨negative, written.take point.toNat, written.drop point.toNat, none⟩
  else ⟨negative, [0], List.replicate (-point).toNat 0 ++ written, none⟩

/-- Numbers from `10 ^ -5` up to, but not including, `10 ^ 16` are written in positions. -/
def standard : FloatFormat := ⟨-5, 15⟩

end FloatFormat

namespace Number

/-- The numeral that writes a number. -/
def numeral : Number → Numeral
  | int value => .ofInt value
  | float value => FloatFormat.standard.numeral value.negative value.magnitude.shortest

/-- The text of a number. -/
def text (number : Number) : String := String.ofList number.numeral.chars

/-- A whole number of at most 64 bits, without sign. -/
def natural? : Number → Option UInt64
  | int value => if 0 ≤ value ∧ value < Nat.pow 2 64 then some value.toNat.toUInt64 else none
  | float _ => none

end Number

end ProblemBoard.Json
