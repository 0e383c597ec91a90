/-! # Binary floating-point numbers

Finite double-precision numbers as a sign, a whole significand of at most 53 bits and a power of
two. All arithmetic is exact on natural numbers and rounds once, to the nearest number and to the
even one of two; nothing here depends on the machine's own arithmetic.
-/

namespace ProblemBoard.Decimal

/-- The magnitude `significand * 2 ^ exponent`. A significand below `2 ^ 52` occurs only with the
least exponent. -/
structure Magnitude where
  significand : Nat
  exponent : Int
  deriving DecidableEq, Repr, Inhabited

/-- A finite double-precision number. -/
structure Binary64 where
  negative : Bool
  magnitude : Magnitude
  deriving DecidableEq, Repr, Inhabited

namespace Magnitude

/-- The exponent of the smallest magnitudes. -/
def leastExponent : Int := -1074

/-- The exponent of the largest magnitudes. -/
def greatestExponent : Int := 971

def zero : Magnitude := ⟨0, leastExponent⟩

def isZero (magnitude : Magnitude) : Bool := magnitude.significand == 0

/-- A fraction `numerator / denominator` as a multiple of `2 ^ exponent`. -/
def scaled (numerator denominator : Nat) (exponent : Int) : Nat × Nat :=
  if exponent < 0 then (numerator * Nat.pow 2 exponent.natAbs, denominator)
  else (numerator, denominator * Nat.pow 2 exponent.natAbs)

/-- The whole number nearest to a fraction, and of two equally near ones the even one. -/
def roundedQuotient (numerator denominator : Nat) : Nat :=
  let floor := numerator / denominator
  let twice := 2 * (numerator % denominator)
  if twice < denominator then floor
  else if denominator < twice then floor + 1
  else if floor % 2 = 0 then floor
  else floor + 1

/-- The exponent at which a fraction has a significand of 53 bits, or the least exponent. -/
def exponentFor (numerator denominator : Nat) : Int :=
  let low := (numerator.log2 : Int) - denominator.log2 - 53
  let (up, down) := scaled numerator denominator low
  max leastExponent (if up / down < Nat.pow 2 53 then low else low + 1)

/-- The magnitude nearest to a fraction, or nothing if that is beyond the largest one. -/
def ofFraction? (numerator denominator : Nat) : Option Magnitude :=
  if numerator = 0 then some zero
  else
    let exponent := exponentFor numerator denominator
    let (up, down) := scaled numerator denominator exponent
    let significand := roundedQuotient up down
    let result : Magnitude :=
      if significand = Nat.pow 2 53 then ⟨Nat.pow 2 52, exponent + 1⟩ else ⟨significand, exponent⟩
    if greatestExponent < result.exponent then none else some result

/-- The fraction that a magnitude is. -/
def toFraction (magnitude : Magnitude) : Nat × Nat :=
  if magnitude.exponent < 0 then (magnitude.significand, Nat.pow 2 magnitude.exponent.natAbs)
  else (magnitude.significand * Nat.pow 2 magnitude.exponent.natAbs, 1)

/-- The product, rounded, or nothing if it is too large. -/
def mul? (left right : Magnitude) : Option Magnitude :=
  let (leftUp, leftDown) := left.toFraction
  let (rightUp, rightDown) := right.toFraction
  ofFraction? (leftUp * rightUp) (leftDown * rightDown)

/-- The quotient, rounded, or nothing if it is too large. -/
def div? (left right : Magnitude) : Option Magnitude :=
  let (leftUp, leftDown) := left.toFraction
  let (rightUp, rightDown) := right.toFraction
  ofFraction? (leftUp * rightDown) (leftDown * rightUp)

/-- The greatest power of ten among the magnitudes. -/
def greatestTenPower : Nat := 308

/-- The magnitude nearest to a power of ten, up to the greatest. -/
def tenPower (power : Nat) : Magnitude := (ofFraction? (Nat.pow 10 power) 1).getD zero

/-- A magnitude divided a number of times by the greatest power of ten, rounding each time. -/
def divByGreatest? : Nat → Magnitude → Option Magnitude
  | 0, magnitude => some magnitude
  | times + 1, magnitude =>
      if magnitude.isZero then some magnitude
      else (magnitude.div? (tenPower greatestTenPower)).bind (divByGreatest? times)

/-- A magnitude times a power of ten, in steps that each round: one multiplication or division, and
before it as many divisions by the greatest power of ten as a very negative power needs. Nothing
results if the product is too large. -/
def timesTenPower? (magnitude : Magnitude) (power : Int) : Option Magnitude :=
  if magnitude.isZero then some magnitude
  else if 0 ≤ power then
    if power.toNat ≤ greatestTenPower then magnitude.mul? (tenPower power.toNat) else none
  else
    let steps := ((-power).toNat - 1) / greatestTenPower
    (divByGreatest? steps magnitude).bind
      (·.div? (tenPower ((-power).toNat - steps * greatestTenPower)))

end Magnitude

end ProblemBoard.Decimal
