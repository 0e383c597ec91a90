import ProblemBoard.Decimal.Binary64
import ProblemBoard.Decimal.Digits

/-! # The shortest decimal form of a binary number

Every real number between the midpoints to its two neighbours rounds to a given binary number; the
midpoints themselves do so if its significand is even. Of the decimal numbers in that interval,
`shortest` picks one with the fewest digits, and the nearest of those.
-/

namespace ProblemBoard.Decimal

/-- The decimal number `significand * 10 ^ exponent`. -/
structure Scientific where
  significand : Nat
  exponent : Int
  deriving DecidableEq, Repr

namespace Magnitude

/-- Whether `candidate * 10 ^ power` rounds to the magnitude. All three numbers are compared as
whole multiples of a quarter of the magnitude's last binary place. -/
def roundsFrom (magnitude : Magnitude) (candidate : Nat) (power : Int) : Bool :=
  let below :=
    if magnitude.significand = Nat.pow 2 52 ∧ leastExponent < magnitude.exponent then 1 else 2
  let low := 4 * magnitude.significand - below
  let high := 4 * magnitude.significand + 2
  let (up, down) := scaled (candidate * Nat.pow 10 power.toNat)
    (Nat.pow 10 (-power).toNat) (magnitude.exponent - 2)
  if magnitude.significand % 2 = 0 then decide (low * down ≤ up) && decide (up ≤ high * down)
  else decide (low * down < up) && decide (up < high * down)

/-- The magnitude in units of `10 ^ power`, as a fraction. -/
def inUnits (magnitude : Magnitude) (power : Int) : Nat × Nat :=
  let (up, down) := magnitude.toFraction
  (up * Nat.pow 10 (-power).toNat, down * Nat.pow 10 power.toNat)

/-- The multiple of `10 ^ power` that rounds to the magnitude, the nearer one if both neighbours of
the magnitude do. -/
def onGrid? (magnitude : Magnitude) (power : Int) : Option Scientific :=
  let (up, down) := magnitude.inUnits power
  let floor := up / down
  let candidates := [floor, floor + 1].filter fun candidate =>
    candidate ≠ 0 && magnitude.roundsFrom candidate power
  match candidates with
  | [] => none
  | [one] => some ⟨one, power⟩
  | _ => some ⟨roundedQuotient up down, power⟩

/-- The powers of ten at which a magnitude can have its last digit, highest first. -/
def grids : List Int := (List.range 634).map fun (step : Nat) => 309 - (step : Int)

/-- The shortest decimal number that rounds to the magnitude, nearest first. -/
def shortest (magnitude : Magnitude) : Scientific :=
  if magnitude.isZero then ⟨0, 0⟩ else (grids.findSome? magnitude.onGrid?).getD ⟨0, 0⟩

end Magnitude

end ProblemBoard.Decimal
