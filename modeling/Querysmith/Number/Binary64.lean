/-!
# Double precision numbers

A finite number is a significand below `2 ^ 53` times a power of two; the smallest power is
`2 ^ (-1074)` and every larger one comes with a significand of at least `2 ^ 52`. A quotient
of natural numbers is rounded to the nearest such number, a tie to the even significand.
-/

namespace Querysmith

/-- A double precision number. -/
inductive Binary64 where
  /-- `significand * 2 ^ exponent`, with a sign. -/
  | finite (negative : Bool) (significand : Nat) (exponent : Int)
  | infinite (negative : Bool)
  /-- No number, and equal to none. `origin` is the place that it comes from. -/
  | undefined (origin : Nat)
  deriving DecidableEq, Repr

namespace Binary64

/-- The exponent of the smallest positive number. -/
def minExponent : Int := -1074

/-- The exponent of the largest finite number. -/
def maxExponent : Int := 971

def zero : Binary64 := .finite false 0 minExponent

/-- `numerator / denominator` rounded to an integer, a tie to the even one. -/
def roundDiv (numerator denominator : Nat) : Nat :=
  let q := numerator / denominator
  let r := numerator % denominator
  if 2 * r < denominator then q
  else if denominator < 2 * r then q + 1
  else if q % 2 = 0 then q else q + 1

/-- Numerator and denominator of a quotient divided by `2 ^ exponent`. -/
def scaleBy (numerator denominator : Nat) (exponent : Int) : Nat × Nat :=
  if exponent < 0 then (numerator * Nat.pow 2 exponent.natAbs, denominator)
  else (numerator, denominator * Nat.pow 2 exponent.natAbs)

/-- The exponent with which the quotient's significand has 53 bits, unless that falls below
the smallest exponent. -/
def exponentOf (numerator denominator : Nat) : Int :=
  let guess : Int := (numerator.log2 : Int) - (denominator.log2 : Int) - 52
  let (n, d) := scaleBy numerator denominator guess
  -- the logarithms leave one bit open
  let exact := if n / d < Nat.pow 2 52 then guess - 1 else guess
  if exact < minExponent then minExponent else exact

/-- The number nearest to a quotient of natural numbers. -/
def ofRatio (negative : Bool) (numerator denominator : Nat) : Binary64 :=
  if numerator = 0 then .finite negative 0 minExponent
  else
    let exponent := exponentOf numerator denominator
    let (n, d) := scaleBy numerator denominator exponent
    let significand := roundDiv n d
    -- rounding up can carry into one bit more
    let (significand, exponent) :=
      if significand = Nat.pow 2 53 then (Nat.pow 2 52, exponent + 1) else (significand, exponent)
    if maxExponent < exponent then .infinite negative
    else .finite negative significand exponent

/-- The number nearest to `coefficient * 10 ^ exponent`. -/
def ofDecimal (negative : Bool) (coefficient : Nat) (exponent : Int) : Binary64 :=
  let size : Int := (Nat.toDigits 10 coefficient).length + exponent
  if coefficient = 0 || size < -400 then .finite negative 0 minExponent
  else if 400 < size then .infinite negative
  else if exponent < 0 then ofRatio negative coefficient (Nat.pow 10 exponent.natAbs)
  else ofRatio negative (coefficient * Nat.pow 10 exponent.natAbs) 1

/-- Whether the number is a zero of either sign. -/
def isZero : Binary64 → Bool
  | .finite _ significand _ => significand = 0
  | _ => false

/-- Whether the number is greater than zero. -/
def isPositive : Binary64 → Bool
  | .finite negative significand _ => !negative && significand ≠ 0
  | .infinite negative => !negative
  | .undefined _ => false

/-- The integer part of `significand * 2 ^ exponent`. -/
def integerPart (significand : Nat) (exponent : Int) : Nat :=
  if exponent < 0 then significand / Nat.pow 2 exponent.natAbs
  else significand * Nat.pow 2 exponent.natAbs

end Binary64

end Querysmith
