/-!
# Decimal numbers

A decimal keeps its coefficient and exponent as written, so `1.50` and `1.5` are different
decimals with the same value. Its text is positional while the exponent is not positive and
the leading digit stands at most six places behind the point, and scientific otherwise.
-/

namespace Querysmith

/-- A decimal number. -/
inductive Decimal where
  /-- `coefficient * 10 ^ exponent`, with a sign. -/
  | finite (negative : Bool) (coefficient : Nat) (exponent : Int)
  | infinite (negative : Bool)
  /-- No number, and equal to none; a payload other than zero follows its name. `origin` is the
  place that it comes from. -/
  | undefined (negative signaling : Bool) (payload : Nat) (origin : Nat)
  deriving DecidableEq, Repr

namespace Decimal

/-- The digits of `coefficient * 10 ^ exponent` with a point, an exponent, or both. -/
def unsignedText (coefficient : Nat) (exponent : Int) : String :=
  let digits := toString coefficient
  let size := digits.length
  let left : Int := exponent + size
  let point : Int := if exponent ≤ 0 && -6 < left then left else 1
  let body :=
    if point ≤ 0 then "0." ++ String.ofList (List.replicate point.natAbs '0') ++ digits
    else if (size : Int) ≤ point then
      digits ++ String.ofList (List.replicate (point.toNat - size) '0')
    else
      String.ofList (digits.toList.take point.toNat) ++ "." ++
        String.ofList (digits.toList.drop point.toNat)
  if left = point then body
  else
    let power := left - point
    body ++ "E" ++ (if power < 0 then "-" else "+") ++ toString power.natAbs

/-- The text of a decimal. -/
def text : Decimal → String
  | .finite negative coefficient exponent =>
    (if negative then "-" else "") ++ unsignedText coefficient exponent
  | .infinite negative => if negative then "-Infinity" else "Infinity"
  | .undefined negative signaling payload _ =>
    (if negative then "-" else "") ++ (if signaling then "sNaN" else "NaN") ++
      (if payload = 0 then "" else toString payload)

/-- Whether the decimal is a zero. -/
def isZero : Decimal → Bool
  | .finite _ coefficient _ => coefficient = 0
  | _ => false

/-- Whether the decimal is greater than zero; none when it has no order. -/
def isPositive? : Decimal → Option Bool
  | .finite negative coefficient _ => some (!negative && coefficient ≠ 0)
  | .infinite negative => some (!negative)
  | .undefined .. => none

/-- The integer part of `coefficient * 10 ^ exponent`. A power of ten that is plainly too large
for the coefficient is not computed. -/
def integerPart (coefficient : Nat) (exponent : Int) : Nat :=
  if coefficient = 0 then 0
  else if exponent < 0 then
    if Nat.log2 coefficient < exponent.natAbs then 0
    else coefficient / Nat.pow 10 exponent.natAbs
  else coefficient * Nat.pow 10 exponent.natAbs

/-- Leaving the power out changes nothing: the quotient is zero. -/
theorem integerPart_eq (coefficient : Nat) (exponent : Int) :
    integerPart coefficient exponent =
      if exponent < 0 then coefficient / Nat.pow 10 exponent.natAbs
      else coefficient * Nat.pow 10 exponent.natAbs := by
  unfold integerPart
  split
  · next h => simp [h]
  · split
    · split
      · next h =>
        refine (Nat.div_eq_of_lt ?_).symm
        calc coefficient < 2 ^ (Nat.log2 coefficient + 1) := Nat.lt_log2_self
          _ ≤ 2 ^ exponent.natAbs := Nat.pow_le_pow_right (by decide) h
          _ ≤ 10 ^ exponent.natAbs := Nat.pow_le_pow_left (by decide) _
      · rfl
    · rfl

end Decimal

end Querysmith
