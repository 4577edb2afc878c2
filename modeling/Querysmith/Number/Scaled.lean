import Querysmith.Number.Binary64
import Querysmith.Number.Decimal

/-!
# Scaled numbers

A finite number as an integer times a power of ten, in lowest terms: the integer does not end
in a zero, and zero has the exponent zero. Integers, doubles and decimals that are the same
number have the same scaled form.
-/

namespace Querysmith

/-- The number `coefficient * 10 ^ exponent`. -/
structure Scaled where
  coefficient : Int
  exponent : Int
  deriving DecidableEq, Repr

namespace Scaled

/-- Takes the zeros off the end of a number and counts them; `fuel` bounds their count. -/
def dropZeros : (fuel : Nat) → Nat → Nat × Nat
  | 0, n => (n, 0)
  | fuel + 1, n =>
    if n % 10 = 0 then
      let (m, count) := dropZeros fuel (n / 10)
      (m, count + 1)
    else (n, 0)

/-- The scaled form of `n * 10 ^ exponent` with a sign. -/
def ofNat (negative : Bool) (n : Nat) (exponent : Int) : Scaled :=
  if n = 0 then ⟨0, 0⟩
  else
    let (m, count) := dropZeros (Nat.log2 n) n
    ⟨if negative then -(m : Int) else m, exponent + count⟩

/-- The scaled form of an integer. -/
def ofInt (n : Int) : Scaled := ofNat (decide (n < 0)) n.natAbs 0

/-- The scaled form of `m * 2 ^ e` with a sign; a half is five tenths. -/
def ofBinary (negative : Bool) (m : Nat) (e : Int) : Scaled :=
  if e < 0 then ofNat negative (m * Nat.pow 5 e.natAbs) e
  else ofNat negative (m * Nat.pow 2 e.natAbs) 0

end Scaled

end Querysmith
