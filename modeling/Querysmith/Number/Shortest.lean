import Querysmith.Number.Binary64

/-!
# The shortest decimal that reads back

Every real number nearer to a double than to its neighbours reads back as that double; so do
the two ends of this interval when the significand is even. The decimal text of a double has
the fewest digits with which some decimal lies in the interval, and of the decimals with that
many digits it is the nearest.

All of it is arithmetic on natural numbers: a double `m * 2 ^ e` is taken as a quotient, and
so are the ends of its interval, in units of `2 ^ (e - 2)`.
-/

namespace Querysmith.Number

/-- `digits * 10 ^ exponent`. -/
structure Digits where
  digits : Nat
  exponent : Int
  deriving DecidableEq, Repr

/-- `numerator * 10 ^ k ≤ denominator`, for an exponent of either sign. -/
def scaledLe (numerator : Nat) (k : Int) (denominator : Nat) : Bool :=
  if k < 0 then numerator ≤ denominator * Nat.pow 10 k.natAbs
  else numerator * Nat.pow 10 k.natAbs ≤ denominator

/-- The place of the leading digit of a positive quotient: the `k` with
`10 ^ k ≤ numerator / denominator < 10 ^ (k + 1)`. -/
def leadingPlace (numerator denominator : Nat) : Int :=
  let guess : Int := (Nat.toDigits 10 numerator).length - (Nat.toDigits 10 denominator).length
  if scaledLe denominator guess numerator then guess else guess - 1

/-- The interval of quotients over `denominator` that read back as one double. -/
structure ReadBack where
  low : Nat
  value : Nat
  high : Nat
  denominator : Nat
  /-- Whether the two ends belong to it. -/
  closed : Bool

namespace ReadBack

/-- The interval of `significand * 2 ^ exponent`. Below a power of two the neighbour is only
half as far away. -/
def ofDouble (significand : Nat) (exponent : Int) : ReadBack :=
  let below := if significand = Nat.pow 2 52 && Binary64.minExponent < exponent then 1 else 2
  -- four units make one step of the significand, so that half a step and a quarter are whole
  let unit := if exponent - 2 < 0 then 1 else Nat.pow 2 (exponent - 2).natAbs
  let denominator := if exponent - 2 < 0 then Nat.pow 2 (exponent - 2).natAbs else 1
  { low := (4 * significand - below) * unit
    value := 4 * significand * unit
    high := (4 * significand + 2) * unit
    denominator
    closed := significand % 2 = 0 }

/-- Whether `digits * scale / divisor` lies in the interval. -/
def holds (i : ReadBack) (digits scale divisor : Nat) : Bool :=
  let x := digits * scale * i.denominator
  let low := i.low * divisor
  let high := i.high * divisor
  (low < x && x < high) || (i.closed && (x = low || x = high))

/-- The decimal nearest to the double among those in the interval whose last digit stands at
the place `exponent`. -/
def onGrid (i : ReadBack) (exponent : Int) : Option Nat :=
  let scale := if exponent < 0 then 1 else Nat.pow 10 exponent.natAbs
  let divisor := if exponent < 0 then Nat.pow 10 exponent.natAbs else 1
  let under := i.value * divisor / (i.denominator * scale)
  let above := under + 1
  -- the double lies between `under` and `above`: if any point of the grid reads back, one of
  -- these two does, and it is the nearest
  match i.holds under scale divisor, i.holds above scale divisor with
  | false, false => none
  | true, false => some under
  | false, true => some above
  | true, true =>
    let target := 2 * (i.value * divisor)
    let middle := (under + above) * scale * i.denominator
    if target < middle then some under
    else if middle < target then some above
    else if under % 2 = 0 then some under else some above

/-- Tries decimals with one more digit each time. -/
def search (i : ReadBack) (lead : Int) : (tries : Nat) → (size : Nat) → Option Digits
  | 0, _ => none
  | tries + 1, size =>
    let exponent := lead + 1 - size
    match i.onGrid exponent with
    | some digits => some ⟨digits, exponent⟩
    | none => i.search lead tries (size + 1)

end ReadBack

/-- Takes trailing zeros off the digits; `tries` bounds how many. -/
def dropZeros : (tries : Nat) → Digits → Digits
  | 0, d => d
  | tries + 1, d =>
    if d.digits % 10 = 0 && d.digits ≠ 0 then dropZeros tries ⟨d.digits / 10, d.exponent + 1⟩
    else d

/-- The shortest decimal that reads back as the positive double `significand * 2 ^ exponent`.
Seventeen digits always suffice. -/
def shortest (significand : Nat) (exponent : Int) : Digits :=
  let i := ReadBack.ofDouble significand exponent
  let lead := leadingPlace i.value i.denominator
  match i.search lead 17 1 with
  | some d => dropZeros 20 d
  | none => ⟨0, 0⟩

/-- Zeros. -/
def zeros (n : Nat) : String := String.ofList (List.replicate n '0')

/-- An exponent with its sign and at least two digits. -/
def exponentText (exponent : Int) : String :=
  let digits := toString exponent.natAbs
  (if exponent < 0 then "-" else "+") ++ (if digits.length < 2 then "0" ++ digits else digits)

/-- The digits of a decimal with the leading digit at the place `lead`: positional from
`10 ^ (-4)` up to below `10 ^ 16` and with an exponent elsewhere. A positional text has at
least one digit behind the point. -/
def decimalText (digits : String) (lead : Int) : String :=
  if lead < -4 || 16 ≤ lead then
    let first := String.ofList (digits.toList.take 1)
    let rest := String.ofList (digits.toList.drop 1)
    first ++ (if rest = "" then "" else "." ++ rest) ++ "e" ++ exponentText lead
  else if lead < 0 then "0." ++ zeros (lead.natAbs - 1) ++ digits
  else
    let whole := lead.toNat + 1
    if digits.length ≤ whole then digits ++ zeros (whole - digits.length) ++ ".0"
    else String.ofList (digits.toList.take whole) ++ "." ++ String.ofList (digits.toList.drop whole)

end Querysmith.Number

namespace Querysmith.Binary64

/-- The text of a double: the shortest decimal that reads back. -/
def text : Binary64 → String
  | .finite negative significand exponent =>
    let sign := if negative then "-" else ""
    if significand = 0 then sign ++ "0.0"
    else
      let d := Number.shortest significand exponent
      let digits := toString d.digits
      sign ++ Number.decimalText digits (d.exponent + digits.length - 1)
  | .infinite negative => if negative then "-inf" else "inf"
  | .undefined _ => "nan"

end Querysmith.Binary64
