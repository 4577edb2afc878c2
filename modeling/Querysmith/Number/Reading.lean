import Querysmith.Number.Binary64
import Querysmith.Number.Decimal

/-!
# Reading numbers

The texts of doubles and decimals: an optional sign, digits with an optional point, and an
optional power of ten; or a word for what is not finite.
-/

namespace Querysmith.Number

/-- An unsigned decimal: its coefficient and the power of ten it is multiplied by. -/
structure Scaled where
  coefficient : Nat
  exponent : Int

/-- The number that a row of basic digits writes. -/
def natOfDigits (cs : List Char) : Nat :=
  cs.foldl (fun n c => 10 * n + (c.toNat - 48)) 0

/-- A sign and what follows it; no sign reads as plus. -/
def readSign : List Char → Bool × List Char
  | '-' :: rest => (true, rest)
  | '+' :: rest => (false, rest)
  | rest => (false, rest)

/-- A power of ten at the end of a number; no text reads as zero. -/
def readPower? : List Char → Option Int
  | [] => some 0
  | e :: rest =>
    if e = 'e' || e = 'E' then
      let (negative, digits) := readSign rest
      if digits.isEmpty || !digits.all Char.isDigit then none
      else some (if negative then -(natOfDigits digits : Int) else natOfDigits digits)
    else none

/-- Digits, with a point among them or at an end, and an optional power of ten. -/
def readScaled? (cs : List Char) : Option Scaled :=
  let whole := cs.takeWhile Char.isDigit
  let rest := cs.dropWhile Char.isDigit
  let (places, rest) := match rest with
    | '.' :: rest => (rest.takeWhile Char.isDigit, rest.dropWhile Char.isDigit)
    | rest => ([], rest)
  if whole.isEmpty && places.isEmpty then none
  else (readPower? rest).map fun power =>
    { coefficient := natOfDigits (whole ++ places), exponent := power - places.length }

end Querysmith.Number

namespace Querysmith

open Number

/-- Reads a double; `origin` is the place of the text. -/
def Binary64.ofText? (s : String) (origin : Nat := 0) : Option Binary64 :=
  let (negative, body) := readSign s.toList
  match String.ofList (body.map Char.toLower) with
  | "inf" | "infinity" => some (.infinite negative)
  | "nan" => some (.undefined origin)
  | _ => (readScaled? body).map fun n => ofDecimal negative n.coefficient n.exponent

/-- Reads a decimal; `origin` is the place of the text. -/
def Decimal.ofText? (s : String) (origin : Nat := 0) : Option Decimal :=
  let (negative, body) := readSign s.toList
  let lower := body.map Char.toLower
  match String.ofList lower with
  | "inf" | "infinity" => some (.infinite negative)
  | _ =>
    let signaling := lower.head? = some 's'
    let word := if signaling then lower.drop 1 else lower
    let digits := word.drop 3
    if word.take 3 = ['n', 'a', 'n'] && digits.all Char.isDigit then
      some (.undefined negative signaling (natOfDigits digits) origin)
    else (readScaled? body).map fun n => .finite negative n.coefficient n.exponent

end Querysmith
