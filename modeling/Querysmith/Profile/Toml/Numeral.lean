import Querysmith.Number.Reading
import Querysmith.Profile.Toml.Quoted
import Querysmith.Value.Integer

/-!
# Numbers of profile files

Integers are decimal with a sign or without, or hexadecimal, octal or binary. A decimal one
with a fraction or a power of ten behind it is a double. One underscore may stand between two
digits, and a decimal number has no zeros in front.
-/

namespace Querysmith.Toml

/-- Whether a character is a digit in a base of at most sixteen. -/
def isDigitIn (base : Nat) (c : Char) : Bool := (hexDigit? c).any (· < base)

/-- Digits behind the first one, without the underscores between them. -/
def moreDigits (isDigit : Char → Bool) : List Char → List Char × List Char
  | '_' :: c :: rest =>
    if isDigit c then
      let (ds, rest) := moreDigits isDigit rest
      (c :: ds, rest)
    else ([], '_' :: c :: rest)
  | c :: rest =>
    if isDigit c then
      let (ds, rest) := moreDigits isDigit rest
      (c :: ds, rest)
    else ([], c :: rest)
  | [] => ([], [])

/-- The digits that a text starts with, without the underscores between them. -/
def readDigits (isDigit : Char → Bool) : List Char → List Char × List Char
  | c :: rest =>
    if isDigit c then
      let (ds, rest) := moreDigits isDigit rest
      (c :: ds, rest)
    else ([], c :: rest)
  | [] => ([], [])

/-- The number that digits of a base write. -/
def ofDigits (base : Nat) (ds : List Char) : Nat :=
  ds.foldl (fun n d => base * n + (hexDigit? d).getD 0) 0

/-- A sign, if one is there. -/
def readSign : List Char → List Char × List Char
  | '-' :: rest => (['-'], rest)
  | '+' :: rest => (['+'], rest)
  | cs => ([], cs)

/-- The digits in front of a point: a zero stands alone. -/
def readWhole : List Char → List Char × List Char
  | '0' :: rest => (['0'], rest)
  | cs => readDigits Char.isDigit cs

/-- A point and the digits behind it, if there are any. -/
def readFraction : List Char → List Char × List Char
  | '.' :: rest =>
    match readDigits Char.isDigit rest with
    | ([], _) => ([], '.' :: rest)
    | (ds, rest) => ('.' :: ds, rest)
  | cs => ([], cs)

/-- A power of ten, if one is there. -/
def readPower : List Char → List Char × List Char
  | c :: rest =>
    let (sign, behind) := readSign rest
    match c = 'e' || c = 'E', readDigits Char.isDigit behind with
    | true, (d :: ds, behind) => ('e' :: sign ++ d :: ds, behind)
    | _, _ => ([], c :: rest)
  | [] => ([], [])

/-- A word for what is no finite number. What comes from behind it tells its place. -/
def readWord : Reader Value := fun cs =>
  let (sign, rest) := readSign cs
  match String.ofList (rest.take 3) with
  | "inf" => .ok (.float (.infinite (sign = ['-'])), rest.drop 3)
  | "nan" => .ok (.float (.undefined rest.length), rest.drop 3)
  | _ => fail .value cs

/-- A decimal number. -/
def readDecimal : Reader Value := fun cs =>
  let (sign, rest) := readSign cs
  let (whole, rest) := readWhole rest
  let (fraction, rest) := readFraction rest
  let (power, rest) := readPower rest
  if whole.isEmpty then readWord cs
  else if fraction.isEmpty && power.isEmpty then
    if Number.digitLimit < whole.length then .error (.tooManyDigits whole.length)
    else .ok (.int (Number.signed (sign = ['-']) (ofDigits 10 whole)), rest)
  else
    match Binary64.ofText? (String.ofList (sign ++ whole ++ fraction ++ power)) with
    | some x => .ok (.float x, rest)
    | none => fail .value cs

/-- The base that a mark behind a zero stands for. -/
def base? : Char → Option Nat
  | 'x' => some 16
  | 'o' => some 8
  | 'b' => some 2
  | _ => none

/-- A number. A mark of a base without digits behind it does not belong to the number. -/
def readNumber : Reader Value := fun cs =>
  match cs with
  | '0' :: mark :: rest =>
    match base? mark with
    | some base =>
      match readDigits (isDigitIn base) rest with
      | ([], _) => .ok (.int 0, mark :: rest)
      | (ds, rest) => .ok (.int (ofDigits base ds), rest)
    | none => readDecimal cs
  | _ => readDecimal cs

end Querysmith.Toml
