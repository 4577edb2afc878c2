import Querysmith.Error
import Querysmith.Text.Blank
import Querysmith.Text.Digit

/-!
# Integers from values, and back

A number gives its integer part and a text the integer it writes: blanks around it, a sign,
and decimal digits of any script, where one underscore may stand between two digits. No text
of more than 4300 digits is read or written.
-/

namespace Querysmith

open Text

namespace Number

/-- Digits that continue a number; one underscore may come before each. -/
def readMoreDigits? (value : Nat) : List Char → Option Nat
  | [] => some value
  | '_' :: c :: rest =>
    match digitValue? c with
    | some d => readMoreDigits? (10 * value + d) rest
    | none => none
  | c :: rest =>
    match digitValue? c with
    | some d => readMoreDigits? (10 * value + d) rest
    | none => none

/-- Digits, the first of them not after an underscore. -/
def readDigits? : List Char → Option Nat
  | [] => none
  | c :: rest =>
    match digitValue? c with
    | some d => readMoreDigits? d rest
    | none => none

/-- An integer with an optional sign. -/
def readSigned? : List Char → Option Int
  | '-' :: rest => (readDigits? rest).map fun n => -(n : Int)
  | '+' :: rest => (readDigits? rest).map Int.ofNat
  | rest => (readDigits? rest).map Int.ofNat

/-- The space and the control characters that move on, from the tab to the carriage return. -/
def isBasicBlank (c : Char) : Bool := c = ' ' || (9 ≤ c.toNat && c.toNat ≤ 13)

/-- The blanks around an integer: the basic ones, and all that are not basic characters. -/
def isOuterBlank (c : Char) : Bool := isBasicBlank c || (128 ≤ c.toNat && isBlank c)

/-- A text without what `drop` tells to drop at both ends. -/
def trim (drop : Char → Bool) (cs : List Char) : List Char :=
  ((cs.dropWhile drop).reverse.dropWhile drop).reverse

/-- The most digits that an integer is read or written with. -/
def digitLimit : Nat := 4300

/-- The number of digits that a text goes on with after `count` others; zero when an
underscore stands where none may. -/
def countDigits (count : Nat) : List Char → Nat
  | [] => count
  | '_' :: c :: rest => if (digitValue? c).isSome then countDigits (count + 1) rest else 0
  | c :: rest =>
    if (digitValue? c).isSome then countDigits (count + 1) rest
    else if c = '_' then 0
    else count

/-- The number of digits that a text starts with behind its sign. -/
def leadingDigits (cs : List Char) : Nat :=
  match cs with
  | '-' :: c :: rest => if c = '_' then 0 else countDigits 0 (c :: rest)
  | '+' :: c :: rest => if c = '_' then 0 else countDigits 0 (c :: rest)
  | c :: rest => if c = '_' then 0 else countDigits 0 (c :: rest)
  | [] => 0

/-- The most characters of a text that a message shows. -/
def shownLimit : Nat := 200

/-- The integer that a text writes. Too many digits are refused before what follows them is
looked at; `shown` is the text in a message. -/
def integerOf (shown : String) (cs : List Char) : Except Error Int :=
  if digitLimit < leadingDigits cs then .error (.tooManyDigits (leadingDigits cs))
  else match readSigned? cs with
    | some n => .ok n
    | none => .error (.badInteger (String.ofList (shown.toList.take shownLimit)))

/-- The basic character of a byte; any other byte counts as no digit and no blank. -/
def charOfByte (b : UInt8) : Char := if b.toNat < 128 then Char.ofNat b.toNat else '?'

/-- The text of an integer, unless it has too many digits. -/
def integerText (n : Int) : Except Error String :=
  if n.natAbs < Nat.pow 10 digitLimit then .ok (toString n) else .error .integerTooLong

/-- An integer part with its sign. -/
def signed (negative : Bool) (n : Nat) : Int := if negative then -(n : Int) else n

end Number

namespace Value

open Number

mutual
/-- Whether an integer in a value has too many digits to be written. -/
def holdsLongInteger : Value → Bool
  | .int n => Nat.pow 10 digitLimit ≤ n.natAbs
  | .list items => anyHoldsLongInteger items
  | .tuple items => anyHoldsLongInteger items
  | .map entries => anyEntryHoldsLongInteger entries
  | _ => false

/-- Whether an integer in one of some values has too many digits to be written. -/
def anyHoldsLongInteger : List Value → Bool
  | [] => false
  | v :: rest => v.holdsLongInteger || anyHoldsLongInteger rest

/-- Whether an integer in the entries of a map has too many digits to be written. -/
def anyEntryHoldsLongInteger : List (Value × Value) → Bool
  | [] => false
  | (k, v) :: rest =>
    k.holdsLongInteger || v.holdsLongInteger || anyEntryHoldsLongInteger rest
end

/-- The text of a value, unless an integer in it has too many digits. -/
def writtenText (v : Value) : Except Error String :=
  if v.holdsLongInteger then .error .integerTooLong else .ok v.text

/-- The integer that a value gives. -/
def toInt : Value → Except Error Int
  | .bool b => .ok (if b then 1 else 0)
  | .int n => .ok n
  | .float (.finite negative m e) => .ok (signed negative (Binary64.integerPart m e))
  | .float (.infinite _) => .error .infiniteFloat
  | .float (.undefined _) => .error .undefinedFloat
  | .decimal (.finite negative c e) => .ok (signed negative (Decimal.integerPart c e))
  | .decimal (.infinite _) => .error .infiniteDecimal
  | .decimal (.undefined ..) => .error .undefinedDecimal
  | .str s => integerOf (Text.shown s) (trim isOuterBlank s.toList)
  | .bytes content =>
    integerOf (shownBytes (content.take shownLimit)) (trim isBasicBlank (content.map charOfByte))
  | v => .error (.notNumeric v.kindName)

/-- Whether a value is a number greater than zero. -/
def isPositive : Value → Except Error Bool
  | .bool b => .ok b
  | .int n => .ok (0 < n)
  | .float x => .ok x.isPositive
  | .decimal d =>
    match d.isPositive? with
    | some positive => .ok positive
    | none => .error .decimalOrder
  | v => .error (.notOrdered v.kindName)

end Value

end Querysmith
