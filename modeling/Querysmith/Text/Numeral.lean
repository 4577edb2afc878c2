import Querysmith.Text.Digit

/-!
# Numerals

A numeral is an optional sign, digits with a point among them or at an end, and an optional
exponent with a sign of its own. The digits are those of any script.
-/

namespace Querysmith.Text

/-- What follows an optional sign. -/
def afterSign : List Char → List Char
  | '+' :: rest => rest
  | '-' :: rest => rest
  | rest => rest

/-- Whether a text is digits, at least one. -/
def isDigits (cs : List Char) : Bool := !cs.isEmpty && cs.all isDecimalDigit

/-- Whether a text is an exponent or nothing. -/
def isExponent : List Char → Bool
  | [] => true
  | e :: rest => (e = 'e' || e = 'E') && isDigits (afterSign rest)

/-- Whether a text is a numeral. -/
def isNumeral (cs : List Char) : Bool :=
  let body := afterSign cs
  let whole := body.takeWhile isDecimalDigit
  let rest := body.dropWhile isDecimalDigit
  match rest with
  | '.' :: rest =>
    (!whole.isEmpty || !(rest.takeWhile isDecimalDigit).isEmpty) &&
      isExponent (rest.dropWhile isDecimalDigit)
  | rest => !whole.isEmpty && isExponent rest

end Querysmith.Text
