import Querysmith.Text.Printable

/-!
# Shown texts

A text shown between quotes, as it stands inside a list or in a message. The quotes are
single, or double when the text holds a single quote and no double one. The quote, the
backslash and the line controls are escaped, and so is what is not printable: with two
hexadecimal digits, four, or eight, as many as the code point needs.
-/

namespace Querysmith.Text

/-- The hexadecimal digits of a number, padded with zeros to a width. -/
def hexPadded (width n : Nat) : List Char :=
  let digits := Nat.toDigits 16 n
  List.replicate (width - digits.length) '0' ++ digits

/-- The quote around a shown text. -/
def showQuote (cs : List Char) : Char :=
  if cs.contains '\x27' && !cs.contains '"' then '"' else '\x27'

/-- A character of a shown text. -/
def shownChar (quote c : Char) : List Char :=
  if c = quote || c = '\\' then ['\\', c]
  else if c = '\n' then ['\\', 'n']
  else if c = '\r' then ['\\', 'r']
  else if c = '\t' then ['\\', 't']
  else if isPrintable c then [c]
  else if c.toNat < 0x100 then '\\' :: 'x' :: hexPadded 2 c.toNat
  else if c.toNat < 0x10000 then '\\' :: 'u' :: hexPadded 4 c.toNat
  else '\\' :: 'U' :: hexPadded 8 c.toNat

/-- A text between quotes. -/
def shown (s : String) : String :=
  let quote := showQuote s.toList
  String.ofList (quote :: (s.toList.flatMap (shownChar quote) ++ [quote]))

/-- A byte of a shown byte string: like a character, with two hexadecimal digits for
everything outside the printable basic characters. -/
def shownByte (quote : Char) (byte : UInt8) : List Char :=
  if byte.toNat < 128 then shownChar quote (Char.ofNat byte.toNat)
  else '\\' :: 'x' :: hexPadded 2 byte.toNat

/-- A byte string between quotes, after the letter `b`. -/
def shownBytes (bytes : List UInt8) : String :=
  let quote := showQuote (bytes.map fun b => Char.ofNat b.toNat)
  String.ofList ('b' :: quote :: (bytes.flatMap (shownByte quote) ++ [quote]))

end Querysmith.Text
