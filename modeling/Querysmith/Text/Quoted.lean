/-!
# Quoted names and string literals

A name stands between backticks and a string literal between single quotes. Inside, the
delimiter is written twice and every other character once.
-/

namespace Querysmith.Text

/-- The delimiter of a quoted name. -/
def nameQuote : Char := '\x60'

/-- The delimiter of a string literal. -/
def stringQuote : Char := '\x27'

/-- Writes the delimiter twice and every other character once. -/
def doubled (delimiter : Char) : List Char → List Char
  | [] => []
  | c :: rest =>
    if c = delimiter then delimiter :: delimiter :: doubled delimiter rest
    else c :: doubled delimiter rest

/-- The text between two delimiters, with those inside doubled. -/
def quoted (delimiter : Char) (s : String) : String :=
  String.ofList (delimiter :: (doubled delimiter s.toList ++ [delimiter]))

/-- A name as an identifier. -/
def quotedName (name : String) : String := quoted nameQuote name

/-- A text as a string literal. -/
def quotedString (text : String) : String := quoted stringQuote text

end Querysmith.Text
