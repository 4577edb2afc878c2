import Querysmith.Error

/-!
# Faults of profile files

What can be wrong with the text of a file, and the message about it: the cause, and the place
up to which the text has been read.
-/

namespace Querysmith.Toml

/-- What is wrong at a place of a text. -/
inductive Cause where
  /-- A line starts with something else than a key, a header or a comment. -/
  | statement
  /-- A statement goes on where the line has to end. -/
  | lineEnd
  /-- A part of a key starts with a character that none starts with. -/
  | keyPart
  /-- A key stands without a value. -/
  | equalsSign
  | value
  /-- A day that the calendar does not have. -/
  | moment
  /-- The header of a table is not closed. -/
  | headerEnd
  /-- The header of an item of a list of tables is not closed. -/
  | itemHeaderEnd
  | arrayEnd
  | inlineTableEnd
  /-- The table at a path cannot be declared any more. -/
  | declaredTwice (path : List String)
  /-- A dotted key reaches into a table that has a header of its own. -/
  | redefined (path : List String)
  /-- A table or an array written as a value cannot be added to. -/
  | immutable (path : List String)
  /-- A key is set already, or a value stands where a table has to be. -/
  | overwritten
  /-- A key of an inline table is set already. -/
  | repeatedKey (key : String)
  | escape
  | hexDigits
  /-- An escape gives the code of no character. -/
  | codePoint
  /-- The quotes that end a literal string are missing. -/
  | quotesExpected (quotes : String)
  | unterminated
  /-- A basic string holds a control character. -/
  | stringCharacter (c : Char)
  /-- A comment or a literal string holds a control character. -/
  | strayCharacter (c : Char)
  deriving DecidableEq, Repr

/-- What keeps a text from being read. -/
inductive Fault where
  /-- Something is wrong where only `rest` is left of the text. -/
  | malformed (cause : Cause) (rest : List Char)
  /-- An integer is written with this many digits, which are too many. -/
  | tooManyDigits (digits : Nat)
  /-- Values are nested too deeply. -/
  | tooDeep
  deriving DecidableEq, Repr

namespace Cause

/-- The path of a table in a message. -/
def shownPath (path : List String) : String := (Value.tuple (path.map .str)).shown

/-- The text of a cause, its place aside. -/
def message : Cause → String
  | .statement => "Invalid statement"
  | .lineEnd => "Expected newline or end of document after a statement"
  | .keyPart => "Invalid initial character for a key part"
  | .equalsSign => "Expected '=' after a key in a key/value pair"
  | .value => "Invalid value"
  | .moment => "Invalid date or datetime"
  | .headerEnd => "Expected ']' at the end of a table declaration"
  | .itemHeaderEnd => "Expected ']]' at the end of an array declaration"
  | .arrayEnd => "Unclosed array"
  | .inlineTableEnd => "Unclosed inline table"
  | .declaredTwice path => "Cannot declare " ++ shownPath path ++ " twice"
  | .redefined path => "Cannot redefine namespace " ++ shownPath path
  | .immutable path => "Cannot mutate immutable namespace " ++ shownPath path
  | .overwritten => "Cannot overwrite a value"
  | .repeatedKey key => "Duplicate inline table key " ++ Text.shown key
  | .escape => "Unescaped '\\' in a string"
  | .hexDigits => "Invalid hex value"
  | .codePoint => "Escaped character is not a Unicode scalar value"
  | .quotesExpected quotes => "Expected " ++ Text.shown quotes
  | .unterminated => "Unterminated string"
  | .stringCharacter c => "Illegal character " ++ Text.shown (String.singleton c)
  | .strayCharacter c => "Found invalid character " ++ Text.shown (String.singleton c)

end Cause

/-- The place where only `rest` is left of a text, with lines and columns counted from one. -/
def place (text rest : List Char) : String :=
  if rest.isEmpty then "end of document"
  else
    let read := text.take (text.length - rest.length)
    "line " ++ toString (read.count '\n' + 1) ++
      ", column " ++ toString ((read.reverse.takeWhile (· ≠ '\n')).length + 1)

/-- The error that a fault of a text is reported as. -/
def Fault.asError (text : List Char) : Fault → Error
  | .malformed cause rest =>
    .malformedProfiles (cause.message ++ " (at " ++ place text rest ++ ")")
  | .tooManyDigits digits => .tooManyDigits digits
  | .tooDeep => .deepProfiles

/-- What comes of reading. -/
abbrev Result (α : Type) := Except Fault α

/-- A reader of a text: what it has read, and the rest of the text. -/
abbrev Reader (α : Type) := List Char → Result (α × List Char)

/-- Gives up where only `rest` is left of the text. -/
def fail {α : Type} (cause : Cause) (rest : List Char) : Result α :=
  .error (.malformed cause rest)

/-- Gives the causes of an action the place where only `rest` is left of the text. -/
def located {α : Type} (rest : List Char) : Except Cause α → Result α
  | .ok a => .ok a
  | .error cause => fail cause rest

end Querysmith.Toml
