import Querysmith.Profile.Toml.Literal

/-!
# Files of server profiles

A file is made of tables of keys and values, in the TOML format, one statement a line. A file
that breaks the rules is refused with the cause and its place.
-/

namespace Querysmith.Toml

/-- The header of a table behind its bracket. -/
def readHeader (d : Document) : Reader Document := fun cs => do
  let (path, rest) ← readKey (cs.length + 1) (skipSpaces cs)
  let d ← located rest (d.declare path)
  match rest with
  | ']' :: rest => pure (d, rest)
  | rest => fail .headerEnd rest

/-- The header of a table in a list of tables, behind its two brackets. -/
def readItemHeader (d : Document) : Reader Document := fun cs => do
  let (path, rest) ← readKey (cs.length + 1) (skipSpaces cs)
  let d ← located rest (d.declareItem path)
  match rest with
  | ']' :: ']' :: rest => pure (d, rest)
  | rest => fail .itemHeaderEnd rest

/-- A key of the current table and its value. -/
def readAssignment (d : Document) : Reader Document := fun cs => do
  let ((key, value), rest) ← readPair 0 (cs.length + 3) cs
  let d ← located rest (d.setValue key value)
  pure (d, rest)

/-- What stands on a line, up to a comment or the end of the line. -/
def readStatement (d : Document) : Reader Document := fun cs =>
  match cs with
  | [] => .ok (d, cs)
  | '[' :: '[' :: rest => readItemHeader d rest
  | '[' :: rest => readHeader d rest
  | c :: _ =>
    if startsKey c then readAssignment d cs
    else if c = '#' || c = '\n' then .ok (d, cs)
    else fail .statement cs

/-- Reads line by line; `fuel` bounds the number of lines. -/
def readDocument : (fuel : Nat) → Document → List Char → Result Document
  | 0, _, cs => fail .lineEnd cs
  | fuel + 1, d, cs => do
    let (d, rest) ← readStatement d (skipSpaces cs)
    match ← skipComment (skipSpaces rest) with
    | [] => .ok d
    | '\n' :: rest => readDocument fuel d rest
    | rest => fail .lineEnd rest

/-- Writes the two characters of some line ends as one. -/
def unifyLineEnds : List Char → List Char
  | '\r' :: '\n' :: rest => '\n' :: unifyLineEnds rest
  | c :: rest => c :: unifyLineEnds rest
  | [] => []

/-- The tables of a file. -/
def parse (s : String) : Except Error Entries :=
  let cs := unifyLineEnds s.toList
  match readDocument (cs.length + 1) {} cs with
  | .ok d => .ok d.entries
  | .error fault => .error (fault.asError cs)

end Querysmith.Toml
