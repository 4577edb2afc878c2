import Querysmith.Profile.Toml.Fault
import Querysmith.Value.Items

/-!
# Tables of a profile file

The tables that the statements of a file make, one after the other. A table is declared once
and a key is set once. What is written as a value, a table or an array, cannot be added to
later; a list of tables grows by its own headers only, and its last table is the one that
further headers and keys mean.
-/

namespace Querysmith.Toml

/-- Changes the table at a path, which is made when it is missing. Nothing but tables and
lists of tables may stand on the way. -/
def changeTable (change : Entries → Option Entries) (entries : Entries) :
    List String → Option Entries
  | [] => change entries
  | name :: path =>
    match entries.get? (.str name) with
    | none => do
      let inner ← changeTable change [] path
      pure (entries.set (.str name) (.map inner))
    | some (.map inner) => do
      let inner ← changeTable change inner path
      pure (entries.set (.str name) (.map inner))
    | some (.list tables) =>
      match tables.getLast? with
      | some (.map inner) => do
        let inner ← changeTable change inner path
        pure (entries.set (.str name) (.list (tables.dropLast ++ [.map inner])))
      | _ => none
    | some _ => none

/-- Sets a key that is not set yet. -/
def setNew (key : String) (value : Value) (entries : Entries) : Option Entries :=
  match entries.get? (.str key) with
  | none => some (entries.set (.str key) value)
  | some _ => none

/-- Puts an empty table behind those of a list, which is made when it is missing. -/
def addItem (key : String) (entries : Entries) : Option Entries :=
  match entries.get? (.str key) with
  | none => some (entries.set (.str key) (.list [.map []]))
  | some (.list tables) => some (entries.set (.str key) (.list (tables ++ [.map []])))
  | some _ => none

/-- What an action makes, which fails when a value is in its way. -/
def unlessOverwritten {α : Type} (made : Option α) : Except Cause α :=
  match made with
  | some a => .ok a
  | none => .error .overwritten

/-- Whether one of the paths leads to the table at `path`, or to a table around it. -/
def covers (paths : List (List String)) (path : List String) : Bool :=
  paths.any fun p => p.isPrefixOf path

/-- Whether a value cannot be added to: an array or a table. -/
def isClosed : Value → Bool
  | .list _ => true
  | .map _ => true
  | _ => false

/-- The paths that lead to the table of a dotted key, one part longer each time. -/
def waysTo (start : List String) : List String → List (List String)
  | [] => []
  | part :: parts => (start ++ [part]) :: waysTo (start ++ [part]) parts

/-- The tables read so far. -/
structure Document where
  entries : Entries := []
  /-- The table that keys are set in. -/
  current : List String := []
  /-- The tables that cannot be declared again. -/
  declared : List (List String) := []
  /-- Tables made by the dotted keys of the current table. -/
  pending : List (List String) := []
  /-- Where arrays and tables are written as values. -/
  closed : List (List String) := []

namespace Document

/-- What dotted keys have made counts as declared from the next header on. -/
def settle (d : Document) : Document :=
  { d with declared := d.declared ++ d.pending, pending := [] }

/-- Declares a table and makes it the current one. -/
def declare (d : Document) (path : List String) : Except Cause Document := do
  let d := d.settle
  if d.declared.contains path || covers d.closed path then throw (.declaredTwice path)
  let entries ← unlessOverwritten (changeTable some d.entries path)
  pure { d with entries, current := path, declared := path :: d.declared }

/-- Adds a table to the list at a path and makes it the current one. What has been declared
inside the table before it can be declared again. -/
def declareItem (d : Document) (path : List String) : Except Cause Document := do
  let d := d.settle
  if covers d.closed path then throw (.immutable path)
  let entries ← unlessOverwritten
    (changeTable (addItem (path.getLastD "")) d.entries path.dropLast)
  pure { d with
    entries
    current := path
    declared := path :: d.declared.filter fun p => !path.isPrefixOf p
    closed := d.closed.filter fun p => !path.isPrefixOf p }

/-- Sets a key of the current table. -/
def setValue (d : Document) (key : List String) (value : Value) : Except Cause Document := do
  let table := d.current ++ key.dropLast
  -- a dotted key must not reach into a table that has a header of its own
  let ways := waysTo d.current key.dropLast
  if let some way := ways.find? fun way => d.declared.contains way then throw (.redefined way)
  if covers d.closed table then throw (.immutable table)
  let entries ← unlessOverwritten
    (changeTable (setNew (key.getLastD "") value) d.entries table)
  pure { d with
    entries
    pending := d.pending ++ ways
    closed := if isClosed value then (d.current ++ key) :: d.closed else d.closed }

end Document

/-- A table written as a value, as far as it is read. -/
structure InlineTable where
  entries : Entries := []
  /-- Where arrays and tables are written as values. -/
  closed : List (List String) := []

/-- Sets a key of an inline table. -/
def InlineTable.setValue (t : InlineTable) (key : List String) (value : Value) :
    Except Cause InlineTable := do
  if covers t.closed key then throw (.immutable key)
  let last := key.getLastD ""
  -- tells a key that is set from a value in the way to it
  let _ ← unlessOverwritten (changeTable some t.entries key.dropLast)
  match changeTable (setNew last value) t.entries key.dropLast with
  | some entries =>
    pure { entries, closed := if isClosed value then key :: t.closed else t.closed }
  | none => throw (.repeatedKey last)

end Querysmith.Toml
