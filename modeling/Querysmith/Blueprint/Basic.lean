import Querysmith.Blueprint.Nullability
import Querysmith.Text.LetterCase
import Querysmith.Text.Numeral
import Querysmith.Value.Integer
import Querysmith.Value.Items

/-!
# Table blueprints

A blueprint collects the definitions of a table's columns and constraints in the order in
which they were first made, each under a key: a column under its name, a constraint under a
name made for it. The column that was defined last is the target of the modifiers, which edit
its definition in place.
-/

namespace Querysmith

open Text

/-- Definitions by key, in the order in which the keys came. -/
abbrev Definitions := List (String × String)

namespace Definitions

/-- Sets the definition of a key: in its place when the key is there, else at the end. -/
def set (ds : Definitions) (key definition : String) : Definitions :=
  match ds with
  | [] => [(key, definition)]
  | d :: rest => if d.1 = key then (key, definition) :: rest else d :: set rest key definition

/-- The definition of a key. -/
def get? (ds : Definitions) (key : String) : Option String :=
  (ds.find? fun d => d.1 = key).map Prod.snd

/-- Edits the definition of a key. -/
def edit (ds : Definitions) (key : String) (f : String → String) : Definitions :=
  ds.map fun d => if d.1 = key then (d.1, f d.2) else d

/-- Takes a key out. -/
def erase (ds : Definitions) (key : String) : Definitions := ds.filter fun d => d.1 ≠ key

end Definitions

/-- A table under construction. -/
structure Blueprint where
  table : Value
  definitions : Definitions := []
  /-- Table options and their values. -/
  options : List (String × Value) := []
  /-- The column that modifiers edit. -/
  target : Option String := none
  /-- Modifiers that found no column to edit. -/
  warnings : List String := []

namespace Blueprint

/-- A name as an identifier; only texts are names. -/
def quoteName : Value → Except Error String
  | .str s => .ok (quotedName s)
  | .bytes _ => .error .notBytes
  | v => .error (.noOperation v.kindName "replace")

/-- A text as a string literal. -/
def quoteText : Value → Except Error String
  | .str s => .ok (quotedString s)
  | .bytes _ => .error .notBytes
  | v => .error (.noOperation v.kindName "replace")

/-- Puts a definition under a key. -/
def define (b : Blueprint) (key definition : String) : Blueprint :=
  { b with definitions := b.definitions.set key definition }

/-- Makes a column the target of the modifiers. -/
def aim (b : Blueprint) (key : String) : Blueprint := { b with target := some key }

/-- Edits the definition of a key. -/
def edit (b : Blueprint) (key : String) (f : String → String) : Blueprint :=
  { b with definitions := b.definitions.edit key f }

/-- Sets a table option. -/
def setOption (b : Blueprint) (key : String) (value : Value) : Blueprint :=
  { b with options := (b.options.filter fun o => o.1 ≠ key) ++ [(key, value)] }

/-- The key of the column that a modifier edits, if it is still there. -/
def editable? (b : Blueprint) : Option String :=
  b.target.filter fun key => (b.definitions.get? key).isSome

/-- Notes that a modifier found no column to edit. -/
def warn (b : Blueprint) (modifier : String) : Blueprint :=
  { b with warnings := b.warnings ++
      [modifier ++ "() called on table " ++ b.table.shown ++
        " before any column was defined; ignored"] }

/-- The CREATE statement. -/
def createSql (b : Blueprint) (table : String) : String :=
  "CREATE TABLE IF NOT EXISTS " ++ table ++ " (" ++ commaJoined (b.definitions.map Prod.snd) ++
    ")" ++ String.join (b.options.map fun o => " " ++ o.1 ++ "=" ++ o.2.text) ++ ";"

/-- The ALTER statement, which adds every definition. -/
def alterSql (b : Blueprint) (table : String) : String :=
  "ALTER TABLE " ++ table ++ " " ++
    commaJoined (b.definitions.map fun d => "ADD " ++ d.2) ++ ";"

/-- The statement for a mode; nothing for a blueprint without definitions and for a mode that
is neither `create` nor `alter`. -/
def toSql (b : Blueprint) (mode : Value) : Except Error String :=
  if b.definitions.isEmpty then .ok ""
  else do
    let table ← quoteName b.table
    match mode with
    | .str "create" => pure (b.createSql table)
    | .str "alter" => pure (b.alterSql table)
    | _ => pure ""

/-- The blueprint in a message. -/
def shown (b : Blueprint) : String :=
  "TableBlueprint(" ++ b.table.shown ++ ", columns=" ++
    (Value.list (b.definitions.map fun d => .str d.1)).shown ++ ")"

end Blueprint

end Querysmith
