import Querysmith.Blueprint.Basic
import Querysmith.Reply

/-!
# Calls on a blueprint

A call is data. Column calls define a column that can be null and make it the target of the
modifiers; constraint calls leave the target alone. A call that fails keeps what it had
already changed.
-/

namespace Querysmith

open Text

/-- The type of a column. -/
inductive ColumnType where
  | string (length : Value)
  | text
  | integer
  | bigInteger
  | decimal (precision scale : Value)
  | boolean
  | date
  | timestamp
  | datetime
  | json
  | enum (values : Value)

/-- An edit of the column that was defined last. -/
inductive Modifier where
  | default (value : Value)
  | defaultNow
  | updateNow
  | nullable
  | notNull
  | comment (text : Value)
  | after (column : Value)

/-- A call on a blueprint. -/
inductive BlueprintCall where
  /-- A primary key that counts by itself. -/
  | addId (name startingIndex length : Value)
  | addColumn (name : Value) (type : ColumnType)
  /-- The columns for the times of creation and of the last change. -/
  | addTimestamps
  | addUnique (column : Value)
  | addIndex (column name : Value)
  | addPrimary (column : Value)
  | editTarget (modifier : Modifier)
  /-- Puts a definition under a key by hand and makes it the target. -/
  | setDefinition (key definition : String)
  /-- Takes a definition out by hand. -/
  | removeDefinition (key : String)
  | toSql (mode : Value)
  | shown
  | askTable
  | askDefinitions
  | askOptions
  | askTarget
  /-- Raises an error. -/
  | fail (cause : Error)

namespace ColumnType

/-- A column type in SQL. -/
def sql : ColumnType → Except Error String
  | .string length => .ok ("VARCHAR(" ++ length.text ++ ")")
  | .text => .ok "TEXT"
  | .integer => .ok "INT"
  | .bigInteger => .ok "BIGINT"
  | .decimal precision scale => .ok ("DECIMAL(" ++ precision.text ++ "," ++ scale.text ++ ")")
  | .boolean => .ok "TINYINT(1)"
  | .date => .ok "DATE"
  | .timestamp => .ok "TIMESTAMP"
  | .datetime => .ok "DATETIME"
  | .json => .ok "JSON"
  | .enum values => do
    let items ← values.items
    pure ("ENUM(" ++ joined "," (items.map fun v => quotedString v.text) ++ ")")

end ColumnType

namespace Value

/-- Whether a value is a number; truth values are none. -/
def isNumber : Value → Bool
  | .int _ => true
  | .float _ => true
  | .decimal _ => true
  | _ => false

/-- The literal of a default: NULL for null and for the word itself in any letter case, one
or zero for a truth value, numbers and numerals as they are, and a string literal for
anything else. -/
def defaultLiteral (v : Value) : String :=
  if v.isNull || spellsInCapitals "NULL" v.text then "NULL"
  else match v with
    | .bool true => "1"
    | .bool false => "0"
    | v => if v.isNumber || isNumeral v.text.toList then v.text else quotedString v.text

end Value

namespace Modifier

/-- The name of a modifier. -/
def name : Modifier → String
  | .default _ => "default"
  | .defaultNow => "default_now"
  | .updateNow => "update_now"
  | .nullable => "nullable"
  | .notNull => "not_null"
  | .comment _ => "comment"
  | .after _ => "after"

/-- What a modifier makes of a definition. -/
def apply (definition : String) : Modifier → Except Error String
  | .default value => .ok (definition ++ " DEFAULT " ++ value.defaultLiteral)
  | .defaultNow => .ok (definition ++ " DEFAULT CURRENT_TIMESTAMP")
  | .updateNow => .ok (definition ++ " ON UPDATE CURRENT_TIMESTAMP")
  | .nullable =>
    .ok (if Nullability.mentionsNull definition then definition else definition ++ " NULL")
  | .notNull => .ok (Nullability.strip definition ++ " NOT NULL")
  | .comment text => do pure (definition ++ " COMMENT " ++ (← Blueprint.quoteText text))
  | .after column => do pure (definition ++ " AFTER " ++ (← Blueprint.quoteName column))

end Modifier

namespace Blueprint

/-- Calls on a blueprint; a failure keeps what was changed before it. -/
abbrev Edit := EStateM Error Blueprint

/-- Defines a column under its name and makes it the target. `type` is what follows the
quoted name. -/
def defineColumn (name : Value) (type : String) : Edit Unit := do
  let quoted ← ofExcept (quoteName name)
  modify fun b => (b.define name.text (quoted ++ " " ++ type)).aim name.text

/-- Edits the target, or notes that there is none. -/
def applyModifier (m : Modifier) : Edit Unit := do
  let b ← get
  match b.editable? with
  | none => set (b.warn m.name)
  | some key =>
    match b.definitions.get? key with
    | none => pure ()
    | some definition =>
      let edited ← ofExcept (m.apply definition)
      set (b.edit key fun _ => edited)

end Blueprint

namespace BlueprintCall

open Blueprint

/-- Runs a call. -/
def run : BlueprintCall → Edit Reply
  | .addId name startingIndex length => do
    let type := if length.isTrue then "INT(" ++ length.text ++ ")" else "INT"
    defineColumn name (type ++ " UNSIGNED AUTO_INCREMENT PRIMARY KEY")
    if ← ofExcept startingIndex.isPositive then
      modify (·.setOption "AUTO_INCREMENT" startingIndex)
    pure .itself
  | .addColumn name type => do
    let type ← ofExcept type.sql
    defineColumn name (type ++ " NULL")
    pure .itself
  | .addTimestamps => do
    modify (·.define "created_at"
      (quotedName "created_at" ++ " TIMESTAMP NULL DEFAULT CURRENT_TIMESTAMP"))
    modify (·.define "updated_at" (quotedName "updated_at" ++
      " TIMESTAMP NULL DEFAULT CURRENT_TIMESTAMP ON UPDATE CURRENT_TIMESTAMP"))
    pure .itself
  | .addUnique column => do
    let quoted ← ofExcept (quoteName column)
    modify (·.define ("unique_" ++ column.text) ("UNIQUE (" ++ quoted ++ ")"))
    pure .itself
  | .addIndex column name => do
    let name := name.orElse (.str ("index_" ++ column.text))
    let quoted ← ofExcept (quoteName name)
    let column ← ofExcept (quoteName column)
    modify (·.define name.text ("INDEX " ++ quoted ++ " (" ++ column ++ ")"))
    pure .itself
  | .addPrimary column => do
    let quoted ← ofExcept (quoteName column)
    modify (·.define ("primary_" ++ column.text) ("PRIMARY KEY (" ++ quoted ++ ")"))
    pure .itself
  | .editTarget m => do
    applyModifier m
    pure .itself
  | .setDefinition key definition => do
    modify fun b => (b.define key definition).aim key
    pure .itself
  | .removeDefinition key => do
    modify fun b => { b with definitions := b.definitions.erase key }
    pure .itself
  | .toSql mode => do
    let sql ← ofExcept ((← get).toSql mode)
    pure (.text sql)
  | .shown => do
    pure (.text (← get).shown)
  | .askTable => do
    pure (.value (← get).table)
  | .askDefinitions => do
    pure (.value (.map ((← get).definitions.map fun d => (.str d.1, .str d.2))))
  | .askOptions => do
    pure (.value (.map ((← get).options.map fun o => (.str o.1, o.2))))
  | .askTarget => do
    pure (.value (((← get).target.map .str).getD .null))
  | .fail cause => throw cause

/-- Runs calls in order up to the first that fails. -/
def runAll : List BlueprintCall → Edit Unit
  | [] => pure ()
  | call :: rest => do
    let _ ← call.run
    runAll rest

end BlueprintCall

end Querysmith
