import Querysmith.Blueprint.Call
import Querysmith.Call.Signature

/-!
# Calls on a blueprint, as they are written

Every call on a blueprint by the name that callers use for it.
-/

namespace Querysmith.BlueprintCall

open Signature Form

/-- The parameter for a name. -/
def name : Parameter := required "name"

/-- How a column call is written. -/
def columnForm? : String → Option (Form Value BlueprintCall)
  | "id" => some (plain
      [optional "name" (.str "id"), optional "starting_index" (.int 0), optional "length" .null] fun
      | [n, s, l] => some (.addId n s l)
      | _ => none)
  | "string" => some (plain [name, optional "length" (.int 255)] fun
      | [n, l] => some (.addColumn n (.string l))
      | _ => none)
  | "decimal" => some (plain
      [name, optional "precision" (.int 8), optional "scale" (.int 2)] fun
      | [n, p, s] => some (.addColumn n (.decimal p s))
      | _ => none)
  | "enum" => some (plain [name, required "values"] fun
      | [n, v] => some (.addColumn n (.enum v))
      | _ => none)
  | "text" => plainColumn .text
  | "integer" => plainColumn .integer
  | "big_integer" => plainColumn .bigInteger
  | "boolean" => plainColumn .boolean
  | "date" => plainColumn .date
  | "timestamp" => plainColumn .timestamp
  | "datetime" => plainColumn .datetime
  | "json" => plainColumn .json
  | "timestamps" => some (bare .addTimestamps)
  | _ => none
where
  /-- How a column whose type has no parameters is written. -/
  plainColumn (type : ColumnType) : Option (Form Value BlueprintCall) :=
    some (plain [name] fun
      | [n] => some (.addColumn n type)
      | _ => none)

/-- How a constraint is written. -/
def constraintForm? : String → Option (Form Value BlueprintCall)
  | "unique" => some (plain [required "column"] fun
      | [c] => some (.addUnique c)
      | _ => none)
  | "index" => some (plain [required "column", optional "index_name" .null] fun
      | [c, n] => some (.addIndex c n)
      | _ => none)
  | "primary" => some (plain [required "column"] fun
      | [c] => some (.addPrimary c)
      | _ => none)
  | _ => none

/-- How a modifier is written. -/
def modifierForm? : String → Option (Form Value BlueprintCall)
  | "default" => some (plain [required "value"] fun
      | [v] => some (.editTarget (.default v))
      | _ => none)
  | "default_now" => some (bare (.editTarget .defaultNow))
  | "update_now" => some (bare (.editTarget .updateNow))
  | "nullable" => some (bare (.editTarget .nullable))
  | "not_null" => some (bare (.editTarget .notNull))
  | "comment" => some (plain [required "text"] fun
      | [t] => some (.editTarget (.comment t))
      | _ => none)
  | "after" => some (plain [required "column"] fun
      | [c] => some (.editTarget (.after c))
      | _ => none)
  | _ => none

/-- How any other call is written. -/
def otherForm? : String → Option (Form Value BlueprintCall)
  | "set_column" => some (plain [required "key", required "definition"] fun
      | [k, d] => some (.setDefinition k.text d.text)
      | _ => none)
  | "del_column" => some (plain [required "key"] fun
      | [k] => some (.removeDefinition k.text)
      | _ => none)
  | "to_sql" => some (plain [required "mode"] fun
      | [m] => some (.toSql m)
      | _ => none)
  | _ => none

/-- The questions that are no calls, so that arguments are not looked at. -/
def property? : String → Option BlueprintCall
  | "repr" => some .shown
  | "str" => some .shown
  | "table" => some .askTable
  | "columns" => some .askDefinitions
  | "options" => some .askOptions
  | "last_column" => some .askTarget
  | _ => none

/-- The call that a written call makes. -/
def ofCall (call : Call Value) : Except Error BlueprintCall :=
  let form? := columnForm? call.name <|> constraintForm? call.name <|>
    modifierForm? call.name <|> otherForm? call.name
  match property? call.name, form? with
  | some question, _ => .ok question
  | none, some form => form.read ("TableBlueprint." ++ call.name) id call
  | none, none => .error (.noOperation "TableBlueprint" call.name)

end Querysmith.BlueprintCall
