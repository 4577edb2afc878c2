import Querysmith.Builder.Writing
import Querysmith.Call.Signature

/-!
# Calls on a builder, as they are written

Every call on a builder by the name that callers use for it.
-/

namespace Querysmith

open Signature

namespace Operand

variable {τ : Type}

/-- An operand as a value; a block counts as one that cannot be read. -/
def asValue : Operand τ → Value
  | .value v => v
  | .block _ => .function

end Operand

namespace Step

variable {τ : Type}

/-- How a call whose arguments are all values is written. -/
def formOfValues (parameters : List Parameter) (make : List Value → Option (Step τ)) :
    Form (Operand τ) (Step τ) where
  parameters
  make args := Form.fitting (make (args.map Operand.asValue))

/-- How a call whose first argument can be a block is written. -/
def formOfFirst (parameters : List Parameter)
    (make : Operand τ → List Value → Option (Step τ)) : Form (Operand τ) (Step τ) where
  parameters
  make
    | [] => Form.unfit
    | first :: rest => Form.fitting (make first (rest.map Operand.asValue))

/-- The parameter for a column. -/
def column : Parameter := required "column"

/-- The parameter for a conjunction. -/
def conjunction : Parameter := optional "boolean" Condition.and

/-- The parameters of a comparison. -/
def comparison : List Parameter :=
  [column, optional "operator" .null, optional "value" .omitted]

/-- How a comparison is written. -/
def comparisonForm (make : Operand τ → Value → Value → Step τ) : Form (Operand τ) (Step τ) :=
  formOfFirst comparison fun
    | c, [o, v] => some (make c o v)
    | _, _ => none

/-- How a join is written. -/
def joinForm (kind : String) : Form (Operand τ) (Step τ) where
  parameters := [required "table", required "first", optional "operator" .null,
    optional "second" .null]
  make
    | [t, f, o, s] => .ok (.join (.str kind) t.asValue f o.asValue s.asValue)
    | _ => Form.unfit

/-- How a call on conditions is written. -/
def conditionForm? : String → Option (Form (Operand τ) (Step τ))
  | "where" => some (comparisonForm fun c o v => .whereCompare c o v Condition.and)
  | "or_where" => some (comparisonForm fun c o v => .whereCompare c o v Condition.or)
  | "having" => some (comparisonForm fun c o v => .havingCompare c o v Condition.and)
  | "or_having" => some (comparisonForm fun c o v => .havingCompare c o v Condition.or)
  | "where_raw" => some (formOfValues
      [required "expression", optional "bindings" .null, conjunction] fun
      | [e, b, j] => some (.whereRaw e b j)
      | _ => none)
  | "or_where_raw" => some (formOfValues
      [required "expression", optional "bindings" .null] fun
      | [e, b] => some (.whereRaw e b Condition.or)
      | _ => none)
  | "having_raw" => some (formOfValues
      [required "expression", optional "bindings" .null, conjunction] fun
      | [e, b, j] => some (.havingRaw e b j)
      | _ => none)
  | "where_column" => some (formOfValues
      [required "first", required "operator", required "second", conjunction] fun
      | [f, o, s, j] => some (.whereColumns f o s j)
      | _ => none)
  | "or_where_column" => some (formOfValues
      [required "first", required "operator", required "second"] fun
      | [f, o, s] => some (.whereColumns f o s Condition.or)
      | _ => none)
  | "where_sub" => some {
      parameters := [column, required "operator", required "callback", conjunction]
      make := fun
        | [c, o, b, j] => .ok (.whereSub c.asValue o.asValue b j.asValue)
        | _ => Form.unfit }
  | "or_where_sub" => some {
      parameters := [column, required "operator", required "callback"]
      make := fun
        | [c, o, b] => .ok (.whereSub c.asValue o.asValue b Condition.or)
        | _ => Form.unfit }
  | "where_in" => some {
      parameters := [column, required "values", conjunction, optional "negate" (.bool false)]
      make := fun
        | [c, v, j, n] => .ok (.whereIn c.asValue v j.asValue n.asValue)
        | _ => Form.unfit }
  | "or_where_in" => some {
      parameters := [column, required "values"]
      make := fun
        | [c, v] => .ok (.whereIn c.asValue v Condition.or (.bool false))
        | _ => Form.unfit }
  | "where_not_in" => some {
      parameters := [column, required "values", conjunction]
      make := fun
        | [c, v, j] => .ok (.whereIn c.asValue v j.asValue (.bool true))
        | _ => Form.unfit }
  | "where_null" => some (formOfValues
      [column, conjunction, optional "negate" (.bool false)] fun
      | [c, j, n] => some (.whereNull c j n)
      | _ => none)
  | "or_where_null" => some (formOfValues [column] fun
      | [c] => some (.whereNull c Condition.or (.bool false))
      | _ => none)
  | "where_not_null" => some (formOfValues [column, conjunction] fun
      | [c, j] => some (.whereNull c j (.bool true))
      | _ => none)
  | "where_between" => some (formOfValues
      [column, required "low", required "high", conjunction] fun
      | [c, l, h, j] => some (.whereBetween c l h j)
      | _ => none)
  | "on" => some (formOfValues
      [required "first", optional "operator" (.str "="), optional "second" .null, conjunction] fun
      | [f, o, s, j] => some (.on f o s j)
      | _ => none)
  | "or_on" => some (formOfValues
      [required "first", optional "operator" (.str "="), optional "second" .null] fun
      | [f, o, s] => some (.on f o s Condition.or)
      | _ => none)
  | _ => none

/-- How a call on another clause is written. -/
def clauseForm? : String → Option (Form (Operand τ) (Step τ))
  | "table" => some (formOfValues [required "table"] fun
      | [t] => some (.table t)
      | _ => none)
  | "select_raw" => some (formOfValues
      [required "expression", optional "bindings" .null] fun
      | [e, b] => some (.selectRaw e b)
      | _ => none)
  | "select_sub" => some (formOfFirst [required "callback", required "alias"] fun
      | b, [a] => some (.selectSub b a)
      | _, _ => none)
  | "distinct" => some (Form.bare .distinct)
  | "set" => some (formOfValues [column, required "value"] fun
      | [c, v] => some (.set c v)
      | _ => none)
  | "join" => some (joinForm "INNER")
  | "left_join" => some (joinForm "LEFT")
  | "right_join" => some (joinForm "RIGHT")
  | "order_by" => some (formOfValues [column, optional "direction" (.str "ASC")] fun
      | [c, d] => some (.orderBy c d)
      | _ => none)
  | "order_by_desc" => some (formOfValues [column] fun
      | [c] => some (.orderBy c (.str "DESC"))
      | _ => none)
  | "limit" => some (formOfValues [required "limit"] fun
      | [n] => some (.limit n)
      | _ => none)
  | "offset" => some (formOfValues [required "offset"] fun
      | [n] => some (.offset n)
      | _ => none)
  | "when" => some {
      parameters := [required "condition", required "callback", optional "default" .null]
      make := fun
        | [c, b, d] => .ok (.when c.asValue b d)
        | _ => Form.unfit }
  | _ => none

/-- How a call that reads off the builder is written. -/
def readingForm? (name : String) : Option (Form (Operand τ) (Step τ)) :=
  let bare (r : Reading) : Option (Form (Operand τ) (Step τ)) := some (Form.bare (.read r))
  match name with
  | "compile" => bare .compile
  | "compile_count" => bare .compileCount
  | "compile_update" => some (formOfValues [optional "data" .null] fun
      | [d] => some (.read (.compileUpdate d))
      | _ => none)
  | "compile_delete" => bare .compileDelete
  | "compile_insert" => some (formOfValues
      [required "rows", optional "verb" (.str "INSERT")] fun
      | [r, v] => some (.read (.compileInsert r v))
      | _ => none)
  | "to_sql" => bare .sql
  | _ => none

/-- What can be read off the builder without a call, so that arguments are not looked at. -/
def property? : String → Option Reading
  | "bindings" => some .bindings
  | "server" => some .server
  | "repr" => some .shown
  | "str" => some .shown
  | _ => none

/-- The step that the arguments of a written call make. -/
def ofArguments (finish? : String → Option (Form Value τ)) (call : Call (Operand τ)) :
    Except Error (Step τ) := do
  if let some r := property? call.name then return .read r
  let operation := "QueryBuilder." ++ call.name
  if call.name = "select" || call.name = "group_by" then
    let sig : Signature := { operation, parameters := [], takesRest := true }
    let (_, columns) ← sig.bind .value call
    if call.name = "select" then return .select columns
    else return .groupBy (columns.map Operand.asValue)
  match conditionForm? call.name <|> clauseForm? call.name <|> readingForm? call.name with
  | some form => form.read operation .value call
  | none =>
    match finish? call.name with
    | some form =>
      let form : Form (Operand τ) (Step τ) := {
        parameters := form.parameters
        make := fun args => do
          let call ← form.make (args.map Operand.asValue)
          pure (.finish call) }
      form.read operation .value call
    | none => throw (.noOperation "QueryBuilder" call.name)

/-- The step that a written call makes. `finish?` tells how the calls that run a statement
are written. -/
def ofCall (finish? : String → Option (Form Value τ)) (call : Call (Operand τ)) :
    Except Error (Step τ) :=
  (ofArguments finish? call).map unlessTooLong

end Step

end Querysmith
