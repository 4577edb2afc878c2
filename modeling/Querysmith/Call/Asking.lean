import Querysmith.Call.Defining
import Querysmith.Call.Building
import Querysmith.Session.Command

/-!
# Calls on a session, as they are written

Terminal calls of a builder, calls on a pending update, and changes of tables, by the names that
callers use for them.
-/

namespace Querysmith

open Signature Form

namespace Terminal

/-- How a terminal call is written. -/
def form? : String → Option (Form Value Terminal)
  | "get" => some (bare .get)
  | "first" => some (bare .first)
  | "count" => some (bare .count)
  | "exists" => some (bare .hasRows)
  | "to_df" => some (plain [optional "lowercase_columns" (.bool true)] fun
      | [l] => some (.toFrame l)
      | _ => none)
  | "insert" => some (plain [required "data"] fun
      | [d] => some (.insert d)
      | _ => none)
  | "create" => some (plain [required "data"] fun
      | [d] => some (.insert d)
      | _ => none)
  | "replace" => some (plain [required "data"] fun
      | [d] => some (.replace d)
      | _ => none)
  | "update" => some (plain [optional "data" .null] fun
      | [d] => some (.update d)
      | _ => none)
  | "delete" => some (bare .delete)
  | _ => none

end Terminal

namespace UpdateCall

/-- The comparison that a written call makes. The operator and the value are passed on to the
builder, which refuses further arguments. -/
def comparisonOfCall (conjunction : Value) (call : Call (Operand Terminal)) :
    Except Error UpdateCall := do
  let own : Signature := {
    operation := "UpdateChain." ++ call.name
    parameters := [required "column", optional "operator" .null]
    takesRest := true }
  let (first, rest) ← own.bind .value call
  let passed : Signature := {
    operation := "QueryBuilder." ++ call.name
    parameters := Step.comparison }
  match ← passed.bind .value { name := call.name, arguments := first ++ rest } with
  | ([c, o, v], _) => pure (.whereCompare c o.asValue v.asValue conjunction)
  | _ => unfit

/-- The call that the arguments of a written call make. -/
def ofArguments (call : Call (Operand Terminal)) : Except Error UpdateCall :=
  let operation := "UpdateChain." ++ call.name
  match call.name with
  | "where" => comparisonOfCall Condition.and call
  | "or_where" => comparisonOfCall Condition.or call
  | "where_raw" =>
    let form : Form (Operand Terminal) UpdateCall := {
      parameters := [required "expression", optional "bindings" .null]
      make := fun
        | [e, b] => .ok (.whereRaw e.asValue b.asValue)
        | _ => unfit }
    form.read operation .value call
  | "compile" => (bare .compile).read operation .value call
  | "execute" => (bare .execute).read operation .value call
  | _ => .error (.noOperation "UpdateChain" call.name)

/-- The call of a caller: what the builder would refuse is refused. -/
def unlessTooLong (u : UpdateCall) : UpdateCall :=
  if Value.anyHoldsLongInteger (u.step []).written then .fail .integerTooLong else u

/-- The call that a written call makes. -/
def ofCall (call : Call (Operand Terminal)) : Except Error UpdateCall :=
  (ofArguments call).map unlessTooLong

end UpdateCall

/-- An argument of a call on the tables of a server. -/
inductive TableArgument where
  | value (v : Value)
  | blueprint (calls : List BlueprintCall)
  /-- The name of a context. -/
  | context (name : Value)

namespace TableArgument

/-- An argument as a value; a blueprint counts as one that cannot be read. -/
def asValue : TableArgument → Except Error Value
  | .value v => .ok v
  | .blueprint _ => .ok .function
  | .context _ => .error (.noOperation "ConnectionContext" "replace")

/-- The calls of a blueprint. Anything else cannot be called. -/
def asBlueprint : TableArgument → List BlueprintCall
  | .blueprint calls => calls
  | .value v => [.fail (.notCallable v.kindName)]
  | .context _ => [.fail (.notCallable "ConnectionContext")]

/-- The server that an argument names. -/
def asServer : TableArgument → Value
  | .value v => v
  | .blueprint _ => .function
  | .context _ => defaultServer

/-- The context that an argument gives. -/
def asContext : TableArgument → Option ContextRef
  | .value .null => none
  | .value v => some (.inPlace v)
  | .blueprint _ => some (.inPlace .function)
  | .context name => some (.named name)

end TableArgument

namespace TableChange

/-- How a change of a table is written. -/
def form? : String → Option (Form Value TableChange)
  | "rename_table" => some (plain [required "source", required "target"] fun
      | [s, t] => some (.rename s t)
      | _ => none)
  | "drop" => some (plain [required "table"] fun
      | [t] => some (.drop t)
      | _ => none)
  | "drop_if_exists" => some (plain [required "table"] fun
      | [t] => some (.dropIfExists t)
      | _ => none)
  | "drop_column" => some (plain [required "table", required "column"] fun
      | [t, c] => some (.dropColumn t c)
      | _ => none)
  | "rename_column" => some (plain
      [required "table", required "source", required "target", required "type"] fun
      | [t, s, u, k] => some (.renameColumn t s u k)
      | _ => none)
  | "add_index" => some (plain
      [required "table", required "column", optional "index_name" .null] fun
      | [t, c, n] => some (.addIndex t c n)
      | _ => none)
  | "drop_index" => some (plain [required "table", required "index_name"] fun
      | [t, n] => some (.dropIndex t n)
      | _ => none)
  | "truncate" => some (plain [required "table"] fun
      | [t] => some (.truncate t)
      | _ => none)
  | _ => none

end TableChange

namespace Command

/-- How a call with a blueprint is written. -/
def blueprintForm (make : Value → List BlueprintCall → TableChange) :
    Form TableArgument (Target → Command) where
  parameters := [required "table", required "callback"]
  make
    | [t, b] => do pure (.changeTable (make (← t.asValue) b.asBlueprint))
    | _ => unfit

/-- How a call on the tables of a server is written, its target aside. -/
def tableForm? (name : String) : Option (Form TableArgument (Target → Command)) :=
  match name with
  | "create" => some (blueprintForm .create)
  | "table" => some (blueprintForm .extend)
  | "has_table" => some {
      parameters := [required "table"]
      make := fun
        | [t] => do pure (.hasTable (← t.asValue))
        | _ => unfit }
  | _ => (TableChange.form? name).map fun form => {
      parameters := form.parameters
      make := fun args => do pure (.changeTable (← form.make (← args.mapM (·.asValue)))) }

/-- The context that the arguments by name give, the name of a context if there is one. -/
def namedContext (call : Call TableArgument) : Option ContextRef :=
  (call.named.find? fun e => e.1 = "context").bind fun e => e.2.asContext

/-- The command that a written call on the tables of a server makes. A context that is not kept
is missed before arguments that do not fit. -/
def ofTableCall (call : Call TableArgument) : Command :=
  match tableForm? call.name with
  | some form =>
    let own := form.parameters.length
    let withTarget : Form TableArgument Command := {
      parameters := form.parameters ++
        [optional "server" defaultServer, optional "context" .null]
      make := fun args => do
        let command ← form.make (args.take own)
        let server := (args[own]?.map (·.asServer)).getD defaultServer
        pure (command { server, context := args[own + 1]?.bind (·.asContext) }) }
    match withTarget.read ("Schema." ++ call.name) .value call false with
    | .ok command => command
    | .error e => .fail e (namedContext call)
  | none => .fail (.noCall "Schema" call.name)

end Command

end Querysmith
