import Querysmith.Call.Signature

/-!
# Questions about contexts and results, as they are written

What can be asked of a context and of a result, by the names that callers use.
-/

namespace Querysmith

open Signature Form

/-- What can be asked of a context. -/
inductive ContextQuestion where
  | shown
  | close
  | server
  | ownsConnection
  | connection
  | cursor
  deriving DecidableEq, Repr

/-- What can be asked of a result. -/
inductive ResultQuestion where
  | queryId
  | rowCount
  | lastRowId
  | description
  | columns
  | shown
  | fetchOne
  | fetchAll
  | toFrame (lowercase : Value)

namespace ContextQuestion

/-- The question of a name. -/
def ofName : String → Except Error ContextQuestion
  | "repr" => .ok .shown
  | "close" => .ok .close
  | "server" => .ok .server
  | "owns" => .ok .ownsConnection
  | "owns_connection" => .ok .ownsConnection
  | "connection" => .ok .connection
  | "cursor" => .ok .cursor
  | name => .error (.noOperation "ConnectionContext" name)

end ContextQuestion

namespace ResultQuestion

/-- The questions that are no calls, so that arguments are not looked at. -/
def property? : String → Option ResultQuestion
  | "query_id" => some .queryId
  | "rowcount" => some .rowCount
  | "last_insert_id" => some .lastRowId
  | "description" => some .description
  | "columns" => some .columns
  | _ => none

/-- How a question that is a call is written. -/
def form? : String → Option (Form Value ResultQuestion)
  | "__repr__" => some (bare .shown)
  | "fetch_one" => some (bare .fetchOne)
  | "fetch_all" => some (bare .fetchAll)
  | "to_df" => some (plain [optional "lowercase_columns" (.bool true)] fun
      | [l] => some (.toFrame l)
      | _ => none)
  | _ => none

/-- The question that a written call makes. -/
def ofCall (call : Call Value) : Except Error ResultQuestion :=
  match property? call.name, form? call.name with
  | some question, _ => .ok question
  | none, some form => form.read ("QueryResult." ++ call.name) id call
  | none, none => .error (.noOperation "QueryResult" call.name)

end ResultQuestion

end Querysmith
