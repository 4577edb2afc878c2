import Querysmith.Connection.Context
import Querysmith.Value.Items

/-!
# Requests for contexts

What a caller asks a context to be made from: a server or a connection, perhaps a cursor, and
overrides of the server's profile. Overrides are arguments by name; those that bear the name
of another argument are that argument, which must not be given twice.
-/

namespace Querysmith

/-- A request for a context. -/
structure ContextRequest where
  server : Option Value := none
  connection : Option (Lent LinkId) := none
  cursor : Option (Lent CursorId) := none
  overrides : Entries := []

namespace ContextRequest

/-- Refuses the first argument by name that a call has been given already; `kind` tells how. -/
def refuseRepeated (operation kind : String) (given : List String) (named : Entries) :
    Except Error Unit :=
  match named.findSome? fun e => e.1.str?.filter given.contains with
  | some name =>
    .error (.badCall (operation ++ "() got multiple values for " ++ kind ++ " '" ++ name ++ "'"))
  | none => .ok ()

/-- The arguments that are no overrides. -/
def ownArguments : List String := ["server", "connection", "cursor"]

/-- The names of the arguments that the request has. -/
def given (r : ContextRequest) : List String :=
  (r.server.map fun _ => "server").toList ++ (r.connection.map fun _ => "connection").toList ++
    (r.cursor.map fun _ => "cursor").toList

/-- What an override lends in the place of a handle; null lends nothing. -/
def lent? {α : Type} (r : ContextRequest) (name : String) : Option (Lent α) :=
  match r.overrides.get? (.str name) with
  | none => none
  | some .null => none
  | some v => some (.value v)

/-- Whether an override is one of the other arguments. -/
def isOwn (name : Value) : Bool :=
  match name with
  | .str s => ownArguments.contains s
  | _ => false

/-- The context that is asked for. -/
def context (r : ContextRequest) : Except Error Context := do
  refuseRepeated "sqlfluent.context.ConnectionContext" "keyword argument" r.given r.overrides
  refuseRepeated "ConnectionContext.__init__" "argument" ["self"] r.overrides
  let server := (r.server <|> r.overrides.get? (.str "server")).getD .null
  let overrides := r.overrides.filter fun e => !isOwn e.1
  let source ← ContextSource.choose server (r.connection <|> r.lent? "connection") overrides
  pure { source, cursor := r.cursor <|> r.lent? "cursor" }

end ContextRequest

end Querysmith
