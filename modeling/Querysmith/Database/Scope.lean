import Querysmith.Connection.Access

/-!
# Where statements run

A statement on a server runs on the context that the caller gives, else on the context that
holds the server's open transaction, else on a new one that is closed when the statement is
done.
-/

namespace Querysmith

open Session

namespace Session

/-- The context of a server's open transaction. -/
def openTransaction? (server : Value) : Act (Option ContextId) := do
  let server ← ofExcept server.asKey
  return (← get).transactions.get? server

/-- The context at hand for statements on a server. -/
def contextFor? (server : Value) : Option ContextId → Act (Option ContextId)
  | some context => return some context
  | none => openTransaction? server

/-- Runs an action with a context for a server. Only a context made for it is closed. -/
def onServer {α : Type} (server : Value) (given : Option ContextId)
    (act : ContextId → Act α) : Act α := do
  match ← contextFor? server given with
  | some context => act context
  | none =>
    let context ← addServerContext server
    try act context finally context.close

end Session

end Querysmith
