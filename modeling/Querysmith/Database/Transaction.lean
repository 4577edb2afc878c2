import Querysmith.Database.Scope

/-!
# Transactions

A server has at most one open transaction. The registry holds its context from a successful
BEGIN until it is committed or rolled back, and all statements on the server that name no
context run on that one. A transaction that is begun over an open one puts an end to it.
-/

namespace Querysmith

open Session

namespace ContextId

/-- Begins or ends a transaction on a context, and keeps account of it. -/
def control (context : ContextId) (word : Control) : Act Unit := do
  let cursor ← context.runText word.text
  modify fun s => { s with controls := (cursor, word) :: s.controls }

/-- Rolls back on a context and closes it, whatever comes of the statement. -/
def giveUp (context : ContextId) : Act Unit := do
  try context.control .rollback finally context.close

end ContextId

namespace Session

/-- Records the open transaction of a server. -/
def openTransaction (s : Session) (server : Value) (context : ContextId) : Session :=
  { s with transactions := s.transactions.insert server context }

/-- Forgets the open transaction of a server. -/
def dropTransaction (s : Session) (server : Value) : Session :=
  { s with transactions := s.transactions.erase server }

/-- Forgets the open transaction of a server and gives its context. -/
def takeTransaction (server : Value) : Act (Option ContextId) := do
  let (context, others) ← ofExcept ((← get).transactions.take server)
  modify fun s => { s with transactions := others }
  return context

/-- The context that a caller gives, or a new one for a server. -/
def givenOrNew (server : Value) : Option ContextId → Act ContextId
  | some context => return context
  | none => addServerContext server

/-- Sends BEGIN. When it fails, a context made for the transaction is closed. -/
def startTransaction (server : Value) (given : Option ContextId) : Act ContextId := do
  let context ← givenOrNew server given
  try
    context.control .begin
  catch e =>
    if given.isNone then context.close
    throw e
  return context

/-- Puts a transaction on record and gives up the one that it takes the place of. -/
def recordTransaction (server : Value) (context : ContextId) : Act Unit := do
  let previous ← openTransaction? server
  -- the new transaction is on record before the old one is given up
  modify (·.openTransaction server context)
  match previous with
  | some other =>
    if other ≠ context then
      note .warning ("Transaction already open on server '" ++ server.text ++ "'; rolling it back")
      other.giveUp
  | none => pure ()

/-- Begins a transaction. -/
def beginTransaction (server : Value) (given : Option ContextId) : Act ContextId := do
  let context ← startTransaction server given
  recordTransaction server context
  note .info ("Began transaction on server '" ++ server.text ++ "'")
  return context

/-- Commits the open transaction of a server. It stays open when COMMIT fails. -/
def commitTransaction (server : Value) : Act Unit := do
  match ← openTransaction? server with
  | none => note .warning ("No open transaction to commit on server '" ++ server.text ++ "'")
  | some context =>
    -- a failure ends the call here, and the transaction stays open
    context.control .commit
    modify (·.dropTransaction server)
    context.close
    note .info ("Committed transaction on server '" ++ server.text ++ "'")

/-- Rolls back the open transaction of a server. It is no longer open even when ROLLBACK
fails. -/
def rollbackTransaction (server : Value) : Act Unit := do
  -- forgotten first: the transaction is not open again when ROLLBACK fails
  match ← takeTransaction server with
  | none => note .warning ("No open transaction to roll back on server '" ++ server.text ++ "'")
  | some context =>
    context.giveUp
    note .info ("Rolled back transaction on server '" ++ server.text ++ "'")

/-- Runs an action inside a transaction of a server. When the action or its COMMIT fails, the
transaction is rolled back and the failure is the cause of the one that is reported. -/
def inTransaction {α : Type} (server : Value) (given : Option ContextId) (act : Act α) :
    Act α := do
  -- a failure to begin is reported as it is
  let _ ← beginTransaction server given
  try
    let result ← act
    commitTransaction server
    pure result
  catch e =>
    note .warning ("Transaction on server '" ++ server.text ++ "' failed: " ++ e.message)
    -- the first failure is the one to report, whatever comes of the rollback
    try rollbackTransaction server
    catch _ => note .error ("Rollback on server '" ++ server.text ++ "' failed")
    throw (.transactionFailed server e)

end Session

end Querysmith
