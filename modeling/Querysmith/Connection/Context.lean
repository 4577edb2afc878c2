import Querysmith.Connection.Handle
import Querysmith.Error

/-!
# Connection contexts

A context stands for the connection that statements run on. One made for a server opens its
connection when it is first needed, closes it, and opens another one when it is needed again.
One made for a connection of the caller uses that one and never closes it.

What is open is said once here. The objects behind it, which say it in several fields, are in
`Connection.Fields`.
-/

namespace Querysmith

/-- A connection that was opened for a server, with the cursor that was made on it then. -/
structure OpenLink where
  link : LinkId
  cursor : CursorId
  deriving DecidableEq, Repr

/-- Where the connection of a context comes from. -/
inductive ContextSource where
  /-- Opened for a server, whose profile is changed by overrides. -/
  | server (name : Value) (overrides : Entries)
  /-- Given by the caller. -/
  | caller (link : Lent LinkId)

namespace ContextSource

/-- The source that a caller chooses: a server or a connection, and not both. -/
def choose (server : Value) (link : Option (Lent LinkId)) (overrides : Entries) :
    Except Error ContextSource :=
  match server, link with
  | .null, none => .error .noConnectionSource
  | .null, some link => .ok (.caller link)
  | server, none => .ok (.server server overrides)
  | _, some _ => .error .twoConnectionSources

end ContextSource

/-- A connection context. -/
structure Context where
  source : ContextSource
  /-- The connection that the context has opened and not closed. -/
  opened : Option OpenLink := none
  /-- The cursor that statements run on. -/
  cursor : Option (Lent CursorId) := none

namespace Context

/-- A context for a server. -/
def ofServer (name : Value) (overrides : Entries := []) : Context :=
  { source := .server name overrides }

/-- The server that the context was made for, null when it was made for a connection. -/
def server (c : Context) : Value :=
  match c.source with
  | .server name _ => name
  | .caller _ => .null

/-- Whether the context opens and closes its connection itself. -/
def ownsConnection (c : Context) : Bool :=
  match c.source with
  | .server .. => true
  | .caller _ => false

/-- Whether a connection is at hand. -/
def hasConnection (c : Context) : Bool := !c.ownsConnection || c.opened.isSome

/-- The context after its connection was opened. -/
def withOpened (c : Context) (o : OpenLink) : Context :=
  { c with opened := some o, cursor := some (.handle o.cursor) }

/-- The context after its connection was closed. -/
def withoutOpened (c : Context) : Context := { c with opened := none, cursor := none }

/-- The context in a message. -/
def shown (c : Context) : String :=
  if c.hasConnection then "ConnectionContext(connection=<active>)"
  else "ConnectionContext(server='" ++ c.server.text ++ "')"

end Context

end Querysmith
