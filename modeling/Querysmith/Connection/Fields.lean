import Querysmith.Connection.Access

/-!
# Contexts and connectors, field by field

A `Context` says in one place which connection is open. The objects behind it say so in several:
a connector has a connection and a cursor of its own, and a context that had a connection opened
keeps copies of both, besides the connector and a flag that it is the context's own. Here are both
objects with all their fields, and their methods with the assignments in their order, so that a
method that fails leaves what it has assigned by then.
-/

namespace Querysmith

/-- An object beside the session in which its methods act. -/
structure Held (ο : Type) where
  object : ο
  session : Session

/-- A method of an object; a failure keeps what was changed before it. -/
abbrev Method (ο : Type) := EStateM Error (Held ο)

namespace Method

variable {ο π α : Type}

/-- Lets the session act, apart from the object. -/
def outside (act : Act α) : Method ο α := fun h =>
  match act h.session with
  | .ok a s => .ok a { h with session := s }
  | .error e s => .error e { h with session := s }

/-- Assigns to fields of the object. -/
def assign (f : ο → ο) : Method ο Unit := modify fun h => { h with object := f h.object }

/-- Calls a method of another object. `put` stores what has become of that one. -/
def onPart (part : Held ο → π) (put : ο → π → ο) (method : Method π α) : Method ο α := fun h =>
  match method ⟨part h, h.session⟩ with
  | .ok a t => .ok a ⟨put h.object t.object, t.session⟩
  | .error e t => .error e ⟨put h.object t.object, t.session⟩

end Method

open Method Session

/-! ## Connectors -/

/-- The fields of a connector. -/
structure ConnectorFields where
  /-- What the connector connects with: the settings and the credential. -/
  plan : Connector
  connection : Option LinkId := none
  cursor : Option CursorId := none

namespace ConnectorFields

/-- Opens a connection and makes a cursor on it. -/
def openLink : Method ConnectorFields Unit := do
  let parameters := (← get).object.plan.connectParameters
  if !Connector.areNamed parameters then throw .unnamedParameter
  let link ← outside (LinkId.connect parameters)
  assign fun c => { c with connection := some link }
  let cursor ← outside link.makeCursor
  assign fun c => { c with cursor := some cursor }

/-- Opens a connection unless there is one, and gives the connection and the cursor. -/
def connect : Method ConnectorFields (Option LinkId × Option CursorId) := do
  if (← get).object.connection.isNone then openLink
  let c := (← get).object
  return (c.connection, c.cursor)

/-- Closes the cursor, if there is one. -/
def closeCursor : Method ConnectorFields Unit := do
  match (← get).object.cursor with
  | some cursor =>
    outside (emit (.closeCursor cursor))
    assign fun c => { c with cursor := none }
  | none => return

/-- Closes the cursor and then the connection, as far as they are there. -/
def close : Method ConnectorFields Unit := do
  closeCursor
  match (← get).object.connection with
  | some link =>
    outside (emit (.closeLink link))
    assign fun c => { c with connection := none }
  | none => return

end ConnectorFields

/-! ## Contexts -/

/-- The fields of a context. -/
structure ContextFields where
  /-- The server, null for a context that was made for a connection. -/
  server : Value
  connection : Option (Lent LinkId) := none
  cursor : Option (Lent CursorId) := none
  overrides : Entries := []
  connector : Option ConnectorFields := none
  /-- Set when the connector has connected for the first time, and never reset. -/
  ownsConnector : Bool := false

namespace ContextFields

/-- Makes a context for a server or for a connection, and not for both. -/
def make (server : Value) (connection : Option (Lent LinkId)) (cursor : Option (Lent CursorId))
    (overrides : Entries) : Except Error ContextFields :=
  if server.isNull && connection.isNone then .error .noConnectionSource
  else if !server.isNull && connection.isSome then .error .twoConnectionSources
  else .ok { server, connection, cursor, overrides }

/-- Stores a connector. -/
def withConnector (c : ContextFields) (k : ConnectorFields) : ContextFields :=
  { c with connector := some k }

/-- Makes a connector and connects it. The connector is stored before it connects. -/
def connect : Method ContextFields Unit := do
  let c := (← get).object
  let plan ← outside (Connector.ofServer c.server c.overrides)
  let (link, cursor) ← onPart (fun _ => { plan }) withConnector ConnectorFields.connect
  assign fun c => { c with
    connection := link.map .handle, cursor := cursor.map .handle, ownsConnector := true }

/-- The connection, opened when there is none. -/
def readConnection : Method ContextFields (Lent LinkId) := do
  if (← get).object.connection.isNone then connect
  return (← get).object.connection.getD (.value .null)

/-- Makes a cursor on the connection. -/
def makeCursor : Method ContextFields Unit := do
  let link ← ofExcept ((← readConnection).orRefuse "cursor")
  let cursor ← outside link.makeCursor
  assign fun c => { c with cursor := some (.handle cursor) }

/-- The cursor, made when there is none. -/
def readCursor : Method ContextFields (Lent CursorId) := do
  if (← get).object.cursor.isNone then makeCursor
  return (← get).object.cursor.getD (.value .null)

/-- Closes the connector, if the context has one of its own, and forgets all about it but that
there was one. -/
def close : Method ContextFields Unit := do
  let c := (← get).object
  match c.ownsConnector, c.connector with
  | true, some connector =>
    onPart (fun _ => connector) withConnector ConnectorFields.close
    assign fun c => { c with connector := none, connection := none, cursor := none }
  | _, _ => return

/-- Whether the context opens and closes its connection itself. -/
def ownsConnection (c : ContextFields) : Bool := !c.server.isNull

/-- The context in a message. -/
def shown (c : ContextFields) : String :=
  if c.connection.isSome then "ConnectionContext(connection=<active>)"
  else "ConnectionContext(server='" ++ c.server.text ++ "')"

end ContextFields

/-! ## Uses of contexts -/

/-- What can be asked of the contexts of a session, and the type of the answer. -/
inductive ContextUse : Type → Type where
  | make (server : Value) (connection : Option (Lent LinkId)) (cursor : Option (Lent CursorId))
      (overrides : Entries) : ContextUse ContextId
  | readConnection (id : ContextId) : ContextUse (Lent LinkId)
  | readCursor (id : ContextId) : ContextUse (Lent CursorId)
  | close (id : ContextId) : ContextUse Unit
  | readServer (id : ContextId) : ContextUse Value
  | readOwnership (id : ContextId) : ContextUse Bool
  | readText (id : ContextId) : ContextUse String

namespace ContextUse

variable {α : Type}

/-- Uses the contexts of a session. -/
def run : ContextUse α → Act α
  | .make server connection cursor overrides => do
    let source ← ofExcept (ContextSource.choose server connection overrides)
    addContext { source, cursor }
  | .readConnection id => id.connection
  | .readCursor id => id.cursor
  | .close id => id.close
  | .readServer id => do return ((← get).context id).server
  | .readOwnership id => do return ((← get).context id).ownsConnection
  | .readText id => do return ((← get).context id).shown

/-- The fields of a context among others. One that was never made stands for a connection that
does not exist. -/
def fieldsOf (id : ContextId) (h : Held (List ContextFields)) : ContextFields :=
  h.object[id.index]?.getD
    { server := .null, connection := some (.handle ⟨h.session.links.length⟩) }

/-- Calls a method of a context among others. -/
def onContext (id : ContextId) (method : Method ContextFields α) :
    Method (List ContextFields) α :=
  onPart (fieldsOf id) (fun cs c => cs.set id.index c) method

/-- Uses contexts by their fields. -/
def runOnFields : ContextUse α → Method (List ContextFields) α
  | .make server connection cursor overrides => do
    let c ← ofExcept (ContextFields.make server connection cursor overrides)
    let id : ContextId := ⟨(← get).object.length⟩
    assign fun cs => cs ++ [c]
    return id
  | .readConnection id => onContext id ContextFields.readConnection
  | .readCursor id => onContext id ContextFields.readCursor
  | .close id => onContext id ContextFields.close
  | .readServer id => do return (fieldsOf id (← get)).server
  | .readOwnership id => do return (fieldsOf id (← get)).ownsConnection
  | .readText id => do return (fieldsOf id (← get)).shown

end ContextUse

end Querysmith
