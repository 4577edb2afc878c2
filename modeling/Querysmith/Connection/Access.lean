import Querysmith.Connection.Connector

/-!
# Access to contexts

The connection and the cursor of a context, opened and made when they are first needed, and
the statements that run on it.
-/

namespace Querysmith

open Session

namespace Lent

/-- The handle that a caller lent; a value has no such operation. -/
def orRefuse {α : Type} (operation : String) : Lent α → Except Error α
  | .handle id => .ok id
  | .value v => .error (.noOperation v.kindName operation)

end Lent

namespace ContextId

/-- The connection of a context. A server's connection is opened when there is none, and the
cursor that comes with it becomes the cursor of the context. -/
def connection (id : ContextId) : Act (Lent LinkId) := do
  let c := (← get).context id
  match c.source, c.opened with
  | .caller link, _ => return link
  | .server .., some o => return .handle o.link
  | .server name overrides, none =>
    let connector ← Connector.ofServer name overrides
    let o ← connector.openLink
    modify fun s => s.setContext id (c.withOpened o)
    return .handle o.link

/-- The cursor of a context. One is made on the connection when the context has none. -/
def cursor (id : ContextId) : Act (Lent CursorId) := do
  match ((← get).context id).cursor with
  | some cursor => return cursor
  | none =>
    -- opening the connection makes a cursor too; the one made here takes its place
    let link ← ofExcept ((← id.connection).orRefuse "cursor")
    let cursor ← link.makeCursor
    modify fun s => s.setContext id { s.context id with cursor := some (.handle cursor) }
    return .handle cursor

/-- Closes the connection that the context has opened, if there is one. -/
def close (id : ContextId) : Act Unit := do
  let c := (← get).context id
  match c.opened with
  | some o =>
    o.close
    modify fun s => s.setContext id c.withoutOpened
  | none => return

/-- Runs a statement with the items of a value as bindings, or without any. -/
def run (id : ContextId) (sql : Value) (bindings : Option Value := none) : Act CursorId := do
  let cursor ← id.cursor
  let values ← ofExcept (bindings.mapM Value.items)
  let cursor ← ofExcept (cursor.orRefuse "execute")
  cursor.execute sql values
  return cursor

/-- Runs a statement whose text is known. -/
def runText (id : ContextId) (sql : String) : Act CursorId := id.run (.str sql)

/-- Runs a compiled statement. -/
def runStatement (id : ContextId) (f : Fragment) : Act CursorId :=
  id.run (.str f.sql) (some (.list f.bindings))

/-- The rows that a value holds, which has to have a length. -/
def batchRows (rows : Value) : Except Error (List Value) :=
  match rows.items with
  | .ok items => .ok items
  | .error _ => .error (.notSized rows.kindName)

/-- Runs a statement once for every row; the items of a row are its values. -/
def runMany (id : ContextId) (sql rows : Value) : Act CursorId := do
  let cursor ← id.cursor
  let rows ← ofExcept (batchRows rows)
  let cursor ← ofExcept (cursor.orRefuse "executemany")
  let rows ← ofExcept (rows.mapM Value.items)
  cursor.executeMany sql rows
  return cursor

end ContextId

namespace CursorId

/-- The number of rows that the statement affected or returned. -/
def rowCount (id : CursorId) : Act Reply := do
  return .value ((← get).cursor id).rowCount

/-- The identifier of the last row inserted, null when the driver does not tell it. -/
def lastRowId (id : CursorId) : Act Reply := do
  return .value ((← get).cursor id).response.lastRowId

/-- The rows that are left of a result. -/
def allRows (id : CursorId) : Act Reply := do
  let rows ← id.fetchAll
  return .value (.list (rows.map .tuple))

/-- The result as a frame, with the names of its columns in lower case if that is asked for.
A statement without a result gives an empty frame. -/
def toFrame (id : CursorId) (lowercase : Bool := true) : Act Frame := do
  let c := (← get).cursor id
  let frame ←
    if c.response.givesFrames then id.fetchFrame
    else if c.columns.isEmpty then pure Frame.empty
    else do
      let rows ← id.fetchAll
      ofExcept (Frame.ofRows c.columns rows)
  if lowercase then
    return { frame with columns := frame.columns.map fun v => match v with
      | .str s => .str (Text.lowerCase s)
      | v => v }
  else return frame

end CursorId

end Querysmith
