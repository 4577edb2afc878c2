import Querysmith.Session.Basic

/-!
# The database driver

Opening and closing connections, making cursors, sending statements and fetching rows. Each
is recorded in the trace, also when it fails.
-/

namespace Querysmith

open Session

namespace LinkId

/-- Opens the next connection, unless it is refused. -/
def connect (settings : Settings) : Act LinkId := do
  let s ← get
  let id : LinkId := ⟨s.links.length⟩
  let spec := s.supply.head?.getD {}
  set { s with supply := s.supply.drop 1, links := s.links ++ [Link.ofSpec spec] }
  match spec.refusal with
  | some reason =>
    emit (.refuse id settings)
    throw (.driver reason)
  | none =>
    emit (.connect id settings)
    return id

/-- Makes a cursor. -/
def makeCursor (id : LinkId) : Act CursorId := do
  let l := (← get).link id
  let cursor : CursorId := ⟨id, l.cursors.length⟩
  modify fun s => s.setLink id l.addCursor
  emit (.cursor cursor)
  return cursor

end LinkId

namespace CursorId

/-- Sends a statement to the connection and gives the reason of a failure. -/
def send (id : CursorId) (sql : Value) : Act (Option String) := do
  let (l, failure) := ((← get).link id.link).send id.index sql
  modify fun s => s.setLink id.link l
  return failure

/-- Fails when there is a reason to. -/
def raise (failure : Option String) : Act Unit :=
  match failure with
  | some reason => throw (.driver reason)
  | none => return

/-- Runs a statement, with values when there are any to bind. -/
def execute (id : CursorId) (sql : Value) (bindings : Option (List Value)) : Act Unit := do
  let failure ← id.send sql
  emit (.execute id sql bindings failure)
  raise failure

/-- Runs a statement for every row. -/
def executeMany (id : CursorId) (sql : Value) (rows : List (List Value)) : Act Unit := do
  let failure ← id.send sql
  emit (.executeMany id sql rows failure)
  raise failure

/-- Changes what is left of the rows. -/
def setRest (id : CursorId) (rest : Option (List Row)) : Act Unit :=
  modify fun s =>
    s.setLink id.link ((s.link id.link).modifyCursor id.index fun c => { c with rest })

/-- Takes the next row; null when there is none. -/
def fetchOne (id : CursorId) : Act Value := do
  emit (.fetchOne id)
  match ((← get).cursor id).rest with
  | some (row :: rest) =>
    id.setRest (some rest)
    return .tuple row
  | _ => return .null

/-- Takes all rows that are left. -/
def fetchAll (id : CursorId) : Act (List Row) := do
  emit (.fetchAll id)
  match ((← get).cursor id).rest with
  | some rows =>
    id.setRest (some [])
    return rows
  | none => return []

/-- All rows that are left as a frame. They stay where they are. -/
def fetchFrame (id : CursorId) : Act Frame := do
  emit (.fetchFrame id)
  let c := (← get).cursor id
  match c.rest with
  | some rows => ofExcept (Frame.ofRows c.columns rows)
  | none => throw (.notIterable Value.null.kindName)

end CursorId

namespace OpenLink

/-- Closes the cursor and then the connection. -/
def close (o : OpenLink) : Act Unit := do
  emit (.closeCursor o.cursor)
  emit (.closeLink o.link)

end OpenLink

end Querysmith
