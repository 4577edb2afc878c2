import Querysmith.Error
import Querysmith.Reply
import Querysmith.Value.Key

/-!
# Connections of the driver

What is known of a connection of the database driver: the statements that it refuses, the
responses that it will give, and the cursors made from it. A cursor holds the response to its
last statement and the rows that were not fetched yet.
-/

namespace Querysmith

/-- A row of a result. -/
abbrev Row := List Value

/-- The response to a statement. -/
structure Response where
  /-- The statement fails with this reason. -/
  error : Option String := none
  /-- The rows of the result; none for a result that cannot be fetched. -/
  rows : Option (List Row) := some []
  /-- The names of the columns; none for a statement without a result. -/
  columns : Option (List String) := none
  rowCount : Value := .int 0
  /-- The identifier of the last row inserted, where the driver tells it. -/
  lastRowId : Value := .null
  /-- The identifier of the query, where the driver tells it. -/
  queryId : Value := .null
  /-- Whether the cursor can give the rows as a frame. -/
  givesFrames : Bool := false

/-- A cursor. -/
structure Cursor where
  /-- The response to the last statement. -/
  response : Response := {}
  /-- The rows that were not fetched yet. -/
  rest : Option (List Row) := some []

/-- A connection that can be opened. -/
structure LinkSpec where
  /-- The connection is refused with this reason. -/
  refusal : Option String := none
  /-- Statements that fail, each with its reason. -/
  failures : List (Value × String) := []
  /-- The responses in order. -/
  script : List Response := []

/-- A connection. -/
structure Link where
  failures : List (Value × String) := []
  script : List Response := []
  cursors : List Cursor := []

namespace Link

/-- The connection that a specification describes. -/
def ofSpec (spec : LinkSpec) : Link :=
  { failures := spec.failures, script := spec.script }

/-- Makes a cursor. -/
def addCursor (l : Link) : Link := { l with cursors := l.cursors ++ [{}] }

/-- The reason why a statement fails at once. -/
def failure? (l : Link) (sql : Value) : Option String :=
  (l.failures.find? fun f => f.1.sameKey sql).map Prod.snd

/-- The next response. -/
def nextResponse (l : Link) : Response := l.script.head?.getD {}

/-- A cursor of the connection. -/
def cursor (l : Link) (index : Nat) : Cursor := (l.cursors[index]?).getD {}

/-- Changes a cursor. -/
def modifyCursor (l : Link) (index : Nat) (f : Cursor → Cursor) : Link :=
  { l with cursors := l.cursors.modify index f }

/-- Gives the next response to a cursor. A statement that fails leaves the rows of the
statement before it. -/
def respond (l : Link) (index : Nat) : Link :=
  let r := l.nextResponse
  let taken := { l with script := l.script.drop 1 }
  -- the rows of the statement before stay when this one fails
  taken.modifyCursor index fun c =>
    { response := r, rest := if r.error.isSome then c.rest else r.rows }

/-- Sends a statement to a cursor: the connection afterwards and the reason of a failure. -/
def send (l : Link) (index : Nat) (sql : Value) : Link × Option String :=
  match l.failure? sql with
  | some reason => (l, some reason)
  | none => (l.respond index, l.nextResponse.error)

end Link

namespace Cursor

/-- The names of the result's columns. -/
def columns (c : Cursor) : List String := c.response.columns.getD []

/-- The number of rows affected or returned, minus one when it is not known. -/
def rowCount (c : Cursor) : Value :=
  if c.response.rowCount.isNull then .int (-1) else c.response.rowCount

/-- The description of a column: its name and six facts that are not known. -/
def describe (name : String) : Value := .tuple (.str name :: List.replicate 6 .null)

/-- The description of the columns, for a statement with a result. -/
def description (c : Cursor) : Value :=
  match c.response.columns with
  | none => .null
  | some names => .list (names.map describe)

/-- The result in a message. -/
def shown (c : Cursor) : String :=
  "QueryResult(query_id=" ++ c.response.queryId.shown ++ ", rowcount=" ++ c.rowCount.text ++ ")"

end Cursor

namespace Frame

/-- The frame without columns and rows. -/
def empty : Frame := ⟨[], []⟩

/-- The frame of rows under column names; the widest row has to fit. Without columns there is
nothing to tell rows apart, so there are none. -/
def ofRows (columns : List String) (rows : List Row) : Except Error Frame :=
  let width := (rows.map List.length).foldl max 0
  if !rows.isEmpty && width ≠ columns.length then .error (.frameWidth columns.length width)
  else if columns.isEmpty then .ok empty
  else
    .ok ⟨columns.map .str, rows.map fun row =>
      row ++ List.replicate (columns.length - row.length) .null⟩

end Frame

end Querysmith
