import Querysmith.Database.Terminal

/-!
# Statements on a server

Statements in the caller's own words, and the short forms for single rows: insert, replace,
and delete by conditions on columns. The entry points of one server keep the server and the
context that their statements run on.
-/

namespace Querysmith

open Session

/-- What is read off the result of a statement. -/
inductive ReturnShape where
  | rows
  | first
  | count
  | frame
  deriving DecidableEq, Repr

namespace ReturnShape

/-- The shape of a name. -/
def ofName : Value → Except Error ReturnShape
  | .str "all" => .ok .rows
  | .str "first" => .ok .first
  | .str "count" => .ok .count
  | .str "dataframe" => .ok .frame
  | v => .error (.unknownShape v)

/-- Reads the result. -/
def read (cursor : CursorId) : ReturnShape → Act Reply
  | .rows => cursor.allRows
  | .first => do return .value (← cursor.fetchOne)
  | .count => cursor.rowCount
  | .frame => do return .frame (← cursor.toFrame)

end ReturnShape

namespace Session

/-- Runs a statement, with the items of `values` bound when they are given. -/
def query (sql : Value) (values : Option Value) (shape : ReturnShape) (server : Value)
    (given : Option ContextId) : Act Reply :=
  onServer server given fun context => do
    let cursor ← context.run sql values
    shape.read cursor

/-- A builder for a table of a server. -/
def tableOf (server table : Value) (given : Option ContextId := none) : Builder :=
  { server, context := given, table }

/-- Inserts a row and gives its identifier. -/
def insertRow (table data server : Value) : Act Reply :=
  (Terminal.insert data).run (tableOf server table)

/-- Inserts a row over one with the same key. -/
def replaceRow (table data server : Value) : Act Reply :=
  (Terminal.replace data).run (tableOf server table)

/-- The condition of a column: equal to a value, or compared by the operator of a pair. -/
def columnCondition : Value × Value → Except Error Condition
  | (column, .tuple [operator, value]) => .ok (.compare column operator value Condition.and)
  | (_, .tuple []) => .error (.tooFewParts 0)
  | (_, .tuple [_]) => .error (.tooFewParts 1)
  | (_, .tuple _) => .error .tooManyParts
  | (column, value) => .ok (.compare column value .omitted Condition.and)

/-- The conditions of columns, given as a map. -/
def columnConditions : Value → Except Error (List Condition)
  | .map entries => entries.mapM columnCondition
  | v => .error (.noOperation v.kindName "items")

/-- Deletes the rows that meet all conditions and gives their number. -/
def deleteRows (table conditions server : Value) : Act Reply := do
  let wheres ← ofExcept (columnConditions conditions)
  Terminal.delete.run { tableOf server table with wheres }

end Session

/-- Entry points that are bound to one server, and to a context if one is given. -/
structure ServerChain where
  server : Value
  context : Option ContextId := none

namespace ServerChain

/-- A builder for a table of the server. -/
def table (chain : ServerChain) (name : Value) : Builder :=
  tableOf chain.server name chain.context

/-- Runs a statement on the server. -/
def query (chain : ServerChain) (sql : Value) (values : Option Value) (shape : ReturnShape) :
    Act Reply :=
  Session.query sql values shape chain.server chain.context

/-- The entry points in messages. -/
def shown (chain : ServerChain) : String := "ServerChain(server=" ++ chain.server.shown ++ ")"

end ServerChain

end Querysmith
