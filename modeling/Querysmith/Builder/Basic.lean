import Querysmith.Connection.Handle
import Querysmith.Query.Join
import Querysmith.Value.Integer
import Querysmith.Value.Items

/-!
# Builders

A builder collects the clauses of a statement. Each clause keeps its own values; they are
chained when a statement is compiled, in the order in which the clauses are written, so the
order of the calls on different clauses does not matter.
-/

namespace Querysmith

/-- The server of calls that name none. -/
def defaultServer : Value := .str "master"

/-- The clauses of a statement under construction. -/
structure Builder where
  /-- The server on which the builder runs its statements. -/
  server : Value := defaultServer
  /-- The context that its statements run on, when the caller chose one. -/
  context : Option ContextId := none
  table : Value := .str ""
  distinct : Bool := false
  columns : List Value := []
  /-- The values that the columns bind. -/
  columnBindings : List Value := []
  /-- Columns and the values that an UPDATE gives them. -/
  assignments : Entries := []
  wheres : List Condition := []
  joins : List Join := []
  groups : List Value := []
  havings : List Condition := []
  orders : List String := []
  limit : Option Int := none
  offset : Option Int := none

namespace Builder

/-- An empty builder for the same server and context. -/
def scratch (b : Builder) : Builder := { server := b.server, context := b.context }

/-- Sets the table. -/
def withTable (b : Builder) (table : Value) : Builder := { b with table }

/-- Drops the selected columns and their values. -/
def clearColumns (b : Builder) : Builder := { b with columns := [], columnBindings := [] }

/-- Adds a column. -/
def addColumn (b : Builder) (column : Value) : Builder :=
  { b with columns := b.columns ++ [column] }

/-- Adds values that the columns bind. -/
def addColumnBindings (b : Builder) (values : List Value) : Builder :=
  { b with columnBindings := b.columnBindings ++ values }

/-- Adds a column made from a statement; `label` follows it. -/
def addSubselect (b : Builder) (statement : Fragment) (label : String) : Builder :=
  (b.addColumn (.str ("(" ++ statement.sql ++ ")" ++ label))).addColumnBindings statement.bindings

/-- Assigns a value to a column; a later value replaces an earlier one in its place. -/
def assign (b : Builder) (column value : Value) : Builder :=
  { b with assignments := b.assignments.set column value }

/-- Adds a condition to WHERE. -/
def addWhere (b : Builder) (c : Condition) : Builder := { b with wheres := b.wheres ++ [c] }

/-- Adds a condition to HAVING. -/
def addHaving (b : Builder) (c : Condition) : Builder := { b with havings := b.havings ++ [c] }

/-- Adds a join. -/
def addJoin (b : Builder) (j : Join) : Builder := { b with joins := b.joins ++ [j] }

/-- Adds columns to GROUP BY. -/
def addGroups (b : Builder) (columns : List Value) : Builder :=
  { b with groups := b.groups ++ columns }

/-- Adds a column to ORDER BY. -/
def addOrder (b : Builder) (column direction : Value) : Builder :=
  { b with orders := b.orders ++ [column.text ++ " " ++ direction.text] }

/-- Adds a condition on a comparison of two columns, which may be shortened to the columns. -/
def addOn (b : Builder) (first operator second conjunction : Value) : Builder :=
  let (operator, second) :=
    if second.isNull then (Value.str "=", operator) else (operator, second)
  b.addWhere (.compareColumns first operator second conjunction)

/-- The builder in a message. -/
def shown (b : Builder) : String :=
  "QueryBuilder(server=" ++ b.server.shown ++ ", table=" ++ b.table.shown ++ ")"

end Builder

end Querysmith
