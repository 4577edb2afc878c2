import Querysmith.Builder.Basic

/-!
# Compiled statements

Every statement is assembled from the fragments of its clauses, in the order in which SQL
writes them. Compiling changes nothing and can be done any number of times.
-/

namespace Querysmith.Builder

open Text Fragment

/-- The selected columns, all of them when none was named. -/
def columnList (b : Builder) : Except Error String :=
  if b.columns.isEmpty then .ok "*" else Value.joinTexts ", " b.columns

/-- The joins in order. -/
def joinFragments (b : Builder) : Except Error (List Fragment) := b.joins.mapM Join.compile

/-- A keyword and a number, when there is one; the number must not be too long to be written. -/
def counted (keyword : String) : Option Int → Except Error Fragment
  | some n => do pure (ofText (keyword ++ " " ++ (← Number.integerText n)))
  | none => .ok .empty

/-- ORDER BY and LIMIT. -/
def tail (b : Builder) (limit : Option Int) : Except Error (List Fragment) := do
  let limit ← counted "LIMIT" limit
  pure [onlyIf (!b.orders.isEmpty) (ofText ("ORDER BY " ++ commaJoined b.orders)), limit]

/-- The SELECT statement with a limit of the caller's choice. -/
def compileLimited (b : Builder) (limit : Option Int) : Except Error Fragment := do
  let columns ← b.columnList
  let joins ← b.joinFragments
  let wheres ← Condition.clause "WHERE" b.wheres
  let groups ← Value.joinTexts ", " b.groups
  let havings ← Condition.clause "HAVING" b.havings
  let tail ← b.tail limit
  let offset ← counted "OFFSET" b.offset
  pure (assemble (
    [ofText (if b.distinct then "SELECT DISTINCT" else "SELECT"),
     ⟨columns, b.columnBindings⟩,
     onlyIf b.table.isTrue (ofText ("FROM " ++ b.table.text))] ++
    joins ++
    [wheres, onlyIf (!b.groups.isEmpty) (ofText ("GROUP BY " ++ groups)), havings] ++
    tail ++ [offset]))

/-- The SELECT statement. -/
def compile (b : Builder) : Except Error Fragment := b.compileLimited b.limit

/-- The SELECT statement wrapped in a count of its rows. -/
def compileCount (b : Builder) : Except Error Fragment := do
  let inner ← b.compile
  pure ⟨"SELECT COUNT(*) AS aggregate FROM (" ++ inner.sql ++ ") AS aggregate_table",
    inner.bindings⟩

/-- The assignments of the builder with those of `data` on top. -/
def mergedAssignments (b : Builder) (data : Value) : Except Error Entries :=
  if data.isTrue then do
    let updates ← Entries.ofValue data
    pure (b.assignments.update updates)
  else .ok b.assignments

/-- The SET clause. -/
def setClause (assignments : Entries) : Fragment :=
  onlyIf (!assignments.isEmpty)
    ⟨"SET " ++ commaJoined (assignments.map fun e => e.1.text ++ " = ?"),
     assignments.map Prod.snd⟩

/-- The UPDATE statement; `data` adds assignments for this statement only. -/
def compileUpdate (b : Builder) (data : Value := .null) : Except Error Fragment := do
  let assignments ← b.mergedAssignments data
  let joins ← b.joinFragments
  let wheres ← Condition.clause "WHERE" b.wheres
  let tail ← b.tail b.limit
  pure (assemble (
    [ofText ("UPDATE " ++ b.table.text)] ++ joins ++ [setClause assignments, wheres] ++ tail))

/-- The DELETE statement. With joins the table is named as the one to delete from. -/
def compileDelete (b : Builder) : Except Error Fragment := do
  let joins ← b.joinFragments
  let wheres ← Condition.clause "WHERE" b.wheres
  let head := if b.joins.isEmpty then "DELETE FROM " ++ b.table.text
    else "DELETE " ++ b.table.text ++ " FROM " ++ b.table.text
  let tail ← b.tail b.limit
  pure (assemble ([ofText head] ++ joins ++ [wheres] ++ tail))

/-- The keys of a row. -/
def rowKeys : Value → Except Error (List Value)
  | .map entries => .ok (entries.map Prod.fst)
  | v => .error (.noOperation v.kindName "keys")

/-- The columns of an INSERT: the keys of the first row. -/
def insertColumns (rows : Value) : Except Error (List Value) :=
  if !rows.isTrue then .ok []
  else match rows with
    | .list (row :: _) => rowKeys row
    | .tuple (row :: _) => rowKeys row
    | .str _ => rowKeys rows
    | .bytes _ => .error (.noOperation "int" "keys")
    | v => .error (.notIndexable v.kindName)

/-- The values of a row for the columns; a column that the row lacks is null. -/
def rowValues (columns : List Value) (row : Value) : Except Error (List Value) :=
  if columns.isEmpty then .ok []
  else match row with
    | .map entries => .ok (columns.map fun c => (Entries.get? entries c).getD .null)
    | v => .error (.noOperation v.kindName "get")

/-- A single row as a list of rows. -/
def asRows : Value → Value
  | .map entries => .list [.map entries]
  | rows => rows

/-- The INSERT statement for one row or several. The columns are those of the first row, and
every row is read in their order. -/
def compileInsert (b : Builder) (rows : Value) (verb : Value := .str "INSERT") :
    Except Error Fragment := do
  let rows := asRows rows
  let columns ← insertColumns rows
  let items ← rows.items
  let values ← items.mapM (rowValues columns)
  let names ← Value.joinTexts ", " columns
  let groups := items.map fun _ => Condition.placeholders columns.length
  pure (assemble
    [ofText (verb.text ++ " INTO " ++ b.table.text),
     ofText ("(" ++ names ++ ")"),
     ⟨"VALUES " ++ (if groups.isEmpty then "()" else commaJoined groups), values.flatten⟩])

end Querysmith.Builder
