import Querysmith.Blueprint.Writing
import Querysmith.Database.Query

/-!
# Changes of tables

Statements that make, change and drop tables. Names are written as identifiers, so any text
can be a name.
-/

namespace Querysmith

open Session

/-- A change of a table. -/
inductive TableChange where
  /-- Makes the table that a blueprint defines. -/
  | create (table : Value) (calls : List BlueprintCall)
  /-- Adds what a blueprint defines. -/
  | extend (table : Value) (calls : List BlueprintCall)
  | rename (source target : Value)
  | drop (table : Value)
  | dropIfExists (table : Value)
  | dropColumn (table column : Value)
  | renameColumn (table source target type : Value)
  /-- Adds an index, which is named after its column unless a name is given. -/
  | addIndex (table column name : Value)
  | dropIndex (table name : Value)
  /-- Deletes all rows. -/
  | truncate (table : Value)

namespace TableChange

open Blueprint

/-- The statement of a blueprint for a mode. -/
def blueprintSql (table : Value) (calls : List BlueprintCall) (mode : String) :
    Except Error String :=
  match BlueprintCall.performAll calls { table } with
  | .ok _ b => b.writtenSql (.str mode)
  | .error e _ => .error e

/-- The name of an index: one made for the column when none, or an empty one, is given. -/
def indexName (column name : Value) : Except Error Value :=
  if name.isTrue then .ok name
  else do pure (.str ((← column.writtenText) ++ "_index"))

/-- The statement of a change; empty when there is nothing to do. -/
def sql : TableChange → Except Error String
  | .create table calls => blueprintSql table calls "create"
  | .extend table calls => blueprintSql table calls "alter"
  | .rename source target => do
    let source ← quoteName source
    let target ← quoteName target
    pure ("ALTER TABLE " ++ source ++ " RENAME TO " ++ target)
  | .drop table => do
    let table ← quoteName table
    pure ("DROP TABLE " ++ table)
  | .dropIfExists table => do
    let table ← quoteName table
    pure ("DROP TABLE IF EXISTS " ++ table)
  | .dropColumn table column => do
    let table ← quoteName table
    let column ← quoteName column
    pure ("ALTER TABLE " ++ table ++ " DROP COLUMN " ++ column)
  | .renameColumn table source target type => do
    let table ← quoteName table
    let source ← quoteName source
    let target ← quoteName target
    let type ← type.writtenText
    pure ("ALTER TABLE " ++ table ++ " CHANGE " ++ source ++ " " ++ target ++ " " ++ type)
  | .addIndex table column name => do
    let name ← indexName column name
    let table ← quoteName table
    let name ← quoteName name
    let column ← quoteName column
    pure ("ALTER TABLE " ++ table ++ " ADD INDEX " ++ name ++ " (" ++ column ++ ")")
  | .dropIndex table name => do
    let table ← quoteName table
    let name ← quoteName name
    pure ("ALTER TABLE " ++ table ++ " DROP INDEX " ++ name)
  | .truncate table => do
    let table ← quoteName table
    pure ("TRUNCATE TABLE " ++ table)

end TableChange

namespace Session

/-- Runs the statement of a change and gives the number of rows that the driver reports; null
when there is nothing to do. -/
def changeTable (change : TableChange) (server : Value) (given : Option ContextId) :
    Act Reply := do
  let sql ← ofExcept change.sql
  if sql = "" then return .nothing
  query (.str sql) none .count server given

/-- Whether a table is there. -/
def hasTable (table server : Value) (given : Option ContextId) : Act Reply := do
  let name ← ofExcept (Blueprint.quoteText table)
  onServer server given fun context => do
    let cursor ← context.runText ("SHOW TABLES LIKE " ++ name)
    let rows ← cursor.fetchAll
    return .value (.bool (!rows.isEmpty))

end Session

end Querysmith
