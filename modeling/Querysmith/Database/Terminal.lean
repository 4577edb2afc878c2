import Querysmith.Builder.Step
import Querysmith.Database.Scope

/-!
# Calls that run a builder's statement

A terminal call compiles a statement of the builder, runs it on the builder's server, and
reads the result. The statement is compiled before a connection is touched, so one that
cannot be compiled leaves no event.
-/

namespace Querysmith

open Session

/-- A call that runs a statement of a builder. -/
inductive Terminal where
  /-- All rows. -/
  | get
  /-- The first row, or null. -/
  | first
  /-- The number of rows. -/
  | count
  /-- Whether there are rows. -/
  | hasRows
  /-- All rows as a frame. -/
  | toFrame (lowercase : Value)
  /-- Inserts rows and gives the identifier of the last one. -/
  | insert (rows : Value)
  /-- Inserts rows over those with the same key. -/
  | replace (rows : Value)
  /-- Changes rows and gives their number. -/
  | update (data : Value)
  /-- Deletes rows and gives their number. -/
  | delete

namespace Terminal

/-- The statement of a call. -/
def statement (b : Builder) : Terminal → Except Error Fragment
  | .get => b.compile
  | .first => b.compileLimited (some 1)
  | .count => b.compileCount
  | .hasRows => b.compileCount
  | .toFrame _ => b.compile
  | .insert rows => b.compileInsert rows
  | .replace rows => b.compileInsert rows (.str "REPLACE")
  | .update data => b.compileUpdate data
  | .delete => b.compileDelete

/-- What a call reads off the result. -/
def read (cursor : CursorId) : Terminal → Act Reply
  | .get => cursor.allRows
  | .first => do return .value (← cursor.fetchOne)
  | .count => do return .value (← cursor.fetchOne)
  | .hasRows => do return .value (← cursor.fetchOne)
  | .toFrame lowercase => do return .frame (← cursor.toFrame lowercase.isTrue)
  | .insert _ => cursor.lastRowId
  | .replace _ => cursor.lastRowId
  | .update _ => cursor.rowCount
  | .delete => cursor.rowCount

/-- The number that a row of one count holds; zero without a row. -/
def countOf : Reply → Except Error Int
  | .value (.tuple (n :: _)) => n.toInt
  | _ => .ok 0

/-- The reply made from what was read, after the connection was left. -/
def conclude (read : Reply) : Terminal → Except Error Reply
  | .count => do pure (.value (.int (← countOf read)))
  | .hasRows => do pure (.value (.bool (0 < (← countOf read))))
  | _ => .ok read

/-- Runs a call. -/
def run (t : Terminal) (b : Builder) : Act Reply := do
  let read ← onServer b.server b.context fun context => do
    -- compiled first: the context opens nothing for a statement that cannot be built
    let statement ← ofExcept (t.statement b)
    let cursor ← context.runStatement statement
    t.read cursor
  ofExcept (t.conclude read)

end Terminal

namespace Builder

/-- Runs calls on a builder in order and gives the reply of the last one. -/
def runAll (b : Builder) (steps : List (Step Terminal)) : Act Reply := fun s =>
  match Step.runAll Terminal.run steps ⟨b, s⟩ with
  | .ok r t => .ok r t.world
  | .error e t => .error e t.world

end Builder

end Querysmith
