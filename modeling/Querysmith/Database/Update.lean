import Querysmith.Database.Query

/-!
# Pending updates

An update whose data are fixed and whose conditions are still to come. Its calls are calls on
a builder with the data put in.
-/

namespace Querysmith

open Session

/-- A call on a pending update. -/
inductive UpdateCall where
  | whereCompare (column : Operand Terminal) (operator value conjunction : Value)
  | whereRaw (expression bindings : Value)
  | compile
  /-- Runs the update and gives the number of changed rows. -/
  | execute
  /-- Raises an error. -/
  | fail (cause : Error)

namespace UpdateCall

/-- The call on the builder. -/
def step (data : Entries) : UpdateCall → Step Terminal
  | .whereCompare column operator value conjunction =>
    .whereCompare column operator value conjunction
  | .whereRaw expression bindings => .whereRaw expression bindings Condition.and
  | .compile => .read (.compileUpdate (.map data))
  | .execute => .finish (.update (.map data))
  | .fail cause => .fail cause

end UpdateCall

namespace Session

/-- Runs calls on a pending update of a table and gives the reply of the last one. -/
def updateRows (table data : Value) (calls : List UpdateCall) (server : Value)
    (given : Option ContextId) : Act Reply := do
  let data ← ofExcept (Entries.ofValue data)
  (tableOf server table given).runAll (calls.map (UpdateCall.step data))

end Session

end Querysmith
