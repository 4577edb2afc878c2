import Querysmith.Blueprint.Call

/-!
# Numbers that are too long to be written

`BlueprintCall.run` takes the texts of numbers however long they are. No whole number of more
than 4300 digits is ever written, so a caller's own calls go through `BlueprintCall.perform`,
which fails where such a number would be. An option of the table is written with the statement
and not by the call that sets it.
-/

namespace Querysmith

/-- The values whose texts stand in a column type. -/
def ColumnType.written : ColumnType → List Value
  | .string length => [length]
  | .decimal precision scale => [precision, scale]
  | .enum values => values.items.toOption.getD []
  | _ => []

namespace Blueprint

/-- The statement for a mode, unless an option in it is too long to be written. -/
def writtenSql (b : Blueprint) (mode : Value) : Except Error String := do
  let sql ← b.toSql mode
  match mode with
  | .str "create" =>
    if !b.definitions.isEmpty && Value.anyHoldsLongInteger (b.options.map Prod.snd) then
      throw .integerTooLong
    pure sql
  | _ => pure sql

end Blueprint

namespace BlueprintCall

open Blueprint

/-- The values whose texts a call takes. A modifier without a column to edit shows the table
in its warning and does not look at its own argument. -/
def written (b : Blueprint) : BlueprintCall → List Value
  | .addId _ _ length => if length.isTrue then [length] else []
  | .addColumn _ type => type.written
  | .addIndex column name => if name.isTrue then [] else [column]
  | .editTarget m =>
    match b.editable?, m with
    | none, _ => [b.table]
    | some _, .default value => [value]
    | some _, _ => []
  | .shown => [b.table]
  | _ => []

/-- Runs a call of a caller. -/
def perform (call : BlueprintCall) : Edit Reply := do
  let b ← get
  if Value.anyHoldsLongInteger (call.written b) then throw .integerTooLong
  match call with
  | .toSql mode => do
    let sql ← ofExcept (b.writtenSql mode)
    pure (.text sql)
  | call => call.run

/-- Runs calls of a caller in order up to the first that fails. -/
def performAll : List BlueprintCall → Edit Unit
  | [] => pure ()
  | call :: rest => do
    let _ ← call.perform
    performAll rest

end BlueprintCall

end Querysmith
