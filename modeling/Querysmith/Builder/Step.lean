import Querysmith.Builder.Compile
import Querysmith.Reply

/-!
# Calls on a builder

A call is data, and so is the block of calls that some calls take: a group of conditions, the
ON clause of a join, a subquery, a branch. A block for a part of the statement runs on an
empty builder, from which the call takes what the block built; a branch runs on the builder
itself.

A call that fails keeps what it had already changed. Calls that run a statement are a type of
their own, `τ`, and act on a world `ω` beside the builder; a builder without such calls has
`τ := Empty`.
-/

namespace Querysmith

/-- What is read off a builder without running anything. -/
inductive Reading where
  | compile
  | compileCount
  | compileUpdate (data : Value)
  | compileDelete
  | compileInsert (rows verb : Value)
  | sql
  | bindings
  | server
  | shown

mutual
/-- A call on a builder. -/
inductive Step (τ : Type) where
  | table (name : Value)
  /-- Replaces the selected columns. -/
  | select (columns : List (Operand τ))
  | selectRaw (expression bindings : Value)
  | selectSub (block : Operand τ) (label : Value)
  | distinct
  | set (column value : Value)
  | whereCompare (column : Operand τ) (operator value conjunction : Value)
  | whereRaw (expression bindings conjunction : Value)
  | whereColumns (first operator second conjunction : Value)
  | whereSub (column operator : Value) (block : Operand τ) (conjunction : Value)
  | whereIn (column : Value) (values : Operand τ) (conjunction negated : Value)
  | whereNull (column conjunction negated : Value)
  | whereBetween (column low high conjunction : Value)
  | join (kind table : Value) (first : Operand τ) (operator second : Value)
  | on (first operator second conjunction : Value)
  | groupBy (columns : List Value)
  | havingCompare (column : Operand τ) (operator value conjunction : Value)
  | havingRaw (expression bindings conjunction : Value)
  | orderBy (column direction : Value)
  | limit (count : Value)
  | offset (count : Value)
  /-- Runs `block` unless the condition is null or false, and `otherwise` then. -/
  | when (condition : Value) (block otherwise : Operand τ)
  | read (reading : Reading)
  /-- Runs a statement. -/
  | finish (call : τ)
  /-- Raises an error. -/
  | fail (cause : Error)

/-- An argument that may be a block of calls. -/
inductive Operand (τ : Type) where
  | value (v : Value)
  | block (steps : List (Step τ))
end

instance {τ : Type} : Inhabited (Step τ) := ⟨.distinct⟩

instance {τ : Type} : Inhabited (Operand τ) := ⟨.value .null⟩

/-- A builder beside the world that its statements run in. -/
structure Scene (ω : Type) where
  builder : Builder
  world : ω

/-- Calls on a builder in a world; a failure keeps what was changed before it. -/
abbrev Edit (ω : Type) := EStateM Error (Scene ω)

namespace Edit

variable {ω α : Type}

/-- Changes the builder. -/
def change (f : Builder → Builder) : Edit ω Unit :=
  modify fun s => { s with builder := f s.builder }

/-- Runs a block on an empty builder and gives what it built. -/
def aside (block : Edit ω α) : Edit ω Builder := fun s =>
  match block { s with builder := s.builder.scratch } with
  | .ok _ t => .ok t.builder { s with world := t.world }
  | .error e t => .error e { s with world := t.world }

/-- Runs a block on an empty builder and gives the statement that it built. -/
def substatement (block : Edit ω α) : Edit ω Fragment := do
  ofExcept (← aside block).compile

/-- Lets the world act. -/
def inWorld (act : EStateM Error ω α) : Edit ω α := fun s =>
  match act s.world with
  | .ok a w => .ok a { s with world := w }
  | .error e w => .error e { s with world := w }

end Edit

namespace Reading

/-- What is read off a builder. -/
def ofBuilder (b : Builder) : Reading → Except Error Reply
  | .compile => b.compile.map .statement
  | .compileCount => b.compileCount.map .statement
  | .compileUpdate data => (b.compileUpdate data).map .statement
  | .compileDelete => b.compileDelete.map .statement
  | .compileInsert rows verb => (b.compileInsert rows verb).map .statement
  | .sql => b.compile.map fun f => .text f.sql
  | .bindings => b.compile.map fun f => .value (.list f.bindings)
  | .server => .ok (.value b.server)
  | .shown => .ok (.text b.shown)

end Reading

/-- Whether the condition of a branch holds: it is neither null nor false. -/
def Value.holds : Value → Bool
  | .null => false
  | .bool false => false
  | _ => true

/-- The items of a value, where null and other values that do not count as true have none. -/
def Value.optionalItems (v : Value) : Except Error (List Value) :=
  if v.isTrue then v.items else .ok []

section Run

variable {τ ω : Type} (finish : τ → Builder → EStateM Error ω Reply)

open Edit

mutual
/-- Runs a call. -/
def Step.run : Step τ → Edit ω Reply
  | .table name => do
    change (·.withTable name)
    pure .itself
  | .select columns => do
    -- gone also when a block among the columns fails
    change (·.clearColumns)
    Operand.selectAll columns
    pure .itself
  | .selectRaw expression bindings => do
    -- the column stays also when its values cannot be taken
    change (·.addColumn expression)
    let values ← ofExcept bindings.optionalItems
    change (·.addColumnBindings values)
    pure .itself
  | .selectSub block label => do
    let statement ← substatement block.call
    change (·.addSubselect statement (" AS " ++ label.text))
    pure .itself
  | .distinct => do
    change fun b => { b with distinct := true }
    pure .itself
  | .set column value => do
    let key ← ofExcept column.asKey
    change (·.assign key value)
    pure .itself
  | .whereCompare column operator value conjunction => do
    match column with
    | .block steps =>
      let group ← aside (Step.runAll steps)
      change (·.addWhere (.group group.wheres conjunction))
    | .value column => change (·.addWhere (.compare column operator value conjunction))
    pure .itself
  | .whereRaw expression bindings conjunction => do
    let values ← ofExcept bindings.optionalItems
    change (·.addWhere (.raw expression values conjunction))
    pure .itself
  | .whereColumns first operator second conjunction => do
    change (·.addWhere (.compareColumns first operator second conjunction))
    pure .itself
  | .whereSub column operator block conjunction => do
    let statement ← substatement block.call
    change (·.addWhere
      (.subquery column operator (.str statement.sql) statement.bindings conjunction))
    pure .itself
  | .whereIn column values conjunction negated => do
    match values with
    | .block steps =>
      let statement ← substatement (Step.runAll steps)
      change (·.addWhere (.subquery column (.str (Condition.membership negated.isTrue))
        (.str statement.sql) statement.bindings conjunction))
    | .value values =>
      let values ← ofExcept values.items
      change (·.addWhere (.isIn column values conjunction negated.isTrue))
    pure .itself
  | .whereNull column conjunction negated => do
    change (·.addWhere (.isNull column conjunction negated.isTrue))
    pure .itself
  | .whereBetween column low high conjunction => do
    change (·.addWhere (.between column low high conjunction))
    pure .itself
  | .join kind table first operator second => do
    match first with
    | .block steps =>
      let on ← aside (Step.runAll steps)
      change (·.addJoin (.nested kind table on.wheres))
    | .value first => change (·.addJoin (.shorthand kind table first operator second))
    pure .itself
  | .on first operator second conjunction => do
    change (·.addOn first operator second conjunction)
    pure .itself
  | .groupBy columns => do
    change (·.addGroups columns)
    pure .itself
  | .havingCompare column operator value conjunction => do
    match column with
    | .block steps =>
      let group ← aside (Step.runAll steps)
      change (·.addHaving (.group group.havings conjunction))
    | .value column => change (·.addHaving (.compare column operator value conjunction))
    pure .itself
  | .havingRaw expression bindings conjunction => do
    let values ← ofExcept bindings.optionalItems
    change (·.addHaving (.raw expression values conjunction))
    pure .itself
  | .orderBy column direction => do
    change (·.addOrder column direction)
    pure .itself
  | .limit count => do
    let n ← ofExcept count.toInt
    change fun b => { b with limit := some n }
    pure .itself
  | .offset count => do
    let n ← ofExcept count.toInt
    change fun b => { b with offset := some n }
    pure .itself
  | .when condition block otherwise => do
    if condition.holds then block.call else otherwise.callIfGiven
    pure .itself
  | .read reading => do
    ofExcept (reading.ofBuilder (← get).builder)
  | .finish call => do
    inWorld (finish call (← get).builder)
  | .fail cause => throw cause

/-- Runs a block on the builder at hand. Only blocks can be called. -/
def Operand.call : Operand τ → Edit ω Unit
  | .value v => throw (.notCallable v.kindName)
  | .block steps => do
    let _ ← Step.runAll steps

/-- Runs a block that may be missing. -/
def Operand.callIfGiven : Operand τ → Edit ω Unit
  | .value .null => pure ()
  | .value v => throw (.notCallable v.kindName)
  | .block steps => do
    let _ ← Step.runAll steps

/-- Adds columns; a block is a subquery between parentheses. -/
def Operand.selectAll : List (Operand τ) → Edit ω Unit
  | [] => pure ()
  | column :: rest => do
    match column with
    | .value v => change (·.addColumn v)
    | .block steps =>
      let statement ← substatement (Step.runAll steps)
      change (·.addSubselect statement "")
    Operand.selectAll rest

/-- Runs calls in order up to the first that fails; gives the reply of the last one. -/
def Step.runAll : List (Step τ) → Edit ω Reply
  | [] => pure .nothing
  | [step] => step.run
  | step :: rest => do
    let _ ← step.run
    Step.runAll rest
end

end Run

end Querysmith
