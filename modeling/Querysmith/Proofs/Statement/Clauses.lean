import Querysmith.Builder.Step
import Querysmith.Proofs.Outcome

/-!
# What calls do to the clauses

The calls that build a statement fall into families, one for each clause. But for selections and
raw columns, a call of a family first finds out what to do, from its arguments or from what one of
its blocks builds, and then edits the clause of its family. What is to be shown of all of these
calls is shown of the two parts alone.

## Main definitions

- `Family`: the families of calls, by the clause that they edit
- `Builder.clause`, `Builder.editClause`: the clause of a family
- `Step.Prepares`: how a call finds out what to do
- `Step.EditsLast`: a call does what can fail before it edits the clause

## Key results

- `Step.run_editsLast`: calls edit the clause of their family last, but for those that edit the
  columns first
-/

namespace Querysmith

/-! ## Clauses -/

/-- The families of calls, by the clause that they edit. -/
inductive Family where
  | table
  | distinct
  | columns
  | assignments
  | wheres
  | joins
  | groups
  | havings
  | orders
  | limit
  | offset
  deriving DecidableEq, Repr

/-- What a clause holds. The columns hold their values too. -/
abbrev Family.Content : Family → Type
  | .table => Value
  | .distinct => Bool
  | .columns => List Value × List Value
  | .assignments => Entries
  | .wheres => List Condition
  | .joins => List Join
  | .groups => List Value
  | .havings => List Condition
  | .orders => List String
  | .limit => Option Int
  | .offset => Option Int

namespace Builder

/-- The clause of a family. -/
def clause (b : Builder) : (f : Family) → f.Content
  | .table => b.table
  | .distinct => b.distinct
  | .columns => (b.columns, b.columnBindings)
  | .assignments => b.assignments
  | .wheres => b.wheres
  | .joins => b.joins
  | .groups => b.groups
  | .havings => b.havings
  | .orders => b.orders
  | .limit => b.limit
  | .offset => b.offset

/-- The builder with the clause of a family edited. -/
def editClause (b : Builder) : (f : Family) → (f.Content → f.Content) → Builder
  | .table, k => { b with table := k b.table }
  | .distinct, k => { b with distinct := k b.distinct }
  | .columns, k =>
    { b with
      columns := (k (b.columns, b.columnBindings)).1
      columnBindings := (k (b.columns, b.columnBindings)).2 }
  | .assignments, k => { b with assignments := k b.assignments }
  | .wheres, k => { b with wheres := k b.wheres }
  | .joins, k => { b with joins := k b.joins }
  | .groups, k => { b with groups := k b.groups }
  | .havings, k => { b with havings := k b.havings }
  | .orders, k => { b with orders := k b.orders }
  | .limit, k => { b with limit := k b.limit }
  | .offset, k => { b with offset := k b.offset }

/-- An edited clause is what the edit makes of it. -/
@[simp] theorem clause_editClause_self (b : Builder) (f : Family) (k : f.Content → f.Content) :
    (b.editClause f k).clause f = k (b.clause f) := by
  cases f <;> rfl

/-- An edit of one clause leaves the others alone. -/
theorem clause_editClause_of_ne (b : Builder) {f g : Family} (h : g ≠ f)
    (k : f.Content → f.Content) : (b.editClause f k).clause g = b.clause g := by
  cases f <;> cases g <;> first | exact absurd rfl h | rfl

/-- Two edits of a clause are one edit. -/
theorem editClause_editClause (b : Builder) (f : Family) (k l : f.Content → f.Content) :
    (b.editClause f k).editClause f l = b.editClause f (l ∘ k) := by
  cases f <;> rfl

@[simp] theorem context_editClause (b : Builder) (f : Family) (k : f.Content → f.Content) :
    (b.editClause f k).context = b.context := by
  cases f <;> rfl

end Builder

/-- The family of a call; branches, readings and statements that are run have none. -/
def Step.family? {τ : Type} : Step τ → Option Family
  | .table _ => some .table
  | .select _ => some .columns
  | .selectRaw .. => some .columns
  | .selectSub .. => some .columns
  | .distinct => some .distinct
  | .set .. => some .assignments
  | .whereCompare .. => some .wheres
  | .whereRaw .. => some .wheres
  | .whereColumns .. => some .wheres
  | .whereSub .. => some .wheres
  | .whereIn .. => some .wheres
  | .whereNull .. => some .wheres
  | .whereBetween .. => some .wheres
  | .join .. => some .joins
  | .on .. => some .wheres
  | .groupBy _ => some .groups
  | .havingCompare .. => some .havings
  | .havingRaw .. => some .havings
  | .orderBy .. => some .orders
  | .limit _ => some .limit
  | .offset _ => some .offset
  -- calls that run others, and calls that end the chain
  | .when .. => none
  | .read _ => none
  | .finish _ => none
  | .fail _ => none

/-- The calls that edit the columns before they are done with what can fail. -/
def Step.editsFirst {τ : Type} : Step τ → Bool
  | .select _ => true
  | .selectRaw .. => true
  | _ => false

open Edit

section Run

variable {τ ω α : Type} {f : Family}

/-- Edits a clause in the way that was found out, and replies with the builder. -/
def Edit.thenEdit (f : Family) (prepare : Edit ω (f.Content → f.Content)) : Edit ω Reply := do
  let k ← prepare
  change (·.editClause f k)
  pure .itself

/-- How a call finds out what to do: from its arguments, or from what one of its blocks builds. -/
inductive Step.Prepares (finish : τ → Builder → EStateM Error ω Reply) (step : Step τ) :
    Edit ω α → Prop
  | ofArguments (x : Except Error α) : step.Prepares finish (ofExcept x)
  | ofBlock (block : Operand τ) (read : Builder → Except Error α)
      (hsize : sizeOf block < sizeOf step)
      (hread : ∀ d server context, read { d with server, context } = read d) :
      step.Prepares finish (do ofExcept (read (← aside (block.call finish))))

/-- The call does what can fail before it edits the clause. -/
def Step.EditsLast (finish : τ → Builder → EStateM Error ω Reply) (step : Step τ) (f : Family)
    (m : Edit ω Reply) : Prop :=
  ∃ prepare, step.Prepares finish prepare ∧ m = thenEdit f prepare

variable {finish : τ → Builder → EStateM Error ω Reply} {step : Step τ}

/-- A step that only changes a clause does so last. -/
theorem Step.editsLast_change {g : Builder → Builder} (k : f.Content → f.Content)
    (h : ∀ b, g b = b.editClause f k) :
    step.EditsLast finish f (do change g; pure .itself) := by
  obtain rfl : g = (·.editClause f k) := funext h
  exact ⟨_, .ofArguments (.ok k), rfl⟩

/-- A step that reads an argument and then changes a clause does so last. -/
theorem Step.editsLast_ofExcept {x : Except Error α} {g : α → Builder → Builder}
    (k : α → f.Content → f.Content) (h : ∀ a b, g a b = b.editClause f (k a)) :
    step.EditsLast finish f (do change (g (← ofExcept x)); pure .itself) := by
  obtain rfl : g = fun a b => b.editClause f (k a) := funext fun a => funext (h a)
  refine ⟨_, .ofArguments (x.map k), ?_⟩
  cases x <;> rfl

/-- Nothing asks for the reply of a block. -/
theorem Edit.aside_call_block (steps : List (Step τ)) :
    aside ((Operand.block steps).call finish) = aside (Step.runAll finish steps) := by
  funext s
  rw [Operand.call]
  simp only [aside]
  cases h : Step.runAll finish steps { s with builder := s.builder.scratch } with
  | ok r t => rw [EStateM.bind_of_ok h]; rfl
  | error e t => rw [EStateM.bind_of_error h]

/-- The statement of a block is that of its calls. -/
theorem Edit.substatement_call_block (steps : List (Step τ)) :
    substatement ((Operand.block steps).call finish) = substatement (Step.runAll finish steps) := by
  rw [substatement, substatement, aside_call_block]

/-- A step that has a block run on an empty builder and then changes a clause does so last. -/
theorem Step.editsLast_aside {block : Operand τ} (hsize : sizeOf block < sizeOf step)
    {g : Builder → Builder → Builder} (k : Builder → f.Content → f.Content)
    (hk : ∀ d server context, k { d with server, context } = k d)
    (h : ∀ d b, g d b = b.editClause f (k d)) :
    step.EditsLast finish f (do change (g (← aside (block.call finish))); pure .itself) := by
  obtain rfl : g = fun d b => b.editClause f (k d) := funext fun d => funext (h d)
  refine ⟨_, .ofBlock block (fun d => .ok (k d)) hsize fun d server context =>
    congrArg Except.ok (hk d server context), ?_⟩
  rw [thenEdit, bind_assoc]
  rfl

/-- A step that has a block compiled and then changes a clause does so last. -/
theorem Step.editsLast_substatement {block : Operand τ} (hsize : sizeOf block < sizeOf step)
    {g : Fragment → Builder → Builder} (k : Fragment → f.Content → f.Content)
    (h : ∀ statement b, g statement b = b.editClause f (k statement)) :
    step.EditsLast finish f (do change (g (← substatement (block.call finish))); pure .itself) := by
  obtain rfl : g = fun statement b => b.editClause f (k statement) :=
    funext fun statement => funext (h statement)
  refine ⟨_, .ofBlock block (fun d => d.compile.map k) hsize fun _ _ _ => rfl, ?_⟩
  rw [thenEdit, substatement, bind_assoc, bind_assoc]
  refine bind_congr fun d => ?_
  cases d.compile <;> rfl

/-- What a call does, but for those that edit the columns first: it finds out what to do, and then
edits the clause of its family. -/
theorem Step.run_editsLast (step : Step τ) (h : step.family? = some f)
    (hfirst : step.editsFirst = false) : step.EditsLast finish f (step.run finish) := by
  cases step with
  | table name =>
    cases h
    rw [Step.run]
    exact editsLast_change (fun _ => name) fun _ => rfl
  | select columns => cases hfirst
  | selectRaw expression bindings => cases hfirst
  | selectSub block label =>
    cases h
    rw [Step.run]
    exact editsLast_substatement (by simp; omega) (fun statement c =>
      (c.1 ++ [.str ("(" ++ statement.sql ++ ")" ++ (" AS " ++ label.text))],
        c.2 ++ statement.bindings)) fun _ _ => rfl
  | distinct =>
    cases h
    rw [Step.run]
    exact editsLast_change (fun _ => true) fun _ => rfl
  | set column value =>
    cases h
    rw [Step.run]
    exact editsLast_ofExcept (fun key entries => entries.set key value) fun _ _ => rfl
  | whereCompare column operator value conjunction =>
    -- a block in the place of the column builds a group of conditions
    cases h
    cases column with
    | value column =>
      rw [Step.run]
      exact editsLast_change (· ++ [.compare column operator value conjunction]) fun _ => rfl
    | block steps =>
      rw [Step.run, ← aside_call_block]
      exact editsLast_aside (by simp; omega)
        (fun group conditions => conditions ++ [.group group.wheres conjunction])
        (fun _ _ _ => rfl) fun _ _ => rfl
  | whereRaw expression bindings conjunction =>
    cases h
    rw [Step.run]
    exact editsLast_ofExcept (fun values conditions =>
      conditions ++ [.raw expression values conjunction]) fun _ _ => rfl
  | whereColumns first operator second conjunction =>
    cases h
    rw [Step.run]
    exact editsLast_change (· ++ [.compareColumns first operator second conjunction]) fun _ => rfl
  | whereSub column operator block conjunction =>
    cases h
    rw [Step.run]
    exact editsLast_substatement (by simp; omega) (fun statement conditions => conditions ++
      [.subquery column operator (.str statement.sql) statement.bindings conjunction])
      fun _ _ => rfl
  -- a block in the place of the values is a subquery
  | whereIn column values conjunction negated =>
    cases h
    cases values with
    | value values =>
      rw [Step.run]
      exact editsLast_ofExcept (fun values conditions =>
        conditions ++ [.isIn column values conjunction negated.isTrue]) fun _ _ => rfl
    | block steps =>
      rw [Step.run, ← substatement_call_block]
      exact editsLast_substatement (by simp; omega) (fun statement conditions => conditions ++
        [.subquery column (.str (Condition.membership negated.isTrue)) (.str statement.sql)
          statement.bindings conjunction]) fun _ _ => rfl
  | whereNull column conjunction negated =>
    cases h
    rw [Step.run]
    exact editsLast_change (· ++ [.isNull column conjunction negated.isTrue]) fun _ => rfl
  | whereBetween column low high conjunction =>
    cases h
    rw [Step.run]
    exact editsLast_change (· ++ [.between column low high conjunction]) fun _ => rfl
  -- a block in the place of the column builds the conditions of the join
  | join kind table first operator second =>
    cases h
    cases first with
    | value first =>
      rw [Step.run]
      exact editsLast_change (· ++ [.shorthand kind table first operator second]) fun _ => rfl
    | block steps =>
      rw [Step.run, ← aside_call_block]
      exact editsLast_aside (by simp; omega)
        (fun on joins => joins ++ [.nested kind table on.wheres]) (fun _ _ _ => rfl) fun _ _ => rfl
  | on first operator second conjunction =>
    -- with two arguments the second one is the other column
    cases h
    rw [Step.run]
    refine editsLast_change (· ++ [if second.isNull
      then .compareColumns first (.str "=") operator conjunction
      else .compareColumns first operator second conjunction]) fun b => ?_
    cases hsecond : second.isNull <;> simp [Builder.addOn, hsecond] <;> rfl
  | groupBy columns =>
    cases h
    rw [Step.run]
    exact editsLast_change (· ++ columns) fun _ => rfl
  | havingCompare column operator value conjunction =>
    cases h
    cases column with
    | value column =>
      rw [Step.run]
      exact editsLast_change (· ++ [.compare column operator value conjunction]) fun _ => rfl
    | block steps =>
      rw [Step.run, ← aside_call_block]
      exact editsLast_aside (by simp; omega)
        (fun group conditions => conditions ++ [.group group.havings conjunction])
        (fun _ _ _ => rfl) fun _ _ => rfl
  | havingRaw expression bindings conjunction =>
    cases h
    rw [Step.run]
    exact editsLast_ofExcept (fun values conditions =>
      conditions ++ [.raw expression values conjunction]) fun _ _ => rfl
  | orderBy column direction =>
    cases h
    rw [Step.run]
    exact editsLast_change (· ++ [column.text ++ " " ++ direction.text]) fun _ => rfl
  -- a count may be refused, and then nothing is changed
  | limit count =>
    cases h
    rw [Step.run]
    exact editsLast_ofExcept (fun n _ => some n) fun _ _ => rfl
  | offset count =>
    cases h
    rw [Step.run]
    exact editsLast_ofExcept (fun n _ => some n) fun _ _ => rfl
  -- what is left has no family
  | «when» => cases h
  | read => cases h
  | finish => cases h
  | fail => cases h

end Run

end Querysmith
