import Querysmith.Builder.Step
import Querysmith.Proofs.Statement.Changes

/-!
# Calls with their values in place

A list of calls is balanced when every raw fragment in it, at any depth, has as many placeholders
as values and no other text has one. Such calls can be made with the values already in the places
of their own placeholders: the inlined calls. Whatever the calls build, the inlined calls build
with the values in place, so that no value gets into the place of another one on the way through
the clauses of a builder and of the builders of its subqueries.

## Main definitions

- `Step.IsBalanced`, `Step.AreBalanced`: the calls whose values and placeholders go together
- `Step.inlined`, `Step.inlinedAll`: the calls with their values in place
-/

namespace Querysmith

open Text Fragment

/-! ## Balanced calls -/

/-- As many placeholders in a raw text as items to bind. -/
def Value.IsBalanced (expression bindings : Value) : Prop :=
  ∀ values, bindings.optionalItems = .ok values → marks expression.text = values.length

instance (expression bindings : Value) : Decidable (expression.IsBalanced bindings) :=
  match h : bindings.optionalItems with
  | .ok values =>
    decidable_of_iff (marks expression.text = values.length) (by simp [Value.IsBalanced, h])
  | .error _ => isTrue (by simp [Value.IsBalanced, h])

mutual
/-- Every raw text of a call has as many placeholders as values, and no other text has one. Of a
branch only the block that is taken counts. -/
def Step.IsBalanced {τ : Type} : Step τ → Prop
  | .table name => name.IsUnmarked
  | .select columns => Operand.AreBalanced columns
  | .selectRaw expression bindings => expression.IsBalanced bindings
  | .selectSub block label => block.IsBalanced ∧ label.IsUnmarked
  | .set column _ => column.IsUnmarked
  | .whereCompare (.block steps) _ _ conjunction => Step.AreBalanced steps ∧ conjunction.IsUnmarked
  | .whereCompare (.value column) operator value conjunction =>
    column.IsUnmarked ∧ (Condition.splitOperator operator value).1.IsUnmarked ∧
      conjunction.IsUnmarked
  | .whereRaw expression bindings conjunction =>
    expression.IsBalanced bindings ∧ conjunction.IsUnmarked
  | .whereColumns first operator second conjunction =>
    first.IsUnmarked ∧ operator.IsUnmarked ∧ second.IsUnmarked ∧ conjunction.IsUnmarked
  | .whereSub column operator block conjunction =>
    column.IsUnmarked ∧ operator.IsUnmarked ∧ block.IsBalanced ∧ conjunction.IsUnmarked
  | .whereIn column (.block steps) conjunction _ =>
    column.IsUnmarked ∧ Step.AreBalanced steps ∧ conjunction.IsUnmarked
  | .whereIn column (.value _) conjunction _ => column.IsUnmarked ∧ conjunction.IsUnmarked
  | .whereNull column conjunction _ => column.IsUnmarked ∧ conjunction.IsUnmarked
  | .whereBetween column _ _ conjunction => column.IsUnmarked ∧ conjunction.IsUnmarked
  | .join kind table (.block steps) _ _ =>
    kind.IsUnmarked ∧ table.IsUnmarked ∧ Step.AreBalanced steps
  | .join kind table (.value first) operator second =>
    kind.IsUnmarked ∧ table.IsUnmarked ∧ first.IsUnmarked ∧ operator.IsUnmarked ∧
      second.IsUnmarked
  | .on first operator second conjunction =>
    first.IsUnmarked ∧ operator.IsUnmarked ∧ second.IsUnmarked ∧ conjunction.IsUnmarked
  | .groupBy columns => ∀ column ∈ columns, column.IsUnmarked
  | .havingCompare (.block steps) _ _ conjunction =>
    Step.AreBalanced steps ∧ conjunction.IsUnmarked
  | .havingCompare (.value column) operator value conjunction =>
    column.IsUnmarked ∧ (Condition.splitOperator operator value).1.IsUnmarked ∧
      conjunction.IsUnmarked
  | .havingRaw expression bindings conjunction =>
    expression.IsBalanced bindings ∧ conjunction.IsUnmarked
  | .orderBy column direction => column.IsUnmarked ∧ direction.IsUnmarked
  | .when condition block otherwise =>
    if condition.holds then block.IsBalanced else otherwise.IsBalanced
  | .distinct | .limit _ | .offset _ | .read _ | .finish _ | .fail _ => True

/-- Every call of a block is balanced. A column that is none is a text without placeholders. -/
def Operand.IsBalanced {τ : Type} : Operand τ → Prop
  | .value v => v.IsUnmarked
  | .block steps => Step.AreBalanced steps

/-- All columns are balanced. -/
def Operand.AreBalanced {τ : Type} : List (Operand τ) → Prop
  | [] => True
  | column :: rest => column.IsBalanced ∧ Operand.AreBalanced rest

/-- All calls are balanced. -/
def Step.AreBalanced {τ : Type} : List (Step τ) → Prop
  | [] => True
  | step :: rest => step.IsBalanced ∧ Step.AreBalanced rest
end

/-! ## Inlined calls -/

/-- A raw text with the items of its values in their places. -/
def Value.inlinedRaw (render : Value → String) (expression bindings : Value) : Value :=
  match bindings.optionalItems with
  | .ok values => .str (fill expression.text (values.map render))
  | .error _ => expression

/-- The items of a value, none when it has none. -/
def Value.itemsOrNone (v : Value) : List Value :=
  match v.items with
  | .ok values => values
  | .error _ => []

mutual
/-- The call with its values in the places of their placeholders. A condition that binds values
becomes raw text. What only reads the builder or runs its statement has nothing to put in place
and is left out of the calls, as is a failure. -/
def Step.inlined {τ : Type} (render : Value → String) : Step τ → Step Empty
  | .table name => .table name
  | .select columns => .select (Operand.inlinedAll render columns)
  | .selectRaw expression bindings => .selectRaw (expression.inlinedRaw render bindings) .null
  | .selectSub block label => .selectSub (block.inlined render) label
  | .distinct => .distinct
  | .set column value => .set column value
  | .whereCompare (.block steps) operator value conjunction =>
    .whereCompare (.block (Step.inlinedAll render steps)) operator value conjunction
  | .whereCompare (.value column) operator value conjunction =>
    .whereRaw ((Condition.compare column operator value conjunction).inlinedText render) .null
      conjunction
  | .whereRaw expression bindings conjunction =>
    .whereRaw (expression.inlinedRaw render bindings) .null conjunction
  | .whereColumns first operator second conjunction =>
    .whereColumns first operator second conjunction
  | .whereSub column operator block conjunction =>
    .whereSub column operator (block.inlined render) conjunction
  | .whereIn column (.block steps) conjunction negated =>
    .whereIn column (.block (Step.inlinedAll render steps)) conjunction negated
  | .whereIn column (.value values) conjunction negated =>
    .whereRaw ((Condition.isIn column values.itemsOrNone conjunction negated.isTrue).inlinedText
      render) .null conjunction
  | .whereNull column conjunction negated => .whereNull column conjunction negated
  | .whereBetween column low high conjunction =>
    .whereRaw ((Condition.between column low high conjunction).inlinedText render) .null conjunction
  | .join kind table (.block steps) operator second =>
    .join kind table (.block (Step.inlinedAll render steps)) operator second
  | .join kind table (.value first) operator second =>
    .join kind table (.value first) operator second
  | .on first operator second conjunction => .on first operator second conjunction
  | .groupBy columns => .groupBy columns
  | .havingCompare (.block steps) operator value conjunction =>
    .havingCompare (.block (Step.inlinedAll render steps)) operator value conjunction
  | .havingCompare (.value column) operator value conjunction =>
    .havingRaw ((Condition.compare column operator value conjunction).inlinedText render) .null
      conjunction
  | .havingRaw expression bindings conjunction =>
    .havingRaw (expression.inlinedRaw render bindings) .null conjunction
  | .orderBy column direction => .orderBy column direction
  | .limit count => .limit count
  | .offset count => .offset count
  | .when condition block otherwise =>
    .when condition (block.inlined render) (otherwise.inlined render)
  | .read _ | .finish _ | .fail _ => .read .server

/-- The block with its values in the places of their placeholders. -/
def Operand.inlined {τ : Type} (render : Value → String) : Operand τ → Operand Empty
  | .value v => .value v
  | .block steps => .block (Step.inlinedAll render steps)

/-- The columns with their values in the places of their placeholders. -/
def Operand.inlinedAll {τ : Type} (render : Value → String) :
    List (Operand τ) → List (Operand Empty)
  | [] => []
  | column :: rest => column.inlined render :: Operand.inlinedAll render rest

/-- The calls with their values in the places of their placeholders. -/
def Step.inlinedAll {τ : Type} (render : Value → String) : List (Step τ) → List (Step Empty)
  | [] => []
  | step :: rest => step.inlined render :: Step.inlinedAll render rest
end

end Querysmith
