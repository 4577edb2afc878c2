import Querysmith.Builder.Step

/-!
# Numbers that are too long to be written

`Step.run` takes the texts of numbers however long they are. No whole number of more than 4300
digits is ever written: a caller's call whose own texts have such a number in them fails and
changes nothing. Values that are bound can be as long as they like, and the texts that a statement
takes when it is compiled are not checked here.
-/

namespace Querysmith.Step

variable {τ : Type}

/-- The values whose texts a call takes itself. The others are bound, or are taken when a
statement is compiled. -/
def written : Step τ → List Value
  | .whereCompare (.value column) operator value _ =>
    [column, (Condition.splitOperator operator value).1]
  | .havingCompare (.value column) operator value _ =>
    [column, (Condition.splitOperator operator value).1]
  | .whereColumns first operator second _ => [first, operator, second]
  | .on first operator second _ => [first, operator, second]
  | .whereIn column (.value values) _ _ =>
    -- without values a truth value stands in the place of the column
    if (values.items.toOption.getD []).isEmpty then [] else [column]
  | .whereNull column _ _ => [column]
  | .whereBetween column _ _ _ => [column]
  | .orderBy column direction => [column, direction]
  | _ => []

/-- The step of a caller's call. -/
def unlessTooLong (step : Step τ) : Step τ :=
  if Value.anyHoldsLongInteger step.written then .fail .integerTooLong else step

end Querysmith.Step
