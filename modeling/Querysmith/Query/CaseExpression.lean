import Querysmith.Value.Text

/-!
# CASE expressions

Branches and results are written as they are given.
-/

namespace Querysmith

open Text

/-- A CASE expression under construction. -/
structure CaseExpression where
  branches : List String := []
  otherwise : Option String := none

namespace CaseExpression

/-- Adds a branch behind the others. -/
def when (e : CaseExpression) (condition result : Value) : CaseExpression :=
  { e with branches := e.branches ++ ["WHEN " ++ condition.text ++ " THEN " ++ result.text] }

/-- Sets the result of no branch; a later one replaces it. -/
def orElse (e : CaseExpression) (result : Value) : CaseExpression :=
  { e with otherwise := some ("ELSE " ++ result.text) }

/-- The expression, with a name of its own when one is given. -/
def render (e : CaseExpression) (label : Value := .null) : String :=
  let parts := ["CASE"] ++ e.branches ++ e.otherwise.toList ++ ["END"]
  joined " " parts ++ (if label.isTrue then " AS " ++ label.text else "")

end CaseExpression

end Querysmith
