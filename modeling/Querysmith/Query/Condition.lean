import Querysmith.Query.Fragment

/-!
# Conditions

A clause such as WHERE, HAVING or the ON of a join is a sequence of conditions. Each carries
the conjunction that attaches it to the one before it and the values that its own text binds.
A group is a parenthesized sequence of conditions.

A clause is compiled in one walk that writes text and chains values side by side. The first
condition of a sequence that renders loses its conjunction, at every level, and a group that
renders nothing is left out.
-/

namespace Querysmith

open Text

/-- A condition of a clause. -/
inductive Condition where
  /-- A comparison with one bound value. -/
  | predicate (text value conjunction : Value)
  /-- Text as the caller wrote it. -/
  | raw (text : Value) (bindings : List Value) (conjunction : Value)
  /-- A comparison of two columns. -/
  | comparison (text conjunction : Value)
  /-- A parenthesized sequence. -/
  | group (children : List Condition) (conjunction : Value)
  /-- A column compared with a subquery. -/
  | subquery (column operator sql : Value) (bindings : List Value) (conjunction : Value)

/-- A rendered condition: its conjunction, its text and its values. -/
structure Term where
  conjunction : Value
  text : Value
  bindings : List Value

namespace Term

/-- A term behind another one: conjunction and text. -/
def attached (t : Term) : String := t.conjunction.text ++ " " ++ t.text.text

/-- The terms of a sequence as one text. The first one stands without its conjunction and has
to be a text; what follows is written after a conjunction whatever its kind. -/
def body : List Term → Except Error Fragment
  | [] => .ok .empty
  | t :: rest => do
    let first ← t.text.textAt 0
    pure ⟨joined " " (first :: rest.map attached), (t :: rest).flatMap Term.bindings⟩

end Term

namespace Condition

/-- The conjunction that attaches a condition to the one before it. -/
def conjunction : Condition → Value
  | .predicate _ _ c => c
  | .raw _ _ c => c
  | .comparison _ c => c
  | .group _ c => c
  | .subquery _ _ _ _ c => c

/-- A condition's own text; a group has none. -/
def text : Condition → Value
  | .predicate text .. => text
  | .raw text .. => text
  | .comparison text _ => text
  | .group .. => .null
  | .subquery column operator sql _ _ =>
    .str (column.text ++ " " ++ operator.text ++ " (" ++ sql.text ++ ")")

mutual
/-- The values that a condition binds; a group binds those of its children. -/
def bindings : Condition → List Value
  | .predicate _ value _ => [value]
  | .raw _ values _ => values
  | .comparison .. => []
  | .group children _ => allBindings children
  | .subquery _ _ _ values _ => values

/-- The values that a sequence of conditions binds. -/
def allBindings : List Condition → List Value
  | [] => []
  | c :: rest => c.bindings ++ allBindings rest
end

mutual
/-- A condition as it is rendered; a group whose children render nothing is left out. -/
def term? : Condition → Except Error (Option Term)
  | .predicate text value conjunction => .ok (some ⟨conjunction, text, [value]⟩)
  | .raw text values conjunction => .ok (some ⟨conjunction, text, values⟩)
  | .comparison text conjunction => .ok (some ⟨conjunction, text, []⟩)
  | .subquery column operator sql values conjunction =>
    .ok (some ⟨conjunction,
      .str (column.text ++ " " ++ operator.text ++ " (" ++ sql.text ++ ")"), values⟩)
  | .group children conjunction => do
    let inner ← Term.body (← terms children)
    -- the values of a group without text go with it
    if inner.sql = "" then pure none
    else pure (some ⟨conjunction, .str ("(" ++ inner.sql ++ ")"), inner.bindings⟩)

/-- The conditions of a sequence that render. -/
def terms : List Condition → Except Error (List Term)
  | [] => .ok []
  | c :: rest => do
    let t ← c.term?
    let ts ← terms rest
    pure (t.toList ++ ts)
end

/-- A sequence of conditions as one text, without a keyword. -/
def body (conditions : List Condition) : Except Error Fragment := do
  Term.body (← terms conditions)

/-- A clause: the keyword, when there is one, and the conditions. Nothing is written when no
condition renders. -/
def clause (keyword : String) (conditions : List Condition) : Except Error Fragment := do
  let ts ← terms conditions
  let inner ← Term.body ts
  if ts.isEmpty || keyword = "" then pure inner
  else pure ⟨keyword ++ " " ++ inner.sql, inner.bindings⟩

/-- Attaches with AND. -/
def and : Value := .str "AND"

/-- Attaches with OR. -/
def or : Value := .str "OR"

/-- The two-argument shorthand: a comparison without a value compares for equality with what
stands in the operator's place. -/
def splitOperator (operator value : Value) : Value × Value :=
  match value with
  | .omitted => (.str "=", operator)
  | value => (operator, value)

/-- The text of a comparison with a placeholder. -/
def placeholderText (column operator : Value) : Value :=
  .str (column.text ++ " " ++ operator.text ++ " ?")

/-- `column operator ?`, or `column = ?` when there is only one operand. -/
def compare (column operator value conjunction : Value) : Condition :=
  let (operator, value) := splitOperator operator value
  .predicate (placeholderText column operator) value conjunction

/-- Two columns compared with each other. -/
def compareColumns (first operator second conjunction : Value) : Condition :=
  .comparison (.str (first.text ++ " " ++ operator.text ++ " " ++ second.text)) conjunction

/-- A list of placeholders between parentheses. -/
def placeholders (n : Nat) : String := "(" ++ commaJoined (List.replicate n "?") ++ ")"

/-- The name of the membership operator. -/
def membership (negated : Bool) : String := if negated then "NOT IN" else "IN"

/-- Membership in a list of bound values. A list without values is valid in no dialect, so
the truth value that it stands for is written instead. -/
def isIn (column : Value) (values : List Value) (conjunction : Value) (negated : Bool) :
    Condition :=
  if values.isEmpty then .raw (.str (if negated then "1 = 1" else "0 = 1")) [] conjunction
  else
    .raw (.str (column.text ++ " " ++ membership negated ++ " " ++ placeholders values.length))
      values conjunction

/-- A test for NULL. -/
def isNull (column conjunction : Value) (negated : Bool) : Condition :=
  .raw (.str (column.text ++ if negated then " IS NOT NULL" else " IS NULL")) [] conjunction

/-- A test for a range with bound ends. -/
def between (column low high conjunction : Value) : Condition :=
  .raw (.str (column.text ++ " BETWEEN ? AND ?")) [low, high] conjunction

end Condition

end Querysmith
