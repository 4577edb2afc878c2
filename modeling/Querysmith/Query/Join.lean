import Querysmith.Query.Condition
import Querysmith.Text.Prefix

/-!
# Joins

A join compares two columns, or carries the conditions of its ON clause. An ON clause without
any text joins every row with every row: `1 = 1`.
-/

namespace Querysmith

/-- What a join is made on. -/
inductive JoinOn where
  | columns (first operator second : Value)
  | conditions (entries : List Condition)

/-- One join of a statement. -/
structure Join where
  kind : Value
  table : Value
  on : JoinOn

namespace Join

/-- A join on a comparison of two columns. Without a first column there is nothing to compare,
and the join has no conditions. -/
def fixed (kind table first operator second : Value) : Join :=
  if first.isNull then ⟨kind, table, .conditions []⟩
  else ⟨kind, table, .columns first operator second⟩

/-- A join on conditions. -/
def nested (kind table : Value) (entries : List Condition) : Join :=
  ⟨kind, table, .conditions entries⟩

/-- A join whose comparison may be shortened: two columns alone are compared for equality. -/
def shorthand (kind table first operator second : Value) : Join :=
  let (operator, second) := if second.isNull then (Value.str "=", operator) else (operator, second)
  fixed kind table first (operator.orElse (.str "=")) (second.orElse (.str ""))

/-- Whether the join carries conditions. -/
def isNested (j : Join) : Bool :=
  match j.on with
  | .columns .. => false
  | .conditions _ => true

/-- The text of the join up to its ON clause. -/
def head (j : Join) : String := j.kind.text ++ " JOIN " ++ j.table.text ++ " ON "

/-- What is written behind ON for a clause: the clause without its keyword, or a truth when
nothing else is left. -/
def onText (clause : String) : String :=
  let conditions := Text.withoutPrefix "WHERE " clause
  if conditions = "" then "1 = 1" else conditions

/-- The join as a fragment. Its conditions are compiled as a WHERE clause. -/
def compile (j : Join) : Except Error Fragment :=
  match j.on with
  | .columns first operator second =>
    .ok (.ofText (j.head ++ first.text ++ " " ++ operator.text ++ " " ++ second.text))
  | .conditions entries => do
    let on ← Condition.clause "WHERE" entries
    pure ⟨j.head ++ onText on.sql, on.bindings⟩

/-- The keyword of the clause is taken off again: only the conditions stand behind ON. -/
theorem compile_nested (kind table : Value) (entries : List Condition) :
    (nested kind table entries).compile = (do
      let on ← Condition.body entries
      pure ⟨(nested kind table entries).head ++ (if on.sql = "" then "1 = 1" else on.sql),
        on.bindings⟩) := by
  show (Condition.clause "WHERE" entries >>= fun on => _) = _
  rw [Condition.clause, Condition.body]
  cases Condition.terms entries with
  | error e => rfl
  | ok ts =>
    cases ts with
    | nil => rfl
    | cons t ts =>
      show ((Term.body (t :: ts) >>= fun inner => pure _) >>= fun on => _) =
        (Term.body (t :: ts) >>= fun on => _)
      cases Term.body (t :: ts) with
      | error e => rfl
      | ok inner =>
        -- exactly one prefix is taken off, also from conditions that begin with the same word
        have hbare : Text.withoutPrefix "WHERE " ("WHERE" ++ " " ++ inner.sql) = inner.sql :=
          Text.withoutPrefix_append "WHERE " inner.sql
        show Except.ok _ = Except.ok _
        rw [onText, hbare]

end Join

end Querysmith
