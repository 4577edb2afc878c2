import Querysmith.Query.Fragment
import Querysmith.Value.Items

/-!
# Drafts

Hand-written SQL is drafted part by part, each together with the values of its placeholders.
What a call has added before it fails stays in the draft.
-/

namespace Querysmith

/-- A statement under construction. -/
structure Draft where
  parts : List Value := []
  bindings : List Value := []

namespace Draft

/-- A draft that starts with a text, if it is not empty. -/
def start (base : Value) : Draft := { parts := if base.isTrue then [base] else [] }

/-- Adds a part, if it is not empty. -/
def addPart (d : Draft) (part : Value) : Draft :=
  if part.isTrue then { d with parts := d.parts ++ [part] } else d

/-- Adds a part and the values it binds: the items of `values`. The part stays also when
`values` has no items to add. -/
def append (part values : Value) : EStateM Error Draft Unit := do
  modify (·.addPart part)
  match values.items with
  | .ok vs => modify fun d => { d with bindings := d.bindings ++ vs }
  | .error e => throw e

/-- Adds a part and the values it binds if the condition counts as true. -/
def when (condition part : Value) (values : List Value) : EStateM Error Draft Unit :=
  if condition.isTrue then append part (.tuple values) else pure ()

/-- The text of the draft, which has to be made of texts. -/
def sql (d : Draft) : Except Error String := Value.joinTexts " " d.parts

/-- The draft as a statement. -/
def statement (d : Draft) : Except Error Fragment := do
  pure ⟨← d.sql, d.bindings⟩

end Draft

end Querysmith
