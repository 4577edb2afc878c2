import Querysmith.Error

/-!
# Fragments of statements

A fragment is a piece of SQL text, up to a whole statement, together with the values that its
placeholders bind, in order. A statement is assembled from fragments: their texts are written
one after the other and their values are chained in the same order, so a value stays with its
placeholder wherever its fragment goes. A fragment without text leaves no blank behind.

* `assemble_bindings`   the values of a statement are those of its fragments, in order
* `assemble_cons`   a statement is its first text with the others behind blanks
-/

namespace Querysmith

open Text

/-- SQL text and the values that its placeholders bind. -/
structure Fragment where
  sql : String
  bindings : List Value := []
  deriving Inhabited

namespace Fragment

/-- Nothing. -/
def empty : Fragment := ⟨"", []⟩

/-- Text without placeholders. -/
def ofText (sql : String) : Fragment := ⟨sql, []⟩

/-- The fragment when the condition holds, nothing otherwise. -/
def onlyIf (condition : Bool) (fragment : Fragment) : Fragment :=
  if condition then fragment else empty

/-- The texts of the fragments that have one. -/
def texts (fragments : List Fragment) : List String :=
  (fragments.map Fragment.sql).filter fun s => s ≠ ""

/-- The statement made of fragments in order. -/
def assemble (fragments : List Fragment) : Fragment where
  sql := joined " " (texts fragments)
  bindings := fragments.flatMap Fragment.bindings

@[simp] theorem assemble_bindings (fragments : List Fragment) :
    (assemble fragments).bindings = fragments.flatMap Fragment.bindings := rfl

/-- The texts that are not empty, each behind a blank. -/
def spaced (texts : List String) : String :=
  String.join ((texts.filter fun s => s ≠ "").map fun s => " " ++ s)

theorem spaced_append (xs ys : List String) : spaced (xs ++ ys) = spaced xs ++ spaced ys := by
  simp [spaced, String.join_append]

/-- A statement is its first text, and the other ones behind blanks. -/
theorem assemble_cons {f : Fragment} (h : f.sql ≠ "") (rest : List Fragment) :
    assemble (f :: rest) =
      ⟨f.sql ++ spaced (rest.map Fragment.sql), (f :: rest).flatMap Fragment.bindings⟩ := by
  have htexts : texts (f :: rest) = f.sql :: texts rest := by simp [texts, h]
  rw [assemble, htexts, joined_cons]
  rfl

end Fragment

namespace Value

/-- The text of the value at a position of a row of texts. -/
def textAt (position : Nat) : Value → Except Error String
  | .str s => .ok s
  | v => .error (.notText position v.kindName)

/-- The texts of a row of values that are all texts; `position` counts the first one. -/
def textsFrom (position : Nat) : List Value → Except Error (List String)
  | [] => .ok []
  | v :: rest => do
    let s ← v.textAt position
    let ss ← textsFrom (position + 1) rest
    pure (s :: ss)

/-- Joins values that are all texts. -/
def joinTexts (separator : String) (vs : List Value) : Except Error String :=
  (textsFrom 0 vs).map (joined separator)

end Value

end Querysmith
