import Querysmith.Text.Blank
import Querysmith.Text.Literal
import Querysmith.Text.Prefix
import Querysmith.Text.Word

/-!
# Nullability clauses of a definition

The definition of a column says with the words NULL, NOT NULL and DEFAULT NULL whether the
column can be null. The words count only outside string literals and only as whole words;
each text between two literals is read by itself.
-/

namespace Querysmith.Nullability

open Text

/-- What follows words that come first and end there. -/
def afterWords? (words cs : List Char) : Option (List Char) :=
  match dropPrefix? words cs with
  | some rest => if atBoundary rest then some rest else none
  | none => none

/-- The words that tell whether a column can be null. -/
def clauses : List (List Char) := ["DEFAULT NULL".toList, "NOT NULL".toList, "NULL".toList]

/-- What follows a nullability clause that comes first. -/
def afterClause? (cs : List Char) : Option (List Char) :=
  clauses.findSome? fun words => afterWords? words cs

theorem length_lt_of_afterClause? {cs rest : List Char} (h : afterClause? cs = some rest) :
    rest.length < cs.length := by
  obtain ⟨words, hmem, hw⟩ := List.exists_of_findSome?_eq_some h
  have hlen : 0 < words.length := by
    simp only [clauses, List.mem_cons, List.not_mem_nil, or_false] at hmem
    rcases hmem with rfl | rfl | rfl <;> decide
  unfold afterWords? at hw
  split at hw
  · next r hr =>
    split at hw
    · obtain rfl := Option.some.inj hw
      rw [dropPrefix?_eq_some.1 hr, List.length_append]
      omega
    · simp at hw
  · simp at hw

/-- Takes the nullability clauses out of a text; `inWord` tells that a word character comes
before it. -/
def removeClauses (inWord : Bool) : List Char → List Char
  | [] => []
  | c :: rest =>
    -- a clause starts at the start of a word only
    if inWord then c :: removeClauses (isWordChar c) rest
    else match h : afterClause? (c :: rest) with
      | some after =>
        have := length_lt_of_afterClause? h
        removeClauses true after
      | none => c :: removeClauses (isWordChar c) rest
termination_by cs => cs.length
decreasing_by
  all_goals
    simp only [List.length_cons] at *
    omega

/-- Whether the word NULL stands in a text. -/
def hasNull (inWord : Bool) : List Char → Bool
  | [] => false
  | c :: rest =>
    (!inWord && (afterWords? "NULL".toList (c :: rest)).isSome) || hasNull (isWordChar c) rest

/-- Whether a definition has the word NULL outside its literals. -/
def mentionsNull (definition : String) : Bool :=
  (Pieces.ofChars definition.toList).outside.any (hasNull false)

/-- A definition without its nullability clauses: literals stay as they are, and around them
runs of blanks left behind become one space. -/
def strip (definition : String) : String :=
  let kept := (Pieces.ofChars definition.toList).mapOutside fun cs =>
    collapseBlanks (removeClauses false cs)
  String.ofList (trimBlanks kept.toList)

end Querysmith.Nullability
