import Querysmith.Text.Quoted

/-!
# String literals inside a text

A text is split at its string literals. A literal starts at a single quote and runs over
characters other than quotes and over doubled quotes up to a single quote that is not
doubled. Where the text ends first, the literal ends with the first quote of the last doubled
one; a quote with no other quote behind it opens no literal.

* `Pieces.toList_ofChars`   putting the pieces together again gives the text
-/

namespace Querysmith.Text

/-- The rest of a literal, behind its opening quote and up to its closing one, and the text
behind it. -/
def closeLiteral? : List Char → Option (List Char × List Char)
  | [] => none
  | c :: rest =>
    if c = stringQuote then
      match rest with
      | [] => some ([], [])
      | d :: rest' =>
        if d = stringQuote then
          match closeLiteral? rest' with
          | some (body, after) => some (stringQuote :: stringQuote :: body, after)
          | none => some ([], stringQuote :: rest')
        else some ([], d :: rest')
    else (closeLiteral? rest).map fun (body, after) => (c :: body, after)

/-- A literal takes its closing quote off the text. -/
theorem closeLiteral?_eq_some {cs body after : List Char}
    (h : closeLiteral? cs = some (body, after)) : cs = body ++ stringQuote :: after := by
  fun_induction closeLiteral? cs generalizing body after with
  | case1 => simp at h
  | case2 => simp_all
  | case3 rest' body' after' h' ih =>
    obtain ⟨rfl, rfl⟩ : stringQuote :: stringQuote :: body' = body ∧ after' = after := by
      simpa using h
    simp [ih h']
  | case4 rest' h' ih => simp_all
  | case5 d rest' hd => simp_all
  | case6 c rest hc ih =>
    obtain ⟨⟨body', after'⟩, h', heq⟩ := Option.map_eq_some_iff.1 h
    simp only [Prod.mk.injEq] at heq
    obtain ⟨rfl, rfl⟩ := heq
    simp [ih h']

theorem length_lt_of_closeLiteral? {cs body after : List Char}
    (h : closeLiteral? cs = some (body, after)) : after.length < cs.length := by
  have := congrArg List.length (closeLiteral?_eq_some h)
  simp at this
  omega

/-- A text split at its literals: the text before the first one, and each literal with the
text behind it. -/
structure Pieces where
  head : List Char
  tail : List (List Char × List Char)
  deriving DecidableEq, Repr

namespace Pieces

/-- Puts a character in front. -/
def push (c : Char) (p : Pieces) : Pieces := ⟨c :: p.head, p.tail⟩

/-- Puts a literal in front. -/
def pushLiteral (literal : List Char) (p : Pieces) : Pieces := ⟨[], (literal, p.head) :: p.tail⟩

/-- The literals in order. -/
def literals (p : Pieces) : List (List Char) := p.tail.map Prod.fst

/-- The texts between the literals. -/
def outside (p : Pieces) : List (List Char) := p.head :: p.tail.map Prod.snd

/-- Changes the texts between the literals. -/
def mapOutside (f : List Char → List Char) (p : Pieces) : Pieces :=
  ⟨f p.head, p.tail.map fun (literal, after) => (literal, f after)⟩

/-- The pieces put together. -/
def toList (p : Pieces) : List Char :=
  p.head ++ p.tail.flatMap fun (literal, after) => literal ++ after

/-- Splits a text at its literals. -/
def ofChars : List Char → Pieces
  | [] => ⟨[], []⟩
  | c :: rest =>
    if c = stringQuote then
      match h : closeLiteral? rest with
      | some (body, after) =>
        have := length_lt_of_closeLiteral? h
        (ofChars after).pushLiteral (stringQuote :: (body ++ [stringQuote]))
      | none => (ofChars rest).push c
    else (ofChars rest).push c
termination_by cs => cs.length

@[simp] theorem toList_push (c : Char) (p : Pieces) : (p.push c).toList = c :: p.toList := rfl

@[simp] theorem toList_pushLiteral (literal : List Char) (p : Pieces) :
    (p.pushLiteral literal).toList = literal ++ p.toList := by
  simp [pushLiteral, toList]

/-- Splitting loses nothing. -/
theorem toList_ofChars (cs : List Char) : (ofChars cs).toList = cs := by
  fun_induction ofChars cs with
  | case1 => rfl
  | case2 rest body after h _ ih => simp_all [closeLiteral?_eq_some h]
  | case3 rest h ih => simp_all
  | case4 c rest hc ih => simp_all

end Pieces

end Querysmith.Text
