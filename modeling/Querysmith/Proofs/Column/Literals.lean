import Querysmith.Proofs.Column.Pieces

/-!
# Reading string literals back

A string literal that was written with its quotes doubled is read back whole, whatever its text:
every quote inside has its partner next to it, so the first quote without one is the one at the
end. What follows must not start with a quote, which would pass for that partner.

## Key results

- `closeLiteral?_doubled`: a doubled text ends at the quote behind it
- `Pieces.ofChars_literal`: a text is split at the literals that were written into it
-/

namespace Querysmith.Text

/-- A string literal is its text with the quotes doubled, between quotes. -/
theorem toList_quotedString (v : String) :
    (quotedString v).toList = stringQuote :: (doubled stringQuote v.toList ++ [stringQuote]) := by
  simp [quotedString, quoted]

/-- The literal of a doubled text ends at the quote behind it. -/
theorem closeLiteral?_doubled (v : List Char) {rest : List Char}
    (hrest : rest.head? ≠ some stringQuote) :
    closeLiteral? (doubled stringQuote v ++ stringQuote :: rest) =
      some (doubled stringQuote v, rest) := by
  induction v with
  | nil => exact closeLiteral?_of_no_quote List.not_mem_nil hrest
  | cons c v ih =>
    by_cases hc : c = stringQuote
    · subst hc
      simp [doubled, closeLiteral?, ih]
    · rw [doubled, if_neg hc, List.cons_append, closeLiteral?.eq_def]
      simp [hc, ih]

namespace Pieces

/-- A literal in front of a text that does not go on with a quote. -/
theorem ofChars_quotedString (v : String) {rest : List Char}
    (hrest : rest.head? ≠ some stringQuote) :
    ofChars ((quotedString v).toList ++ rest) =
      (ofChars rest).pushLiteral (quotedString v).toList := by
  have hclose := closeLiteral?_doubled v.toList hrest
  rw [toList_quotedString, List.cons_append, List.append_assoc, List.singleton_append, ofChars,
    if_pos rfl]
  split
  · next body after h =>
    obtain ⟨rfl, rfl⟩ := Prod.mk.inj (Option.some.inj (hclose.symm.trans h))
    rfl
  · next h => simp [hclose] at h

/-- A literal behind a text without quotes. -/
theorem ofChars_literal {u : List Char} (hu : stringQuote ∉ u) (v : String) {rest : List Char}
    (hrest : rest.head? ≠ some stringQuote) :
    ofChars (u ++ ((quotedString v).toList ++ rest)) =
      ⟨u, ((quotedString v).toList, (ofChars rest).head) :: (ofChars rest).tail⟩ := by
  rw [ofChars_of_no_quote hu, ofChars_quotedString v hrest]
  simp [pushLiteral]

end Pieces

end Querysmith.Text
