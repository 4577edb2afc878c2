import Querysmith.Proofs.Column.Literals

/-!
# Texts between literals

A text made of string literals with other texts between them is split at exactly these literals,
whatever stands in them, unless two of them touch. The quotes that meet there pass for a doubled
one, and the two are read as a single literal; no text is ever split at literals that touch.

## Main definitions

- `interleaved`: texts quoted as literals, with separators around them

## Key results

- `closeLiteral?_eq_none_iff`, `closeLiteral?_after`: where a literal ends
- `Pieces.inner_ne_nil`: the literals of a text do not touch
- `Pieces.ofChars_interleaved_iff`: literals are found as they were written, unless they touch
-/

namespace Querysmith.Text

/-- Every quote ends a literal. -/
theorem closeLiteral?_eq_none_iff {cs : List Char} :
    closeLiteral? cs = none ↔ stringQuote ∉ cs := by
  fun_induction closeLiteral? cs with
  | case1 => simp
  | case2 => simp
  | case3 rest' body after h ih => simp
  | case4 rest' h ih => simp
  | case5 d rest' hd => simp
  | case6 c rest hc ih => simp [ih, Ne.symm hc]

/-- Behind a literal comes no quote, or one that opens no literal. -/
theorem closeLiteral?_after {cs body after : List Char}
    (h : closeLiteral? cs = some (body, after)) :
    after.head? ≠ some stringQuote ∨ ∃ rest, after = stringQuote :: rest ∧ stringQuote ∉ rest := by
  fun_induction closeLiteral? cs generalizing body after with
  | case1 => cases h
  | case2 =>
    cases h
    exact .inl (by simp)
  | case3 rest' body' after' h' ih =>
    cases h
    exact ih h'
  | case4 rest' h' ih =>
    -- a literal ends at the first of two quotes when nothing else can close it
    cases h
    exact .inr ⟨rest', rfl, closeLiteral?_eq_none_iff.mp h'⟩
  | case5 d rest' hd =>
    cases h
    exact .inl (by simpa using hd)
  | case6 c rest hc ih =>
    obtain ⟨⟨body', after'⟩, h', heq⟩ := Option.map_eq_some_iff.mp h
    cases heq
    exact ih h'

namespace Pieces

/-- A text without quotes is one piece. -/
theorem ofChars_eq_self {cs : List Char} (h : stringQuote ∉ cs) : ofChars cs = ⟨cs, []⟩ := by
  simpa [ofChars] using ofChars_of_no_quote h []

/-- A text with a single quote, in front, is one piece. -/
theorem ofChars_quote {rest : List Char} (h : stringQuote ∉ rest) :
    ofChars (stringQuote :: rest) = ⟨stringQuote :: rest, []⟩ := by
  rw [ofChars, if_pos rfl]
  split
  · next body after hclose =>
    rw [closeLiteral?_eq_none_iff.mpr h] at hclose
    cases hclose
  · rw [ofChars_eq_self h]
    rfl

/-- The next literal does not touch the one before. -/
theorem head_ne_nil_of_closeLiteral? {cs body after : List Char}
    (h : closeLiteral? cs = some (body, after)) (hnext : (ofChars after).tail ≠ []) :
    (ofChars after).head ≠ [] := by
  rcases closeLiteral?_after h with hhead | ⟨rest, rfl, hrest⟩
  · cases after with
    | nil => simp [ofChars] at hnext
    | cons d rest =>
      have hd : ¬ d = stringQuote := by simpa using hhead
      simp [ofChars, hd, push]
  · rw [ofChars_quote hrest] at hnext
    exact absurd rfl hnext

/-- The literals of a text do not touch. -/
theorem inner_ne_nil (cs : List Char) :
    ∀ s ∈ ((ofChars cs).tail.map Prod.snd).dropLast, s ≠ [] := by
  fun_induction ofChars cs with
  | case1 => simp
  | case2 rest body after h _ ih =>
    intro s hs
    -- of the pieces behind literals the last one is left out
    cases htail : (ofChars after).tail with
    | nil => simp [pushLiteral, htail] at hs
    | cons piece others =>
      -- a literal that closed directly before another would have been one with it
      have hne := head_ne_nil_of_closeLiteral? h (by simp [htail])
      rw [htail] at ih
      simp only [pushLiteral, htail, List.map_cons, List.dropLast_cons_cons, List.mem_cons] at hs
      rcases hs with rfl | hs
      · exact hne
      · exact ih s hs
  | case3 rest h ih => exact ih
  | case4 c rest hc ih => exact ih

end Pieces

/-- A text with literals in it: what stands in front of the first one, and texts that are quoted,
each with what stands behind it. -/
def interleaved (first : String) (parts : List (String × String)) : String :=
  first ++ String.join (parts.map fun part => quotedString part.1 ++ part.2)

/-- Values and separators are written one after the other. -/
theorem toList_interleaved_cons (first : String) (part : String × String)
    (rest : List (String × String)) :
    (interleaved first (part :: rest)).toList =
      first.toList ++ ((quotedString part.1).toList ++ (interleaved part.2 rest).toList) := by
  simp [interleaved]

namespace Pieces

/-- Literals that do not touch are found. -/
theorem ofChars_interleaved {first : String} {parts : List (String × String)}
    (hquote : ∀ s ∈ first :: parts.map Prod.snd, stringQuote ∉ s.toList)
    (hinner : ∀ s ∈ (parts.map Prod.snd).dropLast, s ≠ "") :
    ofChars (interleaved first parts).toList =
      ⟨first.toList, parts.map fun part => ((quotedString part.1).toList, part.2.toList)⟩ := by
  -- the first separator is generalized, since the next one takes its place
  induction parts generalizing first with
  | nil => simpa [interleaved] using ofChars_eq_self (hquote first (by simp))
  | cons part rest ih =>
    have hrest := ih (fun s hs => hquote s (List.mem_cons_of_mem _ hs)) fun s hs => by
      cases rest with
      | nil => cases hs
      | cons => exact hinner s (List.mem_cons_of_mem _ hs)
    -- the separator is no quote, and it is there unless the text ends with it
    have hhead : (interleaved part.2 rest).toList.head? ≠ some stringQuote := by
      have hsep := hquote part.2 (by simp)
      cases hchars : part.2.toList with
      | nil =>
        cases rest with
        | nil => simp [interleaved, hchars]
        | cons => exact absurd (String.toList_eq_nil_iff.mp hchars) (hinner part.2 (by simp))
      | cons c cs =>
        have hc : ¬ c = stringQuote := fun h => hsep (by simp [hchars, h])
        simp [interleaved, hchars, hc]
    rw [toList_interleaved_cons, ofChars_literal (hquote first (by simp)) part.1 hhead, hrest]
    rfl

/-- Whatever is written in them, literals among texts without quotes are found as they were
written, with exactly these texts between them, if and only if no two of them touch. -/
theorem ofChars_interleaved_iff {first : String} {parts : List (String × String)}
    (hquote : ∀ s ∈ first :: parts.map Prod.snd, stringQuote ∉ s.toList) :
    ((ofChars (interleaved first parts).toList).literals =
        parts.map (fun part => (quotedString part.1).toList) ∧
      (ofChars (interleaved first parts).toList).outside =
        (first :: parts.map Prod.snd).map String.toList) ↔
      ∀ s ∈ (parts.map Prod.snd).dropLast, s ≠ "" := by
  constructor
  -- the scanner finds no empty piece between two literals
  · rintro ⟨-, houtside⟩ s hs rfl
    have htail : (ofChars (interleaved first parts).toList).tail.map Prod.snd =
        (parts.map Prod.snd).map String.toList := (List.cons.inj houtside).2
    refine inner_ne_nil (interleaved first parts).toList [] ?_ rfl
    rw [htail, ← List.map_dropLast]
    exact List.mem_map.mpr ⟨"", hs, rfl⟩
  -- without empty separators every literal is found where it was written
  · intro hinner
    rw [ofChars_interleaved hquote hinner]
    simp [literals, outside]

/-- A text that is nothing but quotes, an empty one, and one with a word of SQL in it. -/
theorem ofChars_interleaved_iff_quotes :
    (∀ s ∈ "DEFAULT " :: [("'''", " COMMENT "), ("", ", "), ("it's NULL'", "")].map Prod.snd,
      stringQuote ∉ s.toList) ∧
    (ofChars (interleaved "DEFAULT "
        [("'''", " COMMENT "), ("", ", "), ("it's NULL'", "")]).toList).literals =
      ["''''''''", "''", "'it''s NULL'''"].map String.toList ∧
    (ofChars (interleaved "DEFAULT "
        [("'''", " COMMENT "), ("", ", "), ("it's NULL'", "")]).toList).outside =
      ["DEFAULT ", " COMMENT ", ", ", ""].map String.toList := by
  have hquote : ∀ s ∈ "DEFAULT " ::
      [("'''", " COMMENT "), ("", ", "), ("it's NULL'", "")].map Prod.snd,
      stringQuote ∉ s.toList := by decide +kernel
  obtain ⟨hliterals, houtside⟩ := (ofChars_interleaved_iff hquote).mpr (by decide +kernel)
  refine ⟨hquote, ?_, ?_⟩
  · rw [hliterals]
    decide +kernel
  · rw [houtside]
    rfl

/-- Two literals that touch are one. -/
example : (ofChars (interleaved "" [("a", ""), ("b", "")]).toList).literals =
    ["'a''b'".toList] := by decide +kernel

end Pieces

end Querysmith.Text
