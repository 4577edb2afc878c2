import Querysmith.Proofs.Column.Words

/-!
# A definition without its clauses

A definition is a row of texts: some are left alone by stripping, and some are clauses that it
takes out. Each text starts with a space, or is the first one, so that what stripping does to the
row is put together from what it does to each of them.

## Main definitions

- `Sheds`: the second text is the first one without its nullability clauses
- `IsUntouched`: a text that stripping leaves alone, with the literals in it

## Key results

- `IsSolid.isUntouched`, `IsUntouched.literal`: the texts that are left alone
- `IsUntouched.append`: and their rows
- `kept_clause`, `Sheds.clause`: what becomes of a clause
-/

namespace Querysmith.Nullability

open Text

/-! ## Texts that are left alone -/

/-- The second text has the literals of the first and, between them, its words without the
nullability clauses; none of these texts has the word NULL. -/
structure Sheds (before after : List Char) : Prop where
  literals_eq : (Pieces.ofChars after).literals = (Pieces.ofChars before).literals
  words_eq : (Pieces.ofChars after).outside.map words =
    (Pieces.ofChars before).outside.map fun cs => withoutClauses (words cs)
  no_null : (Pieces.ofChars after).outside.any (hasNull false) = false

/-- There is nothing to shed in an empty text. -/
theorem sheds_nil : Sheds [] [] where
  literals_eq := rfl
  words_eq := by simp [Pieces.ofChars, Pieces.outside, withoutClauses]
  no_null := by simp [Pieces.ofChars, Pieces.outside, hasNull]

/-- A text that stripping leaves alone, in front of anything that starts with a space. -/
structure IsUntouched (cs : List Char) : Prop where
  kept_append : ∀ {rest}, Breaks rest → kept (cs ++ rest) = cs ++ kept rest
  ofChars_append : ∀ {rest}, Breaks rest →
    Pieces.ofChars (cs ++ rest) = (Pieces.ofChars cs).append (Pieces.ofChars rest)
  sheds_append : ∀ {before after}, Breaks before → Breaks after → Sheds before after →
    Sheds (cs ++ before) (cs ++ after)

theorem isUntouched_nil : IsUntouched [] where
  kept_append _ := rfl
  ofChars_append _ := by simp [Pieces.ofChars]
  sheds_append _ _ h := h

/-- Whether the word stands in front of a space does not depend on what is behind it. -/
theorem Breaks.isSome_afterWords?_append {rest : List Char} (h : Breaks rest) {ws : List Char}
    (hws : ' ' ∉ ws) (cs : List Char) :
    (afterWords? ws (cs ++ rest)).isSome = (afterWords? ws cs).isSome := by
  have hboundary := h.atBoundary_append
  cases rest with
  | nil => rw [List.append_nil]
  | cons c rest =>
    obtain rfl : c = ' ' := h
    -- the words are not cut by the space, and end at it as at the end of a text
    cases hdrop : dropPrefix? ws cs with
    | none => simp [afterWords?, dropPrefix?_append hws, hdrop]
    | some after =>
      cases hat : atBoundary after <;>
        simp [afterWords?, dropPrefix?_append hws, hdrop, hboundary, hat]

/-- The word is looked for on both sides of a break by itself. -/
theorem Breaks.hasNull_append {rest : List Char} (h : Breaks rest) (inWord : Bool)
    (cs : List Char) : hasNull inWord (cs ++ rest) = (hasNull inWord cs || hasNull false rest) := by
  induction cs generalizing inWord with
  | nil =>
    cases rest with
    | nil => rfl
    | cons c rest =>
      obtain rfl : c = ' ' := h
      -- a space starts no word, and none goes on behind it
      have hspace : ∀ w, hasNull w (' ' :: rest) = hasNull false rest := by
        intro w
        have hnone : afterWords? "NULL".toList (' ' :: rest) = none := rfl
        rw [hasNull, hnone, isWordChar_space, Option.isSome_none, Bool.and_false, Bool.false_or]
      rw [List.nil_append, hspace, hspace, hasNull, Bool.false_or]
  -- what starts in the text ends in it
  | cons c cs ih =>
    have hsome := h.isSome_afterWords?_append (by decide : ' ' ∉ "NULL".toList) (c :: cs)
    rw [List.cons_append, hasNull, ← List.cons_append, hsome, ih, hasNull, Bool.or_assoc]

/-- What is solid is left alone. -/
theorem IsSolid.isUntouched {cs : List Char} (h : IsSolid cs) : IsUntouched cs where
  kept_append := h.kept_append
  ofChars_append hrest := by
    have hself : Pieces.ofChars cs = ⟨cs, []⟩ := by
      simpa [Pieces.ofChars] using Pieces.ofChars_of_no_quote h.no_quote []
    rw [Pieces.ofChars_of_no_quote h.no_quote, hself, Pieces.append_nil]
  sheds_append {before after} hbefore hafter hsheds := by
    obtain ⟨-, -, happend⟩ := withoutClauses_words_append h.no_null h.ends h.not_not h.not_default
    -- the text joins the piece in front of the first literal, and the other pieces stay
    have hwords := hsheds.words_eq
    have hnull := hsheds.no_null
    simp only [Pieces.outside, List.map_cons, List.cons.injEq, List.any_cons,
      Bool.or_eq_false_iff] at hwords hnull
    refine ⟨?_, ?_, ?_⟩
    · rw [Pieces.ofChars_of_no_quote h.no_quote, Pieces.ofChars_of_no_quote h.no_quote]
      exact hsheds.literals_eq
    · rw [Pieces.ofChars_of_no_quote h.no_quote, Pieces.ofChars_of_no_quote h.no_quote]
      simp only [Pieces.outside, List.map_cons, hbefore.head_ofChars.words_append,
        hafter.head_ofChars.words_append, happend, hwords]
    · rw [Pieces.ofChars_of_no_quote h.no_quote]
      simp only [Pieces.outside, List.any_cons, hafter.head_ofChars.hasNull_append, h.no_null,
        hnull, Bool.or_self]

/-- Texts that are left alone, one behind the other. -/
theorem IsUntouched.append {cs ds : List Char} (hc : IsUntouched cs) (hd : IsUntouched ds)
    (hbreaks : Breaks ds) : IsUntouched (cs ++ ds) where
  kept_append hrest := by
    rw [List.append_assoc, hc.kept_append (hbreaks.append hrest), hd.kept_append hrest,
      List.append_assoc]
  ofChars_append hrest := by
    rw [List.append_assoc, hc.ofChars_append (hbreaks.append hrest), hd.ofChars_append hrest,
      hc.ofChars_append hbreaks, Pieces.append_assoc]
  sheds_append hbefore hafter hsheds := by
    rw [List.append_assoc, List.append_assoc]
    exact hc.sheds_append (hbreaks.append hbefore) (hbreaks.append hafter)
      (hd.sheds_append hbefore hafter hsheds)

/-- The text in front of a literal: stripping leaves it alone up to the literal. -/
structure IsOpener (cs : List Char) : Prop where
  no_quote : stringQuote ∉ cs
  cleaned_eq : cleaned cs = cs
  withoutClauses_words : withoutClauses (words cs) = words cs
  no_null : hasNull false cs = false

/-- A literal in front of a text that is left alone. -/
theorem IsUntouched.literal {u cs : List Char} (h : IsUntouched cs) (hu : IsOpener u)
    (hcs : cs.head? ≠ some stringQuote) (v : String) :
    IsUntouched (u ++ ((quotedString v).toList ++ cs)) := by
  -- a quote behind the literal would pass for a part of it
  have hhead : ∀ {rest}, Breaks rest → (cs ++ rest).head? ≠ some stringQuote := by
    intro rest hrest
    cases cs with
    | nil => exact hrest.head_ne_quote
    | cons c cs => simpa using hcs
  -- the text is the opener, the literal, and the pieces of what follows
  have hsplit : ∀ {rest}, Breaks rest →
      Pieces.ofChars ((u ++ ((quotedString v).toList ++ cs)) ++ rest) =
        ⟨u, ((quotedString v).toList, (Pieces.ofChars (cs ++ rest)).head) ::
          (Pieces.ofChars (cs ++ rest)).tail⟩ := by
    intro rest hrest
    rw [List.append_assoc, List.append_assoc, Pieces.ofChars_literal hu.no_quote v (hhead hrest)]
  refine ⟨fun {rest} hrest => ?_, fun {rest} hrest => ?_,
    fun {before after} hbefore hafter hsheds => ?_⟩
  · have := h.kept_append hrest
    rw [kept] at this ⊢
    rw [hsplit hrest]
    simp only [Pieces.mapOutside, Pieces.toList, List.map_cons, List.flatMap_cons, hu.cleaned_eq,
      List.append_assoc] at this ⊢
    rw [this]
  · have hself := hsplit (show Breaks [] from trivial)
    rw [List.append_nil, List.append_nil] at hself
    rw [hsplit hrest, hself, Pieces.append_cons, h.ofChars_append hrest]
  -- what is shed is shed behind the literal
  · have hrow := h.sheds_append hbefore hafter hsheds
    have hliterals := hrow.literals_eq
    have hwords := hrow.words_eq
    have hnull := hrow.no_null
    simp only [Pieces.literals, Pieces.outside] at hliterals hwords hnull
    refine ⟨?_, ?_, ?_⟩
    · rw [hsplit hbefore, hsplit hafter]
      simp [Pieces.literals, hliterals]
    · rw [hsplit hbefore, hsplit hafter]
      simp [Pieces.outside, hu.withoutClauses_words, hwords]
    · rw [hsplit hafter]
      simp [Pieces.outside, hu.no_null, hnull]

/-! ## Clauses -/

/-- A clause is taken out, and the scan goes on behind it. -/
theorem removeClauses_of_afterClause? {cs after : List Char} (h : afterClause? cs = some after) :
    removeClauses false cs = removeClauses true after := by
  cases cs with
  | nil => cases h
  | cons c cs =>
    rw [removeClauses.eq_def]
    simp only [Bool.false_eq_true, if_false]
    split
    · next h' => rw [h] at h'; cases h'; rfl
    · next h' => rw [h] at h'; cases h'

/-- A space stays, and behind it a clause may begin. -/
theorem removeClauses_space (rest : List Char) :
    removeClauses false (' ' :: rest) = ' ' :: removeClauses false rest := by
  have hnone : afterClause? (' ' :: rest) = none := rfl
  rw [removeClauses.eq_def]
  simp only [Bool.false_eq_true, if_false, isWordChar_space]
  split
  · next h => rw [hnone] at h; cases h
  · rfl

/-- In front of a break a clause ends. -/
theorem afterClause?_clause {ws rest : List Char} (hws : ws ∈ clauses) (hrest : Breaks rest) :
    afterClause? (ws ++ rest) = some rest := by
  have hboundary : atBoundary rest = true := hrest.atBoundary_append []
  simp only [clauses, List.mem_cons, List.not_mem_nil, or_false] at hws
  rcases hws with rfl | rfl | rfl <;>
    simp [afterClause?, clauses, afterWords?, dropPrefix?, hboundary]

/-- A clause goes with the space in front of it, unless it stands at the end. -/
theorem cleaned_clause {ws rest : List Char} (hws : ws ∈ clauses) (hrest : Breaks rest) :
    cleaned (' ' :: (ws ++ rest)) = if rest = [] then [' '] else cleaned rest := by
  rw [cleaned, removeClauses_space,
    removeClauses_of_afterClause? (afterClause?_clause hws hrest), hrest.removeClauses true]
  cases rest with
  | nil =>
    rw [removeClauses]
    rfl
  | cons c rest =>
    obtain rfl : c = ' ' := hrest
    rw [if_neg (List.cons_ne_nil _ _), cleaned, removeClauses_space]
    -- the space in front of the clause makes a run with the one behind it
    have hstarts : startsBlank (' ' :: removeClauses false rest) = true := isBlank_space
    simp [collapseBlanks, collapseFrom, isBlank_space, hstarts]

/-- There is no quote in a clause. -/
theorem no_quote_clause {ws : List Char} (hws : ws ∈ clauses) : stringQuote ∉ ' ' :: ws := by
  have : ∀ ws ∈ clauses, stringQuote ∉ ' ' :: ws := by decide +kernel
  exact this ws hws

/-- What breaks and is not empty has something in front of its first literal. -/
theorem Breaks.head_ofChars_eq_nil {cs : List Char} (h : Breaks cs) :
    (Pieces.ofChars cs).head = [] ↔ cs = [] := by
  cases cs with
  | nil => simp [Pieces.ofChars]
  | cons c cs =>
    obtain rfl : c = ' ' := h
    have : ¬ ' ' = stringQuote := by decide
    simp [Pieces.ofChars, this, Pieces.push]

@[simp] theorem kept_nil : kept [] = [] := by
  simp [kept, Pieces.ofChars, Pieces.mapOutside, Pieces.toList, cleaned, collapseBlanks,
    collapseFrom, removeClauses]

/-- What is kept of a clause and what follows it. -/
theorem kept_clause {ws rest : List Char} (hws : ws ∈ clauses) (hrest : Breaks rest) :
    kept (' ' :: (ws ++ rest)) = if rest = [] then [' '] else kept rest := by
  have hclean := cleaned_clause hws hrest.head_ofChars
  simp only [hrest.head_ofChars_eq_nil] at hclean
  rw [kept, ← List.cons_append, Pieces.ofChars_of_no_quote (no_quote_clause hws),
    List.cons_append]
  simp only [Pieces.mapOutside, Pieces.toList, hclean]
  split
  · next h => simp [h, Pieces.ofChars]
  · rfl

/-- The words of a clause are taken out. -/
theorem Sheds.clause {ws before after : List Char} (hws : ws ∈ clauses) (hbefore : Breaks before)
    (h : Sheds before after) : Sheds (' ' :: (ws ++ before)) after := by
  -- without its NULL clauses the word list is that of what follows
  have hwords : ∀ {rest}, Breaks rest →
      withoutClauses (words (' ' :: ws ++ rest)) = withoutClauses (words rest) := by
    intro rest hrest
    have hclauses : ∀ ws ∈ clauses, words (' ' :: ws) = ["DEFAULT", "NULL"] ∨
        words (' ' :: ws) = ["NOT", "NULL"] ∨ words (' ' :: ws) = ["NULL"] := by decide +kernel
    rw [hrest.words_append]
    rcases hclauses ws hws with hw | hw | hw <;> rw [hw] <;> simp [withoutClauses]
  have hrow := h.words_eq
  rw [← List.cons_append]
  -- the clause has no quotes, so that it belongs to the first piece
  refine ⟨?_, ?_, h.no_null⟩
  · rw [Pieces.ofChars_of_no_quote (no_quote_clause hws)]
    exact h.literals_eq
  · rw [Pieces.ofChars_of_no_quote (no_quote_clause hws), hrow]
    simp only [Pieces.outside, List.map_cons, hwords hbefore.head_ofChars]

/-! ## Ends -/

/-- Behind a character that is no blank, only the end is trimmed. -/
theorem trimBlanks_cons {c : Char} (hc : isBlank c = false) (cs : List Char) :
    trimBlanks (c :: cs) = trimEnd (c :: cs) := by
  rw [trimBlanks, List.dropWhile_cons, hc]
  rfl

/-- Only what follows the last word is trimmed. -/
theorem trimEnd_append {cs : List Char} (h : EndsWord cs) (rest : List Char) :
    trimEnd (cs ++ rest) = cs ++ trimEnd rest := by
  obtain ⟨c, hc, hblank⟩ := h
  obtain ⟨before, rfl⟩ := List.getLast?_eq_some_iff.mp hc
  rw [trimEnd, trimEnd, List.reverse_append, List.dropWhile_append]
  cases hrest : rest.reverse.dropWhile isBlank <;> simp [hblank]

/-- Trimming takes something off the end. -/
theorem trimEnd_isPrefix (cs : List Char) : trimEnd cs <+: cs := by
  have := List.reverse_prefix.mpr (List.dropWhile_suffix isBlank (l := cs.reverse))
  rwa [List.reverse_reverse] at this

/-- The start of a text that breaks does so too. -/
theorem Breaks.of_isPrefix {cs before : List Char} (h : Breaks cs) (hbefore : before <+: cs) :
    Breaks before := by
  obtain ⟨rest, rfl⟩ := hbefore
  cases before with
  | nil => trivial
  | cons => exact h

/-- What is kept of a text that starts with a space starts with one. -/
theorem breaks_kept {cs : List Char} (h : Breaks cs) : Breaks (kept cs) := by
  cases cs with
  | nil => simp [Breaks]
  | cons c cs =>
    obtain rfl : c = ' ' := h
    have hquote : ¬ ' ' = stringQuote := by decide
    rw [kept, Pieces.ofChars, if_neg hquote]
    simp [Pieces.mapOutside, Pieces.push, Pieces.toList, cleaned, removeClauses_space,
      collapseBlanks, collapseFrom, isBlank_space, Breaks]

end Querysmith.Nullability
