import Querysmith.Proofs.Column.Harmless
import Querysmith.Proofs.Column.Resplitting

/-!
# Cleaned texts

A text between literals is cleaned in two passes, one for the clauses and one for the blanks. What
is left has no word NULL: a clause starts and ends where words do, so taking it out brings no two
parts of a word together, and a blank stays between words that had blanks between them. A text
without the word and without runs of blanks is clean, and so is what is left of it when blanks are
cut off its ends.

## Main definitions

- `IsClean`: a text between literals that has nothing to strip

## Key results

- `hasNull_removeClauses`, `hasNull_collapseFrom`, `noRuns_collapseFrom`: what each pass leaves
- `isClean_cleaned`: a cleaned text is clean
- `quotes_cleaned`: and has the quotes of the text it was
-/

namespace Querysmith.Nullability

open Text

/-! ## The word -/

/-- Within a word no clause begins. -/
theorem removeClauses_true_cons (c : Char) (cs : List Char) :
    removeClauses true (c :: cs) = c :: removeClauses (isWordChar c) cs := by
  rw [removeClauses.eq_def]
  simp

/-- A character stays where no clause begins. -/
theorem removeClauses_of_afterClause?_eq_none {c : Char} {cs : List Char}
    (h : afterClause? (c :: cs) = none) (inWord : Bool) :
    removeClauses inWord (c :: cs) = c :: removeClauses (isWordChar c) cs := by
  cases inWord with
  | true => exact removeClauses_true_cons c cs
  | false =>
    rw [removeClauses.eq_def]
    simp only [Bool.false_eq_true, if_false]
    split
    · next h' => rw [h] at h'; cases h'
    · rfl

/-- Inside a word nothing is taken out, so words stand in front of what is left as they stand in
front of the text. -/
theorem isSome_afterWords?_removeClauses {ws : List Char}
    (hws : ∀ c ∈ ws, isWordChar c = true) (cs : List Char) :
    (afterWords? ws (removeClauses true cs)).isSome = (afterWords? ws cs).isSome := by
  induction ws generalizing cs with
  | nil =>
    -- behind the words only the first character matters, and it stays
    have hboundary : atBoundary (removeClauses true cs) = atBoundary cs := by
      cases cs with
      | nil => rw [removeClauses]
      | cons c cs => rw [removeClauses_true_cons]; rfl
    simp only [afterWords?, dropPrefix?, hboundary]
    split <;> rfl
  | cons w ws ih =>
    cases cs with
    | nil => rw [removeClauses]
    | cons c cs =>
      rw [removeClauses_true_cons, afterWords?_cons, afterWords?_cons]
      by_cases hw : w = c
      · subst hw
        rw [if_pos rfl, if_pos rfl, hws w List.mem_cons_self]
        exact ih (fun c hc => hws c (List.mem_cons_of_mem w hc)) cs
      · rw [if_neg hw, if_neg hw]

/-- Behind a clause comes no word character. -/
theorem atBoundary_of_afterClause? {cs after : List Char} (h : afterClause? cs = some after) :
    atBoundary after = true := by
  obtain ⟨ws, -, hwords⟩ := List.exists_of_findSome?_eq_some h
  exact (afterWords?_eq_some.mp hwords).2

/-- Behind a character that is in no word, a word may begin. -/
theorem hasNull_of_not_isWordChar {c : Char} (hc : isWordChar c = false) (inWord : Bool)
    (cs : List Char) : hasNull inWord (c :: cs) = hasNull false cs := by
  have hne : ¬ 'N' = c := by
    rintro rfl
    cases hc
  have hnone : afterWords? "NULL".toList (c :: cs) = none := by
    have hlist : "NULL".toList = 'N' :: "ULL".toList := rfl
    rw [hlist, afterWords?_cons, if_neg hne]
  rw [hasNull, hnone, hc, Option.isSome_none, Bool.and_false, Bool.false_or]

/-- Taking the clauses out leaves no word NULL: two parts of a word never come together, because
what is taken out starts and ends where words do. -/
theorem hasNull_removeClauses (inWord : Bool) (cs : List Char) :
    hasNull inWord (removeClauses inWord cs) = false := by
  induction hn : cs.length using Nat.strongRecOn generalizing inWord cs with
  | ind n ih =>
    cases cs with
    | nil =>
      rw [removeClauses]
      rfl
    | cons c rest =>
      have hlt : rest.length < n := by simp at hn; omega
      have hrest := ih _ hlt (isWordChar c) rest rfl
      cases inWord with
      | true => rw [removeClauses_true_cons, hasNull, hrest, Bool.not_true, Bool.false_and,
          Bool.or_self]
      | false =>
        cases hclause : afterClause? (c :: rest) with
        | none =>
          -- no clause stands in front of the text, so the word NULL does not either
          have hnull : afterWords? "NULL".toList (c :: rest) = none :=
            List.findSome?_eq_none_iff.mp hclause _ (by simp [clauses])
          have hword : "NULL".toList.all isWordChar = true := by decide +kernel
          have hsome := isSome_afterWords?_removeClauses (List.all_eq_true.mp hword) (c :: rest)
          rw [hnull, Option.isSome_none, removeClauses_true_cons] at hsome
          rw [removeClauses_of_afterClause?_eq_none hclause, hasNull, hsome, hrest,
            Bool.and_false, Bool.or_self]
        | some after =>
          rw [removeClauses_of_afterClause? hclause]
          -- what is left behind the clause is shorter, and starts a word anew
          have hshort := length_lt_of_afterClause? hclause
          have hboundary := atBoundary_of_afterClause? hclause
          cases after with
          | nil =>
            rw [removeClauses]
            rfl
          | cons d after =>
            have hd : isWordChar d = false := by simpa [atBoundary] using hboundary
            rw [removeClauses_true_cons, hasNull_of_not_isWordChar hd, hd]
            exact ih _ (by simp at hshort hn; omega) false after rfl

/-! ## Blanks -/

/-- Collapsing runs of blanks makes no words and breaks none. -/
theorem isSome_afterWords?_collapseFrom {ws : List Char} (hws : ∀ c ∈ ws, isBlank c = false)
    (cs : List Char) :
    (afterWords? ws (collapseFrom false cs)).isSome = (afterWords? ws cs).isSome := by
  induction ws generalizing cs with
  | nil =>
    -- a run of blanks still starts with a blank
    have hboundary : atBoundary (collapseFrom false cs) = atBoundary cs := by
      cases cs with
      | nil => rfl
      | cons c cs =>
        cases hc : isBlank c with
        | true =>
          have hword := isWordChar_of_isBlank hc
          simp only [collapseFrom, hc, if_true, Bool.false_eq_true, if_false]
          split <;> simp [atBoundary, hword, isWordChar_space]
        -- any other character stays where it is
        | false => simp [collapseFrom, hc, atBoundary]
    simp only [afterWords?, dropPrefix?, hboundary]
    split <;> rfl
  | cons w ws ih =>
    cases cs with
    | nil => rfl
    | cons c cs =>
      have hw := hws w List.mem_cons_self
      cases hc : isBlank c with
      | true =>
        -- the words have no blank in them
        have hne : ∀ d, isBlank d = true → ¬ w = d := by
          rintro d hd rfl
          rw [hw] at hd
          cases hd
        simp only [collapseFrom, hc, if_true, Bool.false_eq_true, if_false]
        rw [afterWords?_cons, afterWords?_cons, if_neg (hne c hc), if_neg]
        split
        · exact hne ' ' isBlank_space
        · exact hne c hc
      | false =>
        simp only [collapseFrom, hc, Bool.false_eq_true, if_false]
        rw [afterWords?_cons, afterWords?_cons]
        split
        · exact ih (fun c hc => hws c (List.mem_cons_of_mem w hc)) cs
        · rfl

/-- Collapsing the blanks makes no word. -/
theorem hasNull_collapseFrom {inRun inWord : Bool} (hrun : inRun = true → inWord = false)
    (cs : List Char) : hasNull inWord (collapseFrom inRun cs) = hasNull inWord cs := by
  induction cs generalizing inRun inWord with
  | nil => rfl
  | cons c cs ih =>
    cases hc : isBlank c with
    | true =>
      -- a blank is in no word, whether it is kept or not
      have hword := isWordChar_of_isBlank hc
      have hcs : hasNull false (collapseFrom true cs) = hasNull false cs := ih fun _ => rfl
      rw [hasNull_of_not_isWordChar hword, collapseFrom, if_pos hc]
      cases inRun with
      | true => rw [if_pos rfl, hrun rfl, hcs]
      | false =>
        rw [if_neg Bool.false_ne_true, hasNull_of_not_isWordChar, hcs]
        split
        · exact isWordChar_space
        · exact hword
    | false =>
      have hword : ("NULL".toList.all fun d => !isBlank d) = true := by decide +kernel
      -- what is kept starts with the same words as before
      have hsome := isSome_afterWords?_collapseFrom
        (fun d hd => by simpa using List.all_eq_true.mp hword d hd) (c :: cs)
      have hcons : ∀ r, collapseFrom r (c :: cs) = c :: collapseFrom false cs := by
        intro r
        rw [collapseFrom, if_neg (by simp [hc])]
      have hcs : hasNull (isWordChar c) (collapseFrom false cs) = hasNull (isWordChar c) cs :=
        ih (by simp)
      rw [hcons] at hsome ⊢
      rw [hasNull, hasNull, hsome, hcs]

/-- Collapsing leaves no run; behind the first blank of one it leaves no blank. -/
theorem noRuns_collapseFrom (inRun : Bool) (cs : List Char) :
    NoRuns (collapseFrom inRun cs) ∧
      (inRun = true → startsBlank (collapseFrom inRun cs) = false) := by
  induction cs generalizing inRun with
  | nil => exact ⟨List.isChain_nil, fun _ => rfl⟩
  | cons c cs ih =>
    cases hc : isBlank c with
    | true =>
      obtain ⟨hcs, hstarts⟩ := ih true
      rw [collapseFrom, if_pos hc]
      cases inRun with
      | true => exact ⟨hcs, hstarts⟩
      | false =>
        -- the rest is collapsed inside a run, so that no blank follows
        refine ⟨List.isChain_cons.mpr ⟨fun d hd => ?_, hcs⟩, by simp⟩
        have hblank : isBlank d = false := by
          obtain ⟨rest, hrest⟩ := List.head?_eq_some_iff.mp (Option.mem_def.mp hd)
          simpa [hrest, startsBlank] using hstarts rfl
        simp [hblank]
    | false =>
      rw [collapseFrom, if_neg (by simp [hc])]
      exact ⟨List.isChain_cons.mpr ⟨by simp [hc], (ih false).1⟩, fun _ => hc⟩

/-! ## Quotes -/

theorem quotes_append (cs ds : List Char) : quotes (cs ++ ds) = quotes cs + quotes ds :=
  List.count_append

/-- Clauses are made of words and blanks, so removing them takes no quote away. -/
theorem quotes_removeClauses (inWord : Bool) (cs : List Char) :
    quotes (removeClauses inWord cs) = quotes cs := by
  fun_induction removeClauses inWord cs with
  | case1 => rfl
  | case2 c rest ih => simp [ih]
  | case3 inWord c rest hword after h _ ih =>
    obtain ⟨ws, hws, hwords⟩ := List.exists_of_findSome?_eq_some h
    obtain ⟨heq, -⟩ := afterWords?_eq_some.mp hwords
    have hquotes : quotes ws = 0 :=
      quotes_eq_zero_iff.mpr fun hmem => no_quote_clause hws (List.mem_cons_of_mem _ hmem)
    rw [ih, heq, quotes_append, hquotes, Nat.zero_add]
  | case4 inWord c rest hword h ih => simp [ih]

/-- A blank is no quote. -/
theorem ne_quote_of_isBlank {c : Char} (h : isBlank c = true) : c ≠ stringQuote := by
  rintro rfl
  cases h

/-- Collapsing runs of blanks takes no quote away. -/
theorem quotes_collapseFrom (inRun : Bool) (cs : List Char) :
    quotes (collapseFrom inRun cs) = quotes cs := by
  fun_induction collapseFrom inRun cs with
  | case1 => rfl
  | case2 c rest hc ih => simp [ih, ne_quote_of_isBlank hc]
  | case3 inRun c rest hc hrun ih =>
    have hfirst : (if startsBlank rest then ' ' else c) ≠ stringQuote := by
      split
      · exact ne_quote_of_isBlank isBlank_space
      · exact ne_quote_of_isBlank hc
    simp only [quotes_cons, ih, hfirst, ne_quote_of_isBlank hc, if_false]
  | case4 inRun c rest hc ih => simp [ih]

/-- Cleaning a text keeps its quotes. -/
theorem quotes_cleaned (cs : List Char) : quotes (cleaned cs) = quotes cs := by
  rw [cleaned, collapseBlanks, quotes_collapseFrom, quotes_removeClauses]

/-! ## Clean texts -/

/-- A text between literals that has nothing to strip. -/
structure IsClean (cs : List Char) : Prop where
  no_null : hasNull false cs = false
  no_run : NoRuns cs

/-- A text that was cleaned is clean. -/
theorem isClean_cleaned (cs : List Char) : IsClean (cleaned cs) where
  no_null := by
    rw [cleaned, collapseBlanks, hasNull_collapseFrom (by simp)]
    exact hasNull_removeClauses false cs
  no_run := (noRuns_collapseFrom false _).1

/-- A clean text stays as it is. -/
theorem IsClean.cleaned_eq {cs : List Char} (h : IsClean cs) : cleaned cs = cs := by
  rw [cleaned, removeClauses_eq_self h.no_null, collapseBlanks_of_noRuns h.no_run]

/-- Blanks in front of a text make no word of it. -/
theorem hasNull_blanks_append {a : List Char} (ha : ∀ c ∈ a, isBlank c = true) (cs : List Char) :
    hasNull false (a ++ cs) = hasNull false cs := by
  induction a with
  | nil => rfl
  | cons c a ih =>
    have hc := isWordChar_of_isBlank (ha c List.mem_cons_self)
    rw [List.cons_append, hasNull_of_not_isWordChar hc,
      ih fun d hd => ha d (List.mem_cons_of_mem c hd)]

/-- Words at the end of a text are still there in front of a boundary. -/
theorem isSome_afterWords?_of_atBoundary {ws cs b : List Char} (hb : atBoundary b = true)
    (h : (afterWords? ws cs).isSome = true) : (afterWords? ws (cs ++ b)).isSome = true := by
  obtain ⟨after, hafter⟩ := Option.isSome_iff_exists.mp h
  obtain ⟨rfl, hboundary⟩ := afterWords?_eq_some.mp hafter
  have happend : atBoundary (after ++ b) = true := by
    cases after with
    | nil => exact hb
    | cons => exact hboundary
  rw [List.append_assoc, afterWords?_eq_some.mpr ⟨rfl, happend⟩]
  rfl

/-- A word stays one in front of a boundary. -/
theorem hasNull_append_of_atBoundary {b : List Char} (hb : atBoundary b = true) {inWord : Bool}
    {cs : List Char} (h : hasNull inWord cs = true) : hasNull inWord (cs ++ b) = true := by
  induction cs generalizing inWord with
  | nil => cases h
  | cons c cs ih =>
    rw [hasNull, Bool.or_eq_true, Bool.and_eq_true] at h
    rw [List.cons_append, hasNull, Bool.or_eq_true, Bool.and_eq_true, ← List.cons_append]
    exact h.imp (And.imp_right (isSome_afterWords?_of_atBoundary hb)) ih

/-- A clean text stays clean without blanks at its start. -/
theorem IsClean.of_blanks_append {a cs : List Char} (ha : ∀ c ∈ a, isBlank c = true)
    (h : IsClean (a ++ cs)) : IsClean cs where
  no_null := by
    rw [← hasNull_blanks_append ha]
    exact h.no_null
  no_run := List.IsChain.right_of_append h.no_run

/-- A clean text stays clean without blanks at its end. -/
theorem IsClean.of_append_blanks {b cs : List Char} (hb : ∀ c ∈ b, isBlank c = true)
    (h : IsClean (cs ++ b)) : IsClean cs where
  no_null := by
    have hboundary : atBoundary b = true := by
      cases b with
      | nil => rfl
      | cons c b => simp [atBoundary, isWordChar_of_isBlank (hb c List.mem_cons_self)]
    refine Bool.eq_false_iff.mpr fun hnull => ?_
    have := hasNull_append_of_atBoundary hboundary hnull
    rw [h.no_null] at this
    cases this
  no_run := List.IsChain.left_of_append h.no_run

end Querysmith.Nullability
