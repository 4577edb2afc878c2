import Querysmith.Blueprint.Nullability
import Querysmith.Proofs.Column.Pieces

/-!
# Scanning a definition behind its name

A definition is scanned from the left, so what stands first can change how the rest is read: an
open literal swallows what follows it, and a word or a run of blanks may go on. The delimiter of
names is neither quote, blank nor word character, so each scan starts afresh behind it.

## Key results

- `removeClauses_append`, `hasNull_append`, `collapseFrom_append`: each scan starts afresh
- `any_hasNull_append`, `strip_append`: so do the two readings of a definition
- `length_kept_lt`: a prefix with a run of blanks becomes shorter
-/

namespace Querysmith

open Text

namespace Text

/-! ## Runs of blanks -/

theorem isBlank_nameQuote : isBlank nameQuote = false := by decide

/-- Behind a character that is no blank, the search for runs starts afresh. -/
theorem collapseFrom_append {d : Char} (hd : isBlank d = false) (inRun : Bool) (a : List Char) :
    ∃ b, ∀ t, collapseFrom inRun (a ++ d :: t) = b ++ d :: collapseFrom false t := by
  induction a generalizing inRun with
  | nil => exact ⟨[], fun t => by simp [collapseFrom, hd]⟩
  | cons c a ih =>
    obtain ⟨b, hb⟩ := ih (isBlank c)
    -- whether a blank follows is decided before the character that is no blank
    have hstarts : ∀ t, startsBlank (a ++ d :: t) = startsBlank a := by
      intro t
      cases a with
      | nil => exact hd
      | cons => rfl
    cases hc : isBlank c with
    | false =>
      rw [hc] at hb
      exact ⟨c :: b, fun t => by simp [collapseFrom, hc, hb]⟩
    | true =>
      rw [hc] at hb
      cases inRun with
      | true => exact ⟨b, fun t => by simp [collapseFrom, hc, hb]⟩
      | false =>
        exact ⟨(if startsBlank a then ' ' else c) :: b, fun t => by
          simp [collapseFrom, hc, hb, hstarts]⟩

/-- Collapsing makes a text shorter unless it leaves the text alone. Behind the first blank of a
run the text is shorter when another blank follows. -/
theorem collapseFrom_length (inRun : Bool) (cs : List Char) :
    (collapseFrom inRun cs).length < cs.length ∨
      (collapseFrom inRun cs = cs ∧ (inRun = true → startsBlank cs = false)) := by
  induction cs generalizing inRun with
  | nil => exact .inr ⟨rfl, fun _ => rfl⟩
  | cons c cs ih =>
    -- no text gets longer
    have hle : ∀ r, (collapseFrom r cs).length ≤ cs.length := fun r =>
      (ih r).elim Nat.le_of_lt fun h => Nat.le_of_eq (congrArg List.length h.1)
    cases hc : isBlank c with
    | false =>
      rw [collapseFrom, if_neg (by simp [hc])]
      rcases ih false with h | ⟨h, -⟩
      · exact .inl (by simpa using h)
      · exact .inr ⟨by rw [h], fun _ => hc⟩
    | true =>
      rw [collapseFrom, if_pos hc]
      -- the first blank of a run is kept, and the ones behind it are not
      cases inRun with
      | true =>
        have := hle true
        exact .inl (by simp; omega)
      | false =>
        rcases ih true with h | ⟨h, hstarts⟩
        · exact .inl (by simpa using h)
        · exact .inr ⟨by simp [h, hstarts rfl], by simp⟩

/-- A text in which something collapses gets shorter. -/
theorem collapseBlanks_length_lt {cs : List Char} (h : collapseBlanks cs ≠ cs) :
    (collapseBlanks cs).length < cs.length :=
  (collapseFrom_length false cs).resolve_right fun hsame => h hsame.1

/-- No text gets longer. -/
theorem collapseBlanks_length_le (cs : List Char) : (collapseBlanks cs).length ≤ cs.length :=
  (collapseFrom_length false cs).elim Nat.le_of_lt fun h =>
    Nat.le_of_eq (congrArg List.length h.1)

end Text

namespace Nullability

/-! ## Clauses -/

/-- A prefix is looked for only up to a delimiter that is not in it. -/
theorem dropPrefix?_append {d : Char} {start : List Char} (hd : d ∉ start) (a t : List Char) :
    dropPrefix? start (a ++ d :: t) = (dropPrefix? start a).map (· ++ d :: t) := by
  fun_induction dropPrefix? start a with
  | case1 => rfl
  -- the prefix has not ended where the new character stands, and does not hold it
  | case2 s start =>
    have : s ≠ d := by
      rintro rfl
      simp at hd
    simp [dropPrefix?, this]
  | case3 s start a ih =>
    simp only [List.mem_cons, not_or] at hd
    simp [dropPrefix?, ih hd.2]
  | case4 s start c a hne => simp [dropPrefix?, hne]

theorem isWordChar_nameQuote : isWordChar nameQuote = false := by decide

/-- Whether words stand in front of the delimiter does not depend on what is behind it. -/
theorem afterWords?_append {words : List Char} (hwords : nameQuote ∉ words) (a : List Char) :
    ∃ rest? : Option (List Char), ∀ t,
      afterWords? words (a ++ nameQuote :: t) = rest?.map (· ++ nameQuote :: t) := by
  cases hdrop : dropPrefix? words a with
  | none => exact ⟨none, fun t => by simp [afterWords?, dropPrefix?_append hwords, hdrop]⟩
  | some rest =>
    -- the quote of a name bounds words as the end of a text does
    have hboundary : ∀ t, atBoundary (rest ++ nameQuote :: t) = atBoundary rest := by
      intro t
      cases rest with
      | nil => simp [atBoundary, isWordChar_nameQuote]
      | cons => rfl
    refine ⟨if atBoundary rest then some rest else none, fun t => ?_⟩
    cases h : atBoundary rest <;>
      simp [afterWords?, dropPrefix?_append hwords, hdrop, hboundary, h]

/-- Which words come next is settled before the end of a quoted name. -/
theorem findSome?_afterWords?_append {texts : List (List Char)}
    (h : ∀ words ∈ texts, nameQuote ∉ words) (a : List Char) :
    ∃ rest? : Option (List Char), ∀ t,
      (texts.findSome? fun words => afterWords? words (a ++ nameQuote :: t))
        = rest?.map (· ++ nameQuote :: t) := by
  induction texts with
  | nil => exact ⟨none, fun t => rfl⟩
  | cons words texts ih =>
    obtain ⟨first?, hfirst⟩ := afterWords?_append (h words (by simp)) a
    obtain ⟨rest?, hrest⟩ := ih fun w hw => h w (by simp [hw])
    refine ⟨first?.or rest?, fun t => ?_⟩
    rw [List.findSome?_cons, hfirst t, hrest t]
    cases first? <;> rfl

/-- Whether a clause stands in front of the delimiter does not depend on what is behind it. -/
theorem afterClause?_append (a : List Char) :
    ∃ rest? : Option (List Char), ∀ t,
      afterClause? (a ++ nameQuote :: t) = rest?.map (· ++ nameQuote :: t) :=
  findSome?_afterWords?_append (by decide) a

theorem afterClause?_nameQuote (t : List Char) : afterClause? (nameQuote :: t) = none := rfl

/-- The removal of clauses starts afresh behind the delimiter. -/
theorem removeClauses_append (inWord : Bool) (a : List Char) :
    ∃ b, ∀ t, removeClauses inWord (a ++ nameQuote :: t)
      = b ++ nameQuote :: removeClauses false t := by
  -- a clause takes a part of the text away, so the induction is on the length
  induction hn : a.length using Nat.strongRecOn generalizing inWord a with
  | ind n ih =>
    cases a with
    | nil =>
      refine ⟨[], fun t => ?_⟩
      rw [List.nil_append, removeClauses.eq_def]
      cases inWord with
      | true => simp [isWordChar_nameQuote]
      | false =>
        simp only [Bool.false_eq_true, if_false]
        split
        · next h => simp [afterClause?_nameQuote] at h
        · simp [isWordChar_nameQuote]
    | cons c a =>
      have hlt : a.length < n := by simp at hn; omega
      obtain ⟨b, hb⟩ := ih a.length hlt (isWordChar c) a rfl
      cases inWord with
      | true =>
        refine ⟨c :: b, fun t => ?_⟩
        rw [List.cons_append, removeClauses.eq_def]
        simp [hb]
      | false =>
        obtain ⟨rest?, hrest⟩ := afterClause?_append (c :: a)
        cases rest? with
        -- no clause starts here
        | none =>
          refine ⟨c :: b, fun t => ?_⟩
          rw [List.cons_append, removeClauses.eq_def]
          simp only [Bool.false_eq_true, if_false]
          split
          · next h => rw [← List.cons_append, hrest t] at h; cases h
          · simp [hb]
        -- a clause starts here, and what is left behind it is shorter
        | some rest =>
          have hshort : rest.length < n := by
            have := length_lt_of_afterClause? (hrest [])
            simp at this hn
            omega
          obtain ⟨b, hb⟩ := ih rest.length hshort true rest rfl
          refine ⟨b, fun t => ?_⟩
          rw [List.cons_append, removeClauses.eq_def]
          simp only [Bool.false_eq_true, if_false]
          split
          · next after h =>
            rw [← List.cons_append, hrest t] at h
            cases h
            exact hb t
          · next h => rw [← List.cons_append, hrest t] at h; cases h

/-- The search for the word starts afresh behind the delimiter. -/
theorem hasNull_append (inWord : Bool) (a : List Char) :
    ∃ found, ∀ t, hasNull inWord (a ++ nameQuote :: t) = (found || hasNull false t) := by
  induction a generalizing inWord with
  -- no word starts with the quote, and the quote ends the word before it
  | nil =>
    refine ⟨false, fun t => ?_⟩
    have hnone : afterWords? "NULL".toList (nameQuote :: t) = none := rfl
    rw [List.nil_append, hasNull, hnone, isWordChar_nameQuote]
    simp
  -- the words may start here or further behind
  | cons c a ih =>
    obtain ⟨found, hfound⟩ := ih (isWordChar c)
    obtain ⟨rest?, hrest⟩ := afterWords?_append (by decide : nameQuote ∉ "NULL".toList) (c :: a)
    refine ⟨(!inWord && rest?.isSome) || found, fun t => ?_⟩
    rw [List.cons_append, hasNull, ← List.cons_append, hrest t, hfound t]
    simp [Bool.or_assoc]

/-! ## Text without the word has no clauses -/

/-- Words come next when the text starts with them and goes on at a boundary. -/
theorem afterWords?_eq_some {words cs rest : List Char} :
    afterWords? words cs = some rest ↔ cs = words ++ rest ∧ atBoundary rest = true := by
  unfold afterWords?
  cases h : dropPrefix? words cs with
  | none =>
    -- the words are not there
    have : ∀ rest, cs ≠ words ++ rest := by
      intro rest heq
      rw [← dropPrefix?_eq_some, h] at heq
      cases heq
    simp [this]
  | some after =>
    obtain rfl := dropPrefix?_eq_some.mp h
    simp only [List.append_cancel_left_eq]
    -- the words are there, and another letter behind them makes them a part of a longer word
    cases hb : atBoundary after with
    | true =>
      constructor
      · rintro ⟨⟩
        exact ⟨rfl, hb⟩
      · rintro ⟨rfl, -⟩
        rfl
    | false =>
      constructor
      · rintro ⟨⟩
      · rintro ⟨rfl, h⟩
        rw [hb] at h
        cases h

/-- The word is found behind a character that is no word character. -/
theorem hasNull_behind {d : Char} (hd : isWordChar d = false) {cs : List Char}
    (h : hasNull false cs = true) (inWord : Bool) (before : List Char) :
    hasNull inWord (before ++ d :: cs) = true := by
  induction before generalizing inWord with
  | nil => rw [List.nil_append, hasNull, hd, h, Bool.or_true]
  | cons c before ih => rw [List.cons_append, hasNull, ih, Bool.or_true]

/-- A word NULL that comes next is found. -/
theorem hasNull_of_afterWords? {cs rest : List Char}
    (h : afterWords? "NULL".toList cs = some rest) : hasNull false cs = true := by
  cases cs with
  | nil => cases h
  | cons c cs =>
    rw [hasNull, h]
    rfl

/-- Each clause ends in the word. -/
theorem hasNull_of_clause {words : List Char} (hmem : words ∈ clauses) {rest : List Char}
    (hboundary : atBoundary rest = true) : hasNull false (words ++ rest) = true := by
  have hspace : isWordChar ' ' = false := by decide
  have hnull : hasNull false ("NULL".toList ++ rest) = true :=
    hasNull_of_afterWords? (afterWords?_eq_some.mpr ⟨rfl, hboundary⟩)
  simp only [clauses, List.mem_cons, List.not_mem_nil, or_false] at hmem
  rcases hmem with rfl | rfl | rfl
  · exact hasNull_behind hspace hnull false "DEFAULT".toList
  · exact hasNull_behind hspace hnull false "NOT".toList
  · exact hnull

/-- Every nullability clause has the word in it. -/
theorem hasNull_of_afterClause? {cs rest : List Char} (h : afterClause? cs = some rest) :
    hasNull false cs = true := by
  obtain ⟨words, hmem, hwords⟩ := List.exists_of_findSome?_eq_some h
  obtain ⟨rfl, hboundary⟩ := afterWords?_eq_some.mp hwords
  exact hasNull_of_clause hmem hboundary

/-- A text without the word has no clauses to remove. -/
theorem removeClauses_eq_self {inWord : Bool} {cs : List Char} (h : hasNull inWord cs = false) :
    removeClauses inWord cs = cs := by
  induction cs generalizing inWord with
  | nil => rw [removeClauses]
  | cons c rest ih =>
    have hrest : hasNull (isWordChar c) rest = false := by
      rw [hasNull, Bool.or_eq_false_iff] at h
      exact h.2
    rw [removeClauses.eq_def]
    cases inWord with
    | true => simp [ih hrest]
    | false =>
      simp only [Bool.false_eq_true, if_false]
      -- a clause would have NULL as a word in it
      split
      · next after hafter =>
        rw [hasNull_of_afterClause? hafter] at h
        cases h
      · rw [ih hrest]

/-! ## Definitions -/

/-- A text between literals as stripping leaves it. -/
def cleaned (cs : List Char) : List Char := collapseBlanks (removeClauses false cs)

/-- The characters of a definition without its nullability clauses. -/
def kept (cs : List Char) : List Char := ((Pieces.ofChars cs).mapOutside cleaned).toList

/-- Drops the blanks at the end. -/
def trimEnd (cs : List Char) : List Char := (cs.reverse.dropWhile isBlank).reverse

/-- A text that ends with the quote of a name is cleaned apart from what follows. -/
theorem cleaned_append (a : List Char) :
    ∃ b, ∀ t, cleaned (a ++ nameQuote :: t) = b ++ nameQuote :: cleaned t := by
  obtain ⟨b, hb⟩ := removeClauses_append false a
  obtain ⟨b', hb'⟩ := collapseFrom_append isBlank_nameQuote false b
  exact ⟨b', fun t => by rw [cleaned, hb, collapseBlanks, hb']; rfl⟩

/-- The quote of a name stays, and what follows is cleaned for itself. -/
theorem cleaned_nameQuote (cs : List Char) :
    cleaned (nameQuote :: cs) = nameQuote :: cleaned cs := by
  have hremove : removeClauses false (nameQuote :: cs) = nameQuote :: removeClauses false cs := by
    rw [removeClauses.eq_def]
    simp only [Bool.false_eq_true, if_false, isWordChar_nameQuote]
    split
    · next h => simp [afterClause?_nameQuote] at h
    · rfl
  rw [cleaned, hremove, collapseBlanks, collapseFrom, isBlank_nameQuote]
  rfl

/-- Behind a quoted name only the end of a text is trimmed. -/
theorem trimBlanks_append {cs : List Char} (hfirst : ∃ a, cs = nameQuote :: a)
    (hlast : EndsName cs) (t : List Char) : trimBlanks (cs ++ t) = cs ++ trimEnd t := by
  obtain ⟨a, hfirst⟩ := hfirst
  obtain ⟨b, hlast⟩ := hlast.exists_append
  -- the name has a quote at either end, so no blank of it is trimmed
  have hfront : (cs ++ t).dropWhile isBlank = cs ++ t := by
    rw [hfirst, List.cons_append, List.dropWhile_cons, isBlank_nameQuote]
    rfl
  have hback : cs.reverse.dropWhile isBlank = cs.reverse := by
    rw [hlast, List.reverse_append, List.reverse_singleton, List.singleton_append,
      List.dropWhile_cons, isBlank_nameQuote]
    rfl
  rw [trimBlanks, hfront, List.reverse_append, List.dropWhile_append, hback, trimEnd]
  cases h : t.reverse.dropWhile isBlank <;> simp

/-- The quote of a name is kept. -/
theorem kept_first {q : List Char} (hfirst : ∃ a, q = nameQuote :: a) :
    ∃ a, kept q = nameQuote :: a := by
  obtain ⟨a, rfl⟩ := hfirst
  have : ¬ nameQuote = stringQuote := by decide
  refine ⟨((Pieces.ofChars a).mapOutside cleaned).toList, ?_⟩
  rw [kept, Pieces.ofChars, if_neg this]
  simp [Pieces.mapOutside, Pieces.push, Pieces.toList, cleaned_nameQuote]

section Prefix

variable {q : List Char} (hlast : EndsName q) (heven : quotes q % 2 = 0)

include hlast heven

/-- Whether the word stands in a definition. -/
theorem any_hasNull_append (t : List Char) :
    (Pieces.ofChars (q ++ t)).outside.any (hasNull false) =
      ((Pieces.ofChars q).outside.any (hasNull false) ||
        (Pieces.ofChars t).outside.any (hasNull false)) := by
  obtain ⟨hsplit, hends⟩ := Pieces.ofChars_append hlast heven
  obtain ⟨a, ha⟩ := hends.exists_append
  obtain ⟨found, hfound⟩ := hasNull_append false a
  rw [hsplit, Pieces.any_outside_append]
  have hself : hasNull false (a ++ [nameQuote]) = found := by simpa [hasNull] using hfound []
  rw [ha, List.append_assoc, hself]
  exact hfound _

/-- What is kept of a definition. -/
theorem kept_append (t : List Char) : kept (q ++ t) = kept q ++ kept t := by
  obtain ⟨hsplit, hends⟩ := Pieces.ofChars_append hlast heven
  obtain ⟨a, ha⟩ := hends.exists_append
  obtain ⟨b, hb⟩ := cleaned_append a
  have hnil : cleaned [] = [] := by rw [cleaned, removeClauses]; rfl
  have hself : cleaned (a ++ [nameQuote]) = b ++ [nameQuote] := by rw [hb, hnil]
  rw [kept, hsplit, Pieces.mapOutside_append, Pieces.toList_append]
  · rfl
  · rw [ha, List.append_assoc, hself, List.append_assoc]
    exact hb _

/-- What is kept of a prefix ends as the prefix does. -/
theorem endsName_kept : EndsName (kept q) := by
  obtain ⟨-, hends⟩ := Pieces.ofChars_append hlast heven
  obtain ⟨a, ha⟩ := hends.exists_append
  obtain ⟨b, hb⟩ := cleaned_append a
  obtain ⟨c, hc⟩ := ((Pieces.ofChars q).mapOutside cleaned).exists_toList_eq_append_last
  have hnil : cleaned [] = [] := by rw [cleaned, removeClauses]; rfl
  rw [kept, hc, Pieces.last_mapOutside, ha, hb, hnil, EndsName]
  simp

/-- Stripping a definition strips its prefix and its rest. -/
theorem strip_append (hfirst : ∃ a, q = nameQuote :: a) (t : List Char) :
    strip (String.ofList (q ++ t)) = String.ofList (kept q ++ trimEnd (kept t)) := by
  have hkept : strip (String.ofList (q ++ t)) = String.ofList (trimBlanks (kept (q ++ t))) := by
    rw [strip, String.toList_ofList]
    rfl
  rw [hkept, kept_append hlast heven, trimBlanks_append (kept_first hfirst)
    (endsName_kept hlast heven)]

end Prefix

/-- Without the word and without runs of blanks everything is kept. -/
theorem kept_eq_self {q : List Char}
    (hnull : (Pieces.ofChars q).outside.any (hasNull false) = false)
    (hrun : ∀ s ∈ (Pieces.ofChars q).outside, collapseBlanks s = s) : kept q = q := by
  rw [kept, Pieces.mapOutside_eq_self, Pieces.toList_ofChars]
  intro s hs
  have : hasNull false s = false := by
    have := List.any_eq_false.mp hnull s hs
    simpa using this
  rw [cleaned, removeClauses_eq_self this, hrun s hs]

/-- Without the word, a run of blanks makes what is kept shorter. -/
theorem length_kept_lt {q s : List Char}
    (hnull : (Pieces.ofChars q).outside.any (hasNull false) = false)
    (hs : s ∈ (Pieces.ofChars q).outside) (hrun : collapseBlanks s ≠ s) :
    (kept q).length < q.length := by
  have hcleaned : ∀ r ∈ (Pieces.ofChars q).outside, cleaned r = collapseBlanks r := by
    intro r hr
    have : hasNull false r = false := by simpa using List.any_eq_false.mp hnull r hr
    rw [cleaned, removeClauses_eq_self this]
  have := Pieces.length_mapOutside_lt (f := cleaned)
    (fun r hr => by rw [hcleaned r hr]; exact collapseBlanks_length_le r)
    hs (by rw [hcleaned s hs]; exact collapseBlanks_length_lt hrun)
  rwa [Pieces.toList_ofChars] at this

end Nullability

end Querysmith
