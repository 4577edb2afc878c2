import Mathlib.Data.List.TakeWhile
import Querysmith.Proofs.Column.Figures
import Querysmith.Proofs.Column.Literals
import Querysmith.Proofs.Column.Scanning

/-!
# The words of a definition

Between its literals a definition is made of words with blanks between them, and a nullability
clause is one or two of these words. Stripping works on characters; for a text that is solid, with
nothing in it that stripping would change, it can be told word by word what is left of the text
and of what follows it.

## Main definitions

- `words`: the words of a text
- `withoutClauses`: words without the clauses among them
- `Breaks`: nothing, or a text that starts with a space
- `IsSolid`: a text without quotes that stripping does not change, whatever follows behind a space
- `IsMarks`: what may stand at the end of any word

## Key results

- `IsMarks.isSolid`: a fixed text with marks at its end is solid
- `IsSolid.kept_append`: stripping leaves a solid text and strips what follows
- `withoutClauses_words_append`: so does the removal of words
-/

namespace Querysmith.Nullability

open Text

/-! ## Words -/

/-- The words of a text, which stand between its blanks. -/
def words (cs : List Char) : List String :=
  ((cs.splitOnP isBlank).filter (· ≠ [])).map String.ofList

/-- Words without nullability clauses. -/
def withoutClauses : List String → List String
  | "DEFAULT" :: "NULL" :: rest => withoutClauses rest
  | "NOT" :: "NULL" :: rest => withoutClauses rest
  | "NULL" :: rest => withoutClauses rest
  | word :: rest => word :: withoutClauses rest
  | [] => []

@[simp] theorem words_nil : words [] = [] := rfl

/-- A blank ends a word. -/
theorem words_append_blank {b : Char} (hb : isBlank b = true) (cs rest : List Char) :
    words (cs ++ b :: rest) = words cs ++ words rest := by
  simp [words, List.splitOnP_append_cons cs rest hb]

/-- What has no blank in it is one word. -/
theorem words_of_no_blank {cs : List Char} (h : ∀ c ∈ cs, isBlank c = false) (hne : cs ≠ []) :
    words cs = [String.ofList cs] := by
  simp [words, List.splitOnP_eq_singleton h, hne]

/-- Nothing, or a text that starts with a space. -/
def Breaks : List Char → Prop
  | [] => True
  | c :: _ => c = ' '

theorem isBlank_space : isBlank ' ' = true := by decide

theorem isWordChar_space : isWordChar ' ' = false := by decide

/-- The words on both sides of a break are those of the whole. -/
theorem Breaks.words_append {rest : List Char} (h : Breaks rest) (cs : List Char) :
    words (cs ++ rest) = words cs ++ words rest := by
  cases rest with
  | nil => simp
  | cons c rest =>
    obtain rfl : c = ' ' := h
    have hfirst : words (' ' :: rest) = words rest := words_append_blank isBlank_space [] rest
    rw [words_append_blank isBlank_space, hfirst]

/-- The words of pieces one behind the other. -/
theorem words_outside_append {p r : Pieces} (h : Breaks r.head) :
    (p.append r).outside.flatMap words = p.outside.flatMap words ++ r.outside.flatMap words := by
  obtain ⟨head, tail⟩ := p
  induction tail generalizing head with
  | nil => simp [Pieces.outside, h.words_append]
  | cons piece rest ih =>
    have := ih piece.2
    simp only [Pieces.outside, Pieces.append_cons, List.map_cons, List.flatMap_cons,
      List.append_assoc] at this ⊢
    rw [this]

/-- Whether a word ends is settled before a break. -/
theorem Breaks.atBoundary_append {rest : List Char} (h : Breaks rest) (cs : List Char) :
    atBoundary (cs ++ rest) = atBoundary cs := by
  cases cs with
  | cons => rfl
  | nil =>
    cases rest with
    | nil => rfl
    | cons c rest =>
      obtain rfl : c = ' ' := h
      simp [atBoundary, isWordChar_space]

/-- A break is not at a literal. -/
theorem Breaks.head_ne_quote {cs : List Char} (h : Breaks cs) : cs.head? ≠ some stringQuote := by
  cases cs with
  | nil => simp
  | cons c cs =>
    obtain rfl : c = ' ' := h
    simp [stringQuote]

/-- A text that breaks does so whatever other one follows. -/
theorem Breaks.append {cs rest : List Char} (h : Breaks cs) (hrest : Breaks rest) :
    Breaks (cs ++ rest) := by
  cases cs with
  | nil => exact hrest
  | cons => exact h

/-- The text in front of the first literal goes on as the text does. -/
theorem Breaks.head_ofChars {cs : List Char} (h : Breaks cs) : Breaks (Pieces.ofChars cs).head := by
  cases cs with
  | nil => simp [Pieces.ofChars, Breaks]
  | cons c cs =>
    obtain rfl : c = ' ' := h
    have : ¬ ' ' = stringQuote := by decide
    rw [Pieces.ofChars, if_neg this]
    rfl

/-! ## Solid texts -/

/-- A text whose last character is no blank. -/
def EndsWord (cs : List Char) : Prop := ∃ c, cs.getLast? = some c ∧ isBlank c = false

/-- A text with a word at its end is not empty. -/
theorem EndsWord.ne_nil {cs : List Char} (h : EndsWord cs) : cs ≠ [] := by
  rintro rfl
  obtain ⟨c, hc, -⟩ := h
  cases hc

/-- Whether a word is at the end is read off the last character. -/
theorem endsWord_iff {cs : List Char} :
    EndsWord cs ↔ (cs.getLast?.any fun c => !isBlank c) = true := by
  simp [EndsWord, Option.any_eq_true]

/-- What is in front of the last word does not matter. -/
theorem EndsWord.append {cs : List Char} (h : EndsWord cs) (before : List Char) :
    EndsWord (before ++ cs) := by
  obtain ⟨c, hc, hblank⟩ := h
  exact ⟨c, by simp [List.getLast?_append, hc], hblank⟩

/-- A text without quotes that stripping does not change, also when a space follows: no clause in
it, none that starts in it, and no blank that would make a run with that space. -/
structure IsSolid (cs : List Char) : Prop where
  no_quote : stringQuote ∉ cs
  no_null : hasNull false cs = false
  no_run : collapseBlanks cs = cs
  ends : EndsWord cs
  not_not : ¬ "NOT".toList <:+ cs
  not_default : ¬ "DEFAULT".toList <:+ cs

instance : DecidablePred IsSolid := fun cs =>
  decidable_of_iff (stringQuote ∉ cs ∧ hasNull false cs = false ∧ collapseBlanks cs = cs ∧
      (cs.getLast?.any fun c => !isBlank c) = true ∧ ¬ "NOT".toList <:+ cs ∧
      ¬ "DEFAULT".toList <:+ cs)
    ⟨fun ⟨hquote, hnull, hrun, hends, hnot, hdefault⟩ =>
      ⟨hquote, hnull, hrun, endsWord_iff.mpr hends, hnot, hdefault⟩,
    fun h => ⟨h.no_quote, h.no_null, h.no_run, endsWord_iff.mp h.ends, h.not_not, h.not_default⟩⟩

/-- The word NULL does not end in a text without its last letter. -/
theorem afterWords?_null_of_append {marks : List Char} (hmarks : 'L' ∉ marks) (cs : List Char)
    (h : (afterWords? "NULL".toList (cs ++ marks)).isSome = true) :
    (afterWords? "NULL".toList cs).isSome = true := by
  obtain ⟨after, hafter⟩ := Option.isSome_iff_exists.mp h
  obtain ⟨heq, hboundary⟩ := afterWords?_eq_some.mp hafter
  rcases List.append_eq_append_iff.mp heq with ⟨a, ha, rfl⟩ | ⟨a, rfl, rfl⟩
  · -- every end of the word has the letter in it, so none of it stands among the marks
    have hdrop : ∀ n, "NULL".toList.drop n = [] ∨ 'L' ∈ "NULL".toList.drop n := by
      intro n
      by_cases hn : n < 4
      · revert n
        decide
      · exact .inl (List.drop_eq_nil_of_le (by simpa using hn))
    have := hdrop cs.length
    rw [ha, List.drop_left] at this
    obtain rfl : a = [] := this.resolve_right fun hl => hmarks (List.mem_append_left _ hl)
    rw [List.append_nil] at ha
    rw [← ha]
    rfl
  · -- the word ends in the text, where nothing of a word follows
    have hat : atBoundary a = true := by
      cases a with
      | nil => rfl
      | cons c a => exact hboundary
    rw [afterWords?_eq_some.mpr ⟨rfl, hat⟩]
    rfl

/-- Marks without the last letter of the word do not complete it. -/
theorem hasNull_append_of_no_l {cs marks : List Char} {inWord : Bool}
    (hnull : hasNull inWord cs = false) (hmarks : 'L' ∉ marks) :
    hasNull inWord (cs ++ marks) = false := by
  induction cs generalizing inWord with
  | nil =>
    -- inside the marks the word would have to be made of marks
    induction marks generalizing inWord with
    | nil => rfl
    | cons c marks ih =>
      have hnone := mt (afterWords?_null_of_append hmarks []) (by decide)
      rw [List.nil_append] at hnone ⊢
      rw [hasNull, Bool.eq_false_iff.mpr hnone, Bool.and_false, Bool.false_or]
      exact ih (fun h => hmarks (List.mem_cons_of_mem c h)) rfl
  | cons c cs ih =>
    rw [hasNull, Bool.or_eq_false_iff] at hnull
    rw [List.cons_append, hasNull, ih hnull.2, Bool.or_false, ← List.cons_append]
    cases inWord with
    | true => rfl
    | false =>
      rw [Bool.not_false, Bool.true_and] at hnull ⊢
      exact Bool.eq_false_iff.mpr
        (mt (afterWords?_null_of_append hmarks _) (Bool.eq_false_iff.mp hnull.1))

/-- Marks without blanks are collapsed with nothing before them. -/
theorem collapseFrom_append_of_no_blank {cs marks : List Char}
    (hmarks : ∀ c ∈ marks, isBlank c = false) (inRun : Bool) :
    collapseFrom inRun (cs ++ marks) = collapseFrom inRun cs ++ marks := by
  induction cs generalizing inRun with
  | nil =>
    -- marks alone have no runs
    induction marks generalizing inRun with
    | nil => rfl
    | cons c marks ih =>
      have hc := hmarks c (by simp)
      have := ih (fun d hd => hmarks d (List.mem_cons_of_mem c hd)) false
      simp only [List.nil_append, collapseFrom] at this ⊢
      simp [hc, this]
  | cons c cs ih =>
    -- if a run goes on behind a character depends on the next one only
    have hstarts : startsBlank (cs ++ marks) = startsBlank cs := by
      cases cs with
      | cons => rfl
      | nil =>
        cases marks with
        | nil => rfl
        | cons d marks => exact hmarks d (by simp)
    simp only [List.cons_append, collapseFrom, hstarts, ih]
    split
    · split <;> simp
    · simp

/-- Marks that are no part of the words of a clause, and no blanks. -/
def IsMarks (cs : List Char) : Prop := ∀ c ∈ cs, isBlank c = false ∧ c ∉ [stringQuote, 'L', 'T']

instance : DecidablePred IsMarks :=
  List.decidableBAll fun c => isBlank c = false ∧ c ∉ [stringQuote, 'L', 'T']

/-- Marks may follow marks. -/
theorem IsMarks.append {cs ds : List Char} (hc : IsMarks cs) (hd : IsMarks ds) :
    IsMarks (cs ++ ds) :=
  fun c h => (List.mem_append.mp h).elim (hc c) (hd c)

/-- Figures are marks. -/
theorem isMarks_of_isFigures {s : String} (h : IsFigures s) : IsMarks s.toList := by
  intro c hc
  refine ⟨isBlank_of_isFigure (h c hc), fun hmem => ?_⟩
  have hletters : ([stringQuote, 'L', 'T'].all fun d => !isFigure d) = true := by decide
  exact ne_of_isFigure (h c hc) (by simpa using List.all_eq_true.mp hletters c hmem) rfl

/-- Marks behind a text that stripping does not change. -/
theorem IsMarks.isSolid {marks : List Char} (hmarks : IsMarks marks) (hne : marks ≠ [])
    (cs : List Char) (hquote : stringQuote ∉ cs) (hnull : hasNull false cs = false)
    (hrun : collapseBlanks cs = cs) : IsSolid (cs ++ marks) := by
  have hmem : ∀ d ∈ [stringQuote, 'L', 'T'], d ∉ marks := fun d hd h => (hmarks d h).2 hd
  -- both words in front of NULL end in a letter that is no mark
  have hlast : ∀ words : List Char, words.getLast? = some 'T' → ¬ words <:+ cs ++ marks := by
    rintro words hwords ⟨before, heq⟩
    have hget := congrArg List.getLast? heq
    rw [List.getLast?_append, List.getLast?_append, hwords,
      List.getLast?_eq_some_getLast hne] at hget
    have := List.getLast_mem hne
    rw [← Option.some.inj hget] at this
    exact hmem 'T' (by simp) this
  refine ⟨?_, hasNull_append_of_no_l hnull (hmem 'L' (by simp)), ?_, ?_, hlast _ rfl, hlast _ rfl⟩
  · rw [List.mem_append, not_or]
    exact ⟨hquote, hmem _ (by simp)⟩
  · rw [collapseBlanks, collapseFrom_append_of_no_blank fun c hc => (hmarks c hc).1]
    exact congrArg (· ++ marks) hrun
  · exact EndsWord.append ⟨_, List.getLast?_eq_some_getLast hne,
      (hmarks _ (List.getLast_mem hne)).1⟩ cs

/-- Behind a break it does not matter how the text before it ended. -/
theorem Breaks.removeClauses {cs : List Char} (h : Breaks cs) (inWord : Bool) :
    removeClauses inWord cs = Nullability.removeClauses false cs := by
  cases cs with
  | nil => rw [Nullability.removeClauses, Nullability.removeClauses]
  | cons c cs =>
    obtain rfl : c = ' ' := h
    cases inWord with
    | false => rfl
    -- a space starts no clause, whether a word ends before it or not
    | true =>
      rw [Nullability.removeClauses.eq_def, Nullability.removeClauses.eq_def false]
      simp only [if_true, Bool.false_eq_true, if_false]
      split
      · next h => cases h
      · rfl

/-- In front of a space, only two words begin a clause that goes on behind it. -/
theorem eq_of_clause_append_space {cs rest ws : List Char} (hws : ws ∈ clauses)
    (h : ws = cs ++ ' ' :: rest) : cs = "NOT".toList ∨ cs = "DEFAULT".toList := by
  have hspaces : ∀ ws ∈ clauses, ∀ n < ws.length, ws[n]? = some ' ' →
      ws.take n = "NOT".toList ∨ ws.take n = "DEFAULT".toList := by decide +kernel
  have := hspaces ws hws cs.length (by simp [h]) (by simp [h])
  rwa [h, List.take_left] at this

/-- No clause starts in a solid text, whatever follows behind a space. -/
theorem afterClause?_append_of_solid {cs rest : List Char} (hne : cs ≠ [])
    (hnull : hasNull false cs = false) (hnot : ¬ "NOT".toList <:+ cs)
    (hdefault : ¬ "DEFAULT".toList <:+ cs) (hrest : Breaks rest) :
    afterClause? (cs ++ rest) = none := by
  refine Option.eq_none_iff_forall_ne_some.mpr fun after hafter => ?_
  obtain ⟨ws, hws, hwords⟩ := List.exists_of_findSome?_eq_some hafter
  obtain ⟨heq, hboundary⟩ := afterWords?_eq_some.mp hwords
  rcases List.append_eq_append_iff.mp heq with ⟨a, rfl, rfl⟩ | ⟨a, rfl, rfl⟩
  · -- the clause ends behind the text, so the text is the word in front of its space
    cases a with
    | nil =>
      rw [List.append_nil] at hws
      have : hasNull false (cs ++ []) = true := hasNull_of_clause hws rfl
      rw [List.append_nil, hnull] at this
      cases this
    | cons c a =>
      obtain rfl : c = ' ' := hrest
      rcases eq_of_clause_append_space hws rfl with rfl | rfl
      · exact hnot List.suffix_rfl
      · exact hdefault List.suffix_rfl
  · -- the clause ends in the text
    rw [hrest.atBoundary_append] at hboundary
    rw [hasNull_of_clause hws hboundary] at hnull
    cases hnull

/-- What has no clause in it, and begins none, is kept in front of a break. -/
theorem removeClauses_append_of_solid {cs rest : List Char} {inWord : Bool}
    (hnull : hasNull inWord cs = false) (hnot : ¬ "NOT".toList <:+ cs)
    (hdefault : ¬ "DEFAULT".toList <:+ cs) (hrest : Breaks rest) :
    removeClauses inWord (cs ++ rest) = cs ++ removeClauses false rest := by
  induction cs generalizing inWord with
  | nil => exact hrest.removeClauses inWord
  | cons c cs ih =>
    -- a rest of a solid text is solid too
    have hnull' : hasNull (isWordChar c) cs = false := by
      rw [hasNull, Bool.or_eq_false_iff] at hnull
      exact hnull.2
    have ih := ih hnull' (fun h => hnot (h.trans (List.suffix_cons c cs)))
      (fun h => hdefault (h.trans (List.suffix_cons c cs)))
    rw [List.cons_append, removeClauses.eq_def]
    cases inWord with
    | true => simp [ih]
    | false =>
      have hnone := afterClause?_append_of_solid (List.cons_ne_nil c cs) hnull hnot hdefault hrest
      simp only [Bool.false_eq_true, if_false]
      split
      · next h => simp [List.cons_append, h] at hnone
      · rw [ih, List.cons_append]

namespace IsSolid

variable {cs : List Char} (h : IsSolid cs)

include h

/-- A solid text stays, and what follows is cleaned by itself. -/
theorem cleaned_append {rest : List Char} (hrest : Breaks rest) :
    cleaned (cs ++ rest) = cs ++ cleaned rest := by
  obtain ⟨c, hc, hblank⟩ := h.ends
  obtain ⟨before, hlast⟩ := List.getLast?_eq_some_iff.mp hc
  -- behind its last character, which is no blank, collapsing starts afresh
  obtain ⟨b, hb⟩ := collapseFrom_append hblank false before
  have hself : b ++ [c] = cs := by
    have := hb []
    rw [← hlast] at this
    exact this.symm.trans h.no_run
  rw [cleaned, removeClauses_append_of_solid h.no_null h.not_not h.not_default hrest,
    collapseBlanks, hlast, List.append_assoc, List.singleton_append, hb, ← hlast, ← hself]
  simp [cleaned, collapseBlanks]

/-- What is solid is kept in front of a break. -/
theorem kept_append {rest : List Char} (hrest : Breaks rest) :
    kept (cs ++ rest) = cs ++ kept rest := by
  have hclean := h.cleaned_append hrest.head_ofChars
  rw [kept, Pieces.ofChars_of_no_quote h.no_quote]
  simp [kept, Pieces.mapOutside, Pieces.toList, hclean]

end IsSolid

/-! ## The words of a solid text -/

/-- No blank is in a word. -/
theorem isWordChar_of_isBlank {c : Char} (h : isBlank c = true) : isWordChar c = false := by
  unfold isWordChar
  split
  · next hlt =>
    have hbasic : ∀ n < 128, blankRanges.contains n = true →
        ((Char.ofNat n).isAlphanum || decide (Char.ofNat n = '_')) = false := by decide +kernel
    have := hbasic c.toNat hlt h
    rwa [Char.ofNat_toNat] at this
  · exact CodeRanges.contains_of_apart (by decide +kernel) h

/-- A word stays when it is not the word NULL and begins no clause with the word behind it. -/
theorem withoutClauses_cons {s : String} {ws : List String} (hs : s ≠ "NULL")
    (hnext : ws.head? = some "NULL" → s ≠ "NOT" ∧ s ≠ "DEFAULT") :
    withoutClauses (s :: ws) = s :: withoutClauses ws := by
  rw [withoutClauses.eq_def]
  split
  · next h => cases h; simp at hnext
  · next h => cases h; simp at hnext
  · next h => cases h; simp at hs
  · next h => cases h; rfl
  · next h => cases h

/-- The word in front of a boundary is not NULL where NULL is not found. -/
theorem ofList_ne_null {w rest : List Char} (hnull : hasNull false (w ++ rest) = false)
    (hboundary : atBoundary rest = true) : String.ofList w ≠ "NULL" := by
  intro h
  have hw : w = "NULL".toList := by rw [← h, String.toList_ofList]
  rw [hw, hasNull_of_afterWords? (afterWords?_eq_some.mpr ⟨rfl, hboundary⟩)] at hnull
  cases hnull

/-- A word is not one that the text does not end with. -/
theorem ofList_ne {w : List Char} {s : String} (h : ¬ s.toList <:+ w) : String.ofList w ≠ s := by
  rintro rfl
  rw [String.toList_ofList] at h
  exact h List.suffix_rfl

/-- The word at the end stands behind every blank. -/
theorem EndsWord.of_append {b : Char} (hb : isBlank b = true) {cs rest : List Char}
    (h : EndsWord (cs ++ b :: rest)) : EndsWord rest := by
  obtain ⟨c, hc, hblank⟩ := h
  rw [List.getLast?_append, List.getLast?_cons] at hc
  cases hrest : rest.getLast? with
  | none =>
    obtain rfl : b = c := by simpa [hrest] using hc
    rw [hb] at hblank
    cases hblank
  | some d =>
    obtain rfl : d = c := by simpa [hrest] using hc
    exact ⟨d, hrest, hblank⟩

/-- Of a text without the word NULL that does not end in a word that begins a clause, all words
stay, whatever words follow. -/
theorem withoutClauses_words_append {cs : List Char} (hnull : hasNull false cs = false)
    (hends : EndsWord cs) (hnot : ¬ "NOT".toList <:+ cs) (hdefault : ¬ "DEFAULT".toList <:+ cs) :
    words cs ≠ [] ∧ (words cs).head? ≠ some "NULL" ∧
      ∀ ws, withoutClauses (words cs ++ ws) = words cs ++ withoutClauses ws := by
  -- the first word goes with the blank behind it, so the induction is on the length
  induction hn : cs.length using Nat.strongRecOn generalizing cs with
  | ind n ih =>
    have hsplit := List.takeWhile_append_dropWhile (p := fun c => !isBlank c) (l := cs)
    have hword : ∀ c ∈ cs.takeWhile fun c => !isBlank c, isBlank c = false := fun c hc => by
      simpa using List.mem_takeWhile_imp hc
    generalize cs.takeWhile (fun c => !isBlank c) = w at hsplit hword
    cases hrest : cs.dropWhile fun c => !isBlank c with
    | nil =>
      -- the text is a single word
      rw [hrest, List.append_nil] at hsplit
      subst hsplit
      have hs : String.ofList w ≠ "NULL" := by
        rw [← List.append_nil w] at hnull
        exact ofList_ne_null hnull rfl
      rw [words_of_no_blank hword hends.ne_nil]
      exact ⟨by simp, by simpa using hs, fun ws =>
        withoutClauses_cons hs fun _ => ⟨ofList_ne hnot, ofList_ne hdefault⟩⟩
    | cons b rest =>
      -- the first word ends at a blank
      have hb : isBlank b = true := by
        have := List.head_dropWhile_not (fun c => !isBlank c) (l := cs) (by simp [hrest])
        simpa [hrest] using this
      rw [hrest] at hsplit
      subst hsplit
      have hnull' : hasNull false rest = false := by
        refine Bool.eq_false_iff.mpr fun h => ?_
        rw [hasNull_behind (isWordChar_of_isBlank hb) h] at hnull
        cases hnull
      have hsuffix : rest <:+ w ++ b :: rest := ⟨w ++ [b], by simp⟩
      obtain ⟨hne, hhead, happend⟩ := ih rest.length (by simp at hn; omega) hnull'
        (hends.of_append hb) (fun h => hnot (h.trans hsuffix))
        (fun h => hdefault (h.trans hsuffix)) rfl
      rw [words_append_blank hb]
      by_cases hw : w = []
      · subst hw
        simpa using ⟨hne, hhead, happend⟩
      have hs : String.ofList w ≠ "NULL" :=
        ofList_ne_null hnull (by simp [atBoundary, isWordChar_of_isBlank hb])
      -- the word behind the first one is not NULL
      have hnext : ∀ ws, (words rest ++ ws).head? ≠ some "NULL" := by
        obtain ⟨first, others, hfirst⟩ := List.exists_cons_of_ne_nil hne
        simpa [hfirst] using hhead
      rw [words_of_no_blank hword hw]
      refine ⟨by simp, by simpa using hs, fun ws => ?_⟩
      rw [List.append_assoc, List.singleton_append,
        withoutClauses_cons hs fun h => absurd h (hnext ws), happend]
      simp

end Querysmith.Nullability
