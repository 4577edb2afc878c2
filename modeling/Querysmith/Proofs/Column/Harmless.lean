import Mathlib.Data.List.Chain
import Querysmith.Proofs.Column.Shedding
import Querysmith.Proofs.Column.Tail

/-!
# Names that stripping does not touch

A name without quotes, without the word NULL and without runs of blanks is left alone when the
nullability clauses are taken out of a definition. Quoting it makes neither of them: the delimiter
of names, which stands around the name and doubled inside it, is no quote, no blank, and no part
of a word.

## Main definitions

- `NoRuns`: no two blanks stand side by side
- `IsHarmless`: a name without quotes, the word NULL, and runs of blanks

## Key results

- `collapseBlanks_of_noRuns`: without runs there is nothing to collapse
- `hasNull_doubled`: doubling the delimiter makes no word
- `IsHarmless.isSolid`: a quoted name is solid, also behind a fixed text
-/

namespace Querysmith.Nullability

open Text

/-! ## Runs of blanks -/

/-- No two blanks stand side by side. -/
def NoRuns (cs : List Char) : Prop :=
  cs.IsChain fun c d => ¬ (isBlank c = true ∧ isBlank d = true)

instance : DecidablePred NoRuns := fun cs =>
  inferInstanceAs (Decidable (cs.IsChain fun c d => ¬ (isBlank c = true ∧ isBlank d = true)))

/-- Without runs of blanks there is nothing to collapse. -/
theorem collapseFrom_of_noRuns {cs : List Char} (h : NoRuns cs) {inRun : Bool}
    (hrun : inRun = true → startsBlank cs = false) : collapseFrom inRun cs = cs := by
  induction cs generalizing inRun with
  | nil => rfl
  | cons c cs ih =>
    obtain ⟨hnext, hcs⟩ := List.isChain_cons.mp h
    -- behind a blank stands no other one
    have hstarts : isBlank c = true → startsBlank cs = false := by
      intro hc
      cases cs with
      | nil => rfl
      | cons d cs => simpa [startsBlank, hc] using hnext d rfl
    rw [collapseFrom]
    cases hc : isBlank c with
    | true =>
      have hfirst : inRun = false := by simpa [startsBlank, hc] using hrun
      simp [hfirst, hstarts hc, ih hcs fun _ => hstarts hc]
    | false =>
      have hrest : collapseFrom false cs = cs := ih hcs (by simp)
      simp [hrest]

/-- Without runs there is nothing to collapse. -/
theorem collapseBlanks_of_noRuns {cs : List Char} (h : NoRuns cs) : collapseBlanks cs = cs :=
  collapseFrom_of_noRuns h (by simp)

/-- Doubling delimiters keeps the first character. -/
theorem head?_doubled (delimiter : Char) (cs : List Char) :
    (doubled delimiter cs).head? = cs.head? := by
  cases cs with
  | nil => rfl
  | cons c cs =>
    rw [doubled]
    split
    · next h => simp [h]
    · rfl

/-- Doubling a delimiter that is no blank makes no runs. -/
theorem NoRuns.doubled {delimiter : Char} (hdelimiter : isBlank delimiter = false)
    {cs : List Char} (h : NoRuns cs) : NoRuns (doubled delimiter cs) := by
  induction cs with
  | nil => exact List.isChain_nil
  | cons c cs ih =>
    obtain ⟨hnext, hcs⟩ := List.isChain_cons.mp h
    rw [Text.doubled]
    split
    · exact List.isChain_cons.mpr ⟨by simp [hdelimiter],
        List.isChain_cons.mpr ⟨by simp [hdelimiter], ih hcs⟩⟩
    · exact List.isChain_cons.mpr ⟨by rwa [head?_doubled], ih hcs⟩

/-- A delimiter that is no blank makes no run with what is in front of it. -/
theorem NoRuns.append_cons {d : Char} (hd : isBlank d = false) {cs rest : List Char}
    (hcs : NoRuns cs) (hrest : NoRuns rest) : NoRuns (cs ++ d :: rest) := by
  refine List.isChain_append.mpr ⟨hcs, List.isChain_cons.mpr ⟨by simp [hd], hrest⟩, ?_⟩
  simp [hd]

/-! ## The word -/

/-- Words are read character by character. -/
theorem afterWords?_cons (w c : Char) (ws cs : List Char) :
    afterWords? (w :: ws) (c :: cs) = if w = c then afterWords? ws cs else none := by
  simp only [afterWords?, dropPrefix?]
  split <;> simp_all

/-- Words that do not have the delimiter stand in front of a text as they do in front of the text
with the delimiter doubled. -/
theorem isSome_afterWords?_doubled {ws : List Char} (hws : nameQuote ∉ ws) (cs : List Char) :
    (afterWords? ws (doubled nameQuote cs ++ [nameQuote])).isSome = (afterWords? ws cs).isSome := by
  induction ws generalizing cs with
  | nil =>
    -- a delimiter is no part of a word, so that doubling it makes no difference here
    have hboundary : atBoundary (doubled nameQuote cs ++ [nameQuote]) = atBoundary cs := by
      cases cs with
      | nil => rfl
      | cons c cs =>
        rw [doubled]
        split
        · next h => rw [h]; rfl
        · rfl
    simp only [afterWords?, dropPrefix?, hboundary]
    split <;> rfl
  | cons w ws ih =>
    have hw : ¬ w = nameQuote := fun h => hws (by simp [h])
    cases cs with
    | nil => simp [doubled, afterWords?, dropPrefix?, hw]
    | cons c cs =>
      rw [doubled]
      by_cases hc : c = nameQuote
      · -- neither the delimiter nor its double is in the words
        rw [if_pos hc, List.cons_append, afterWords?_cons, afterWords?_cons, if_neg hw,
          if_neg (by rwa [hc])]
      · rw [if_neg hc, List.cons_append, afterWords?_cons, afterWords?_cons]
        split
        · exact ih (fun h => hws (List.mem_cons_of_mem w h)) cs
        · rfl

/-- Doubling the delimiter makes no word. -/
theorem hasNull_doubled (inWord : Bool) (cs : List Char) :
    hasNull inWord (doubled nameQuote cs ++ [nameQuote]) = hasNull inWord cs := by
  have hnone : ∀ rest, afterWords? "NULL".toList (nameQuote :: rest) = none := fun _ => rfl
  induction cs generalizing inWord with
  | nil => cases inWord <;> rfl
  | cons c cs ih =>
    have hsome := isSome_afterWords?_doubled (by decide : nameQuote ∉ "NULL".toList) (c :: cs)
    rw [doubled] at hsome ⊢
    by_cases hc : c = nameQuote
    · subst hc
      -- no word starts at the delimiter, and one may start behind its double as behind it
      rw [if_pos rfl, List.cons_append, List.cons_append, hasNull, hasNull, hnone, hnone, hasNull,
        hnone, isWordChar_nameQuote, ih]
      simp
    · rw [if_neg hc, List.cons_append] at hsome ⊢
      rw [hasNull, hasNull, hsome, ih]

/-! ## Names -/

/-- A name without quotes, without the word NULL and without runs of blanks. -/
structure IsHarmless (name : String) : Prop where
  no_quote : stringQuote ∉ name.toList
  no_null : hasNull false name.toList = false
  no_run : NoRuns name.toList

instance : DecidablePred IsHarmless := fun name =>
  decidable_of_iff (stringQuote ∉ name.toList ∧ hasNull false name.toList = false ∧
      NoRuns name.toList)
    ⟨fun ⟨hquote, hnull, hrun⟩ => ⟨hquote, hnull, hrun⟩, fun h => ⟨h.no_quote, h.no_null, h.no_run⟩⟩

/-- Doubling delimiters brings in no other character. -/
theorem mem_doubled {d delimiter : Char} {cs : List Char} (h : d ∈ doubled delimiter cs) :
    d ∈ cs := by
  induction cs with
  | nil => exact h
  | cons c cs ih =>
    rw [doubled] at h
    rw [List.mem_cons]
    -- only the delimiter is written twice
    split at h
    · next hc =>
      subst hc
      rcases List.mem_cons.mp h with hd | h
      · exact .inl hd
      · exact (List.mem_cons.mp h).imp_right ih
    · exact (List.mem_cons.mp h).imp_right ih

/-- A quoted name is solid, also behind a fixed text. -/
theorem IsHarmless.isSolid {name : String} (h : IsHarmless name) (cs : List Char)
    (hquote : stringQuote ∉ cs) (hnull : hasNull false (cs ++ [nameQuote]) = false)
    (hrun : NoRuns cs) : IsSolid (cs ++ (quotedName name).toList) := by
  have hends : (quotedName name).toList.getLast? = some nameQuote := endsName_quotedName name
  -- the text ends with the quote of the name, hence with none of the words
  have hlast : ∀ words : List Char, words.getLast? = some 'T' →
      ¬ words <:+ cs ++ (quotedName name).toList := by
    rintro words hwords ⟨before, heq⟩
    have hget := congrArg List.getLast? heq
    simp [List.getLast?_append, hwords, hends, nameQuote] at hget
  -- no quotes, no NULL as a word, no runs of blanks
  refine ⟨?_, ?_, ?_, EndsWord.append ⟨nameQuote, hends, isBlank_nameQuote⟩ cs, hlast _ rfl,
    hlast _ rfl⟩ <;> rw [toList_quotedName]
  · have hdoubled : stringQuote ∉ doubled nameQuote name.toList := mt mem_doubled h.no_quote
    have hne : ¬ stringQuote = nameQuote := by decide
    simp [hquote, hne, hdoubled]
  · obtain ⟨found, hfound⟩ := hasNull_append false cs
    have hnone : found = false := by simpa [hasNull, hnull] using (hfound []).symm
    rw [hfound, hnone, hasNull_doubled, h.no_null, Bool.or_self]
  · exact collapseBlanks_of_noRuns (hrun.append_cons isBlank_nameQuote
      ((h.no_run.doubled isBlank_nameQuote).append_cons isBlank_nameQuote List.isChain_nil))

end Querysmith.Nullability
