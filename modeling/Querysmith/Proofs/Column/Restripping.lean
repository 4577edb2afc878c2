import Querysmith.Proofs.Column.Cleaned
import Querysmith.Proofs.Table.Definitions

/-!
# Stripping a definition again

Stripping leaves the texts between literals clean, and the result has no others when it is read
again, also where its quotes do not match or its literals touch. A clause that is put behind it is
all that the next stripping takes out.

## Key results

- `isClean_of_mem_outside_strip`: reading a stripped definition again finds nothing to strip
- `kept_append_notNull`: the clause behind such a definition is taken out, and nothing else
- `BlueprintCall.runAll_notNull_notNull`: a column that is made not null twice has the definition
  that it had the first time
-/

namespace Querysmith

open Text

namespace Nullability

/-! ## Ends -/

/-- The blanks at both ends of a text. -/
theorem exists_eq_append_trimBlanks (cs : List Char) :
    ∃ a b, cs = a ++ (trimBlanks cs ++ b) ∧ (∀ c ∈ a, isBlank c = true) ∧
      ∀ c ∈ b, isBlank c = true := by
  refine ⟨cs.takeWhile isBlank, ((cs.dropWhile isBlank).reverse.takeWhile isBlank).reverse, ?_,
    fun c hc => List.mem_takeWhile_imp hc,
    fun c hc => List.mem_takeWhile_imp (List.mem_reverse.mp hc)⟩
  rw [trimBlanks, ← List.reverse_append, List.takeWhile_append_dropWhile, List.reverse_reverse,
    List.takeWhile_append_dropWhile]

/-- There is no quote among blanks. -/
theorem no_quote_of_blanks {cs : List Char} (h : ∀ c ∈ cs, isBlank c = true) :
    stringQuote ∉ cs := fun hmem => ne_quote_of_isBlank (h _ hmem) rfl

/-- A text without blanks at its end can be followed by another word. -/
theorem endsWord_trimBlanks {cs : List Char} (hne : trimBlanks cs ≠ []) :
    EndsWord (trimBlanks cs) := by
  rw [trimBlanks] at hne ⊢
  rw [EndsWord, List.getLast?_reverse]
  cases hrev : (cs.dropWhile isBlank).reverse.dropWhile isBlank with
  | nil => exact absurd (by rw [hrev, List.reverse_nil]) hne
  | cons c rest =>
    have hc :=
      List.head_dropWhile_not isBlank (l := (cs.dropWhile isBlank).reverse) (by simp [hrev])
    exact ⟨c, rfl, by simpa [hrev] using hc⟩

/-- A space behind a trimmed text is trimmed, and nothing else. -/
theorem trimBlanks_append_space (cs : List Char) :
    trimBlanks (trimBlanks cs ++ [' ']) = trimBlanks cs := by
  have hspace : trimEnd [' '] = [] := by simp [trimEnd, isBlank_space]
  -- either there are blanks only, or the text starts at the first other character
  cases hfront : cs.dropWhile isBlank with
  | nil => simp [trimBlanks, hfront, isBlank_space]
  | cons c rest =>
    have hc : isBlank c = false := by
      simpa [hfront] using List.head_dropWhile_not isBlank (l := cs) (by simp [hfront])
    have hends : EndsWord [c] := ⟨c, rfl, hc⟩
    have htrim : trimBlanks cs = c :: trimEnd rest := by
      rw [trimBlanks, hfront]
      exact trimEnd_append hends rest
    -- the trimmed text does not end with a blank, so that the space is all there is to trim
    have hword : EndsWord (c :: trimEnd rest) := by
      rw [← htrim]
      exact endsWord_trimBlanks (by simp [htrim])
    rw [htrim, List.cons_append, trimBlanks_cons hc, ← List.cons_append, trimEnd_append hword,
      hspace, List.append_nil]

/-- Stripping keeps the pieces outside of the clauses and trims the whole. -/
theorem toList_strip (definition : String) :
    (strip definition).toList = trimBlanks (kept definition.toList) := by
  rw [strip, String.toList_ofList]
  rfl

/-- Reading a stripped definition again finds nothing to strip. -/
theorem isClean_of_mem_outside_strip (definition : String) :
    ∀ s ∈ (Pieces.ofChars (strip definition).toList).outside, IsClean s := by
  obtain ⟨a, b, heq, ha, hb⟩ := exists_eq_append_trimBlanks (kept definition.toList)
  rw [toList_strip]
  -- the blanks that are trimmed off belong to the first and the last piece
  refine Pieces.forall_outside_of_append (no_quote_of_blanks ha) (no_quote_of_blanks hb)
    (fun s => IsClean.of_blanks_append ha) (fun s => IsClean.of_append_blanks hb) ?_
  rw [← heq]
  intro s hs
  -- what is left of the pieces is split as it was, or into parts of it
  have hpieces := (isPieces_ofChars definition.toList).mapOutside quotes_cleaned
  have hmem := hpieces.outside_ofChars_subset hs
  rw [Pieces.outside_mapOutside, List.mem_map] at hmem
  obtain ⟨r, -, rfl⟩ := hmem
  exact isClean_cleaned r

/-! ## The clause behind -/

/-- In front of the space of a clause, NULL stands behind it. -/
theorem eq_null_of_clause_append_space {cs rest ws : List Char} (hws : ws ∈ clauses)
    (h : ws = cs ++ ' ' :: rest) : rest = "NULL".toList := by
  have hspaces : ∀ ws ∈ clauses, ∀ n < ws.length, ws[n]? = some ' ' →
      ws.drop (n + 1) = "NULL".toList := by decide +kernel
  have := hspaces ws hws cs.length (by simp [h]) (by simp [h])
  simpa [h] using this

/-- No clause starts in a text without the word NULL, when NOT NULL follows. -/
theorem afterClause?_append_notNull {cs : List Char} (hne : cs ≠ [])
    (hnull : hasNull false cs = false) : afterClause? (cs ++ " NOT NULL".toList) = none := by
  have hbreaks : Breaks " NOT NULL".toList := rfl
  refine Option.eq_none_iff_forall_ne_some.mpr fun after hafter => ?_
  obtain ⟨ws, hws, hwords⟩ := List.exists_of_findSome?_eq_some hafter
  obtain ⟨heq, hboundary⟩ := afterWords?_eq_some.mp hwords
  rcases List.append_eq_append_iff.mp heq with ⟨a, rfl, ha⟩ | ⟨a, rfl, rfl⟩
  · cases a with
    | nil =>
      rw [List.append_nil] at hws
      have hself := hasNull_of_clause hws (rfl : atBoundary [] = true)
      rw [List.append_nil, hnull] at hself
      cases hself
    | cons c a =>
      -- the clause would end in NULL where NOT stands
      obtain rfl : ' ' = c := (List.cons.inj ha).1
      rw [eq_null_of_clause_append_space hws rfl] at ha
      cases ha
  · rw [hbreaks.atBoundary_append] at hboundary
    rw [hasNull_of_clause hws hboundary] at hnull
    cases hnull

/-- The clause that the modifier puts behind is taken out again, but for a blank. -/
theorem removeClauses_append_notNull {inWord : Bool} {cs : List Char}
    (hnull : hasNull inWord cs = false) :
    removeClauses inWord (cs ++ " NOT NULL".toList) = cs ++ [' '] := by
  have hbreaks : Breaks " NOT NULL".toList := rfl
  -- the clause is taken out where the text ends, and none is found before
  induction cs generalizing inWord with
  | nil =>
    have hclause : afterClause? "NOT NULL".toList = some [] := rfl
    have hlist : " NOT NULL".toList = ' ' :: "NOT NULL".toList := rfl
    rw [List.nil_append, hbreaks.removeClauses, hlist, removeClauses_space,
      removeClauses_of_afterClause? hclause, removeClauses]
    rfl
  | cons c cs ih =>
    have hcs : hasNull (isWordChar c) cs = false := by
      rw [hasNull, Bool.or_eq_false_iff] at hnull
      exact hnull.2
    rw [List.cons_append]
    cases inWord with
    | true => rw [removeClauses_true_cons, ih hcs, List.cons_append]
    | false =>
      have hnone : afterClause? (c :: (cs ++ " NOT NULL".toList)) = none :=
        afterClause?_append_notNull (List.cons_ne_nil c cs) hnull
      rw [removeClauses_of_afterClause?_eq_none hnone, ih hcs, List.cons_append]

/-- The clause behind a clean text is taken out, and a space stays. -/
theorem IsClean.cleaned_append_notNull {cs : List Char} (h : IsClean cs)
    (hends : cs ≠ [] → EndsWord cs) : cleaned (cs ++ " NOT NULL".toList) = cs ++ [' '] := by
  have hrun : NoRuns (cs ++ [' ']) := by
    refine List.isChain_append.mpr ⟨h.no_run, List.isChain_singleton _, fun c hc d _ => ?_⟩
    have hne : cs ≠ [] := by
      rintro rfl
      cases hc
    obtain ⟨last, hlast, hblank⟩ := hends hne
    obtain rfl : last = c := Option.some.inj (hlast.symm.trans hc)
    simp [hblank]
  rw [cleaned, removeClauses_append_notNull h.no_null, collapseBlanks_of_noRuns hrun]

/-- The clause behind a definition that has nothing to strip is taken out, and nothing else. -/
theorem kept_append_notNull {cs : List Char} (h : ∀ s ∈ (Pieces.ofChars cs).outside, IsClean s)
    (hends : cs ≠ [] → EndsWord cs) : kept (cs ++ " NOT NULL".toList) = cs ++ [' '] := by
  have hquote : stringQuote ∉ " NOT NULL".toList := by decide +kernel
  -- what stands behind the last literal ends where the definition does
  have hlast : (Pieces.ofChars cs).last ≠ [] → EndsWord (Pieces.ofChars cs).last := by
    intro hne
    obtain ⟨a, ha⟩ := (Pieces.ofChars cs).exists_toList_eq_append_last
    rw [Pieces.toList_ofChars] at ha
    obtain ⟨c, hc, hblank⟩ := hends fun hnil => hne (List.append_eq_nil_iff.mp (ha ▸ hnil)).2
    rw [ha, List.getLast?_append_of_ne_nil _ hne] at hc
    exact ⟨c, hc, hblank⟩
  have hclean := (h _ (Pieces.ofChars cs).last_mem_outside).cleaned_append_notNull hlast
  have hnil : IsClean [] := ⟨rfl, List.isChain_nil⟩
  have hclause : cleaned " NOT NULL".toList = [' '] :=
    hnil.cleaned_append_notNull fun hne => absurd rfl hne
  have hself : (Pieces.ofChars cs).mapOutside cleaned = Pieces.ofChars cs :=
    Pieces.mapOutside_eq_self fun s hs => (h s hs).cleaned_eq
  rw [kept, Pieces.ofChars_append_of_no_quote hquote, Pieces.mapOutside_append, hself,
    Pieces.toList_append, Pieces.toList_ofChars]
  · simp only [Pieces.mapOutside, Pieces.toList, hclause, List.map_nil, List.flatMap_nil,
      List.append_nil]
  · rw [hclean, hclause, (h _ (Pieces.ofChars cs).last_mem_outside).cleaned_eq]

/-- A definition that was stripped and got the clause back is stripped to what it was. -/
theorem strip_append_notNull (definition : String) :
    strip (strip definition ++ " NOT NULL") = strip definition := by
  have hends : (strip definition).toList ≠ [] → EndsWord (strip definition).toList := by
    rw [toList_strip]
    exact endsWord_trimBlanks
  have hkept := kept_append_notNull (isClean_of_mem_outside_strip definition) hends
  rw [← String.toList_inj, toList_strip, String.toList_append, hkept, toList_strip,
    trimBlanks_append_space]

end Nullability

/-- Setting a definition twice is setting it once. -/
theorem Definitions.edit_edit (ds : Definitions) (key definition : String) :
    (ds.edit key fun _ => definition).edit key (fun _ => definition) =
      ds.edit key fun _ => definition := by
  rw [edit, edit, List.map_map]
  refine List.map_congr_left fun d _ => ?_
  by_cases hd : d.1 = key <;> simp [hd]

namespace BlueprintCall

open Blueprint

/-! ## Columns that are not null -/

/-- A modifier that succeeds edits the definition of the target. -/
theorem run_editTarget_of_get? {b : Blueprint} {key definition edited : String} {m : Modifier}
    (htarget : b.target = some key) (hget : b.definitions.get? key = some definition)
    (hm : m.apply definition = .ok edited) :
    (editTarget m).run b = .ok .itself (b.edit key fun _ => edited) := by
  have heditable : b.editable? = some key := by simp [editable?, htarget, hget]
  have happly : applyModifier m b = .ok () (b.edit key fun _ => edited) := by
    rw [applyModifier, EStateM.get_bind]
    simp only [heditable, hget, hm]
    rfl
  exact EStateM.bind_of_ok happly _

/-- Whatever the definition of the column, with unmatched quotes, literals that touch, words of a
clause left over and blanks of any kind: the modifier leaves the same blueprint when it is called
twice as when it is called once. What it takes out of its own result is what it has put there. -/
theorem runAll_notNull_notNull {b : Blueprint} {key definition : String}
    (htarget : b.target = some key) (hget : b.definitions.get? key = some definition) :
    Nullability.strip (Nullability.strip definition ++ " NOT NULL") =
        Nullability.strip definition ∧
      ∃ c, runAll [editTarget .notNull] b = .ok () c ∧
        runAll [editTarget .notNull, editTarget .notNull] b = .ok () c ∧
        c.definitions.get? key = some (Nullability.strip definition ++ " NOT NULL") := by
  have hstrip := Nullability.strip_append_notNull definition
  have hedited := Definitions.get?_edit b.definitions key key
    fun _ => Nullability.strip definition ++ " NOT NULL"
  rw [if_pos rfl, hget] at hedited
  -- the second modifier edits the definition that the first one has left
  have hfirst := run_editTarget_of_get? htarget hget (m := .notNull) rfl
  have hsecond := run_editTarget_of_get? (m := .notNull)
    (b := b.edit key fun _ => Nullability.strip definition ++ " NOT NULL") htarget hedited rfl
  -- stripping takes away what the first modifier added, and it is added again
  rw [hstrip, Blueprint.edit, Blueprint.edit, Definitions.edit_edit] at hsecond
  have hthen : ∀ {c d : Blueprint} (calls : List BlueprintCall),
      (editTarget .notNull).run c = .ok .itself d →
      runAll (editTarget .notNull :: calls) c = runAll calls d :=
    fun calls h => EStateM.bind_of_ok h _
  refine ⟨hstrip, _, hthen [] hfirst, ?_, hedited⟩
  rw [hthen _ hfirst]
  exact hthen [] hsecond

/-- Two literals that touch once the word between them is gone, and a quote left over. -/
theorem runAll_notNull_notNull_quotes :
    let b : Blueprint := (({ table := .str "t" } : Blueprint).define "a"
      "'a'NULL'b'  DEFAULT\tNOT 'NULL'' NULL' NULL it's NULL").aim "a"
    b.target = some "a" ∧
      b.definitions.get? "a" = some "'a'NULL'b'  DEFAULT\tNOT 'NULL'' NULL' NULL it's NULL" ∧
      ∃ c, runAll [editTarget .notNull] b = .ok () c ∧
        runAll [editTarget .notNull, editTarget .notNull] b = .ok () c ∧
        c.definitions.get? "a" =
          some "'a''b' DEFAULT\tNOT 'NULL'' NULL' it's NOT NULL" := by
  intro b
  have htarget : b.target = some "a" := rfl
  have hget : b.definitions.get? "a" =
      some "'a'NULL'b'  DEFAULT\tNOT 'NULL'' NULL' NULL it's NULL" := rfl
  obtain ⟨-, c, honce, htwice, hedited⟩ := runAll_notNull_notNull htarget hget
  refine ⟨htarget, hget, c, honce, htwice, ?_⟩
  rw [hedited]
  decide +kernel

end BlueprintCall

end Querysmith
