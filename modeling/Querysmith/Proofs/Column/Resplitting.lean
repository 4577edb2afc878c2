import Querysmith.Proofs.Column.Separators

/-!
# Splitting an edited text again

An edit of the texts between literals can leave nothing between two of them. Their quotes then
meet, and when the result is split again both are read as one literal, whose end may be anywhere
further on. No text between literals is read that was not there, though: what the second splitting
finds between its literals the first one had found, and some of it is inside a literal now.

## Main definitions

- `IsPieces`: pieces that a text can be split into, with the texts between the literals edited

## Key results

- `isPieces_ofChars`, `IsPieces.mapOutside`: splitting makes such pieces, and edits keep them
- `IsPieces.outside_ofChars_subset`: splitting again finds no new text between literals
- `Pieces.forall_outside_of_append`: nor does cutting off both ends of a text
-/

namespace Querysmith.Text

/-- A text without quotes is one in which none is counted. -/
theorem quotes_eq_zero_iff {cs : List Char} : quotes cs = 0 ↔ stringQuote ∉ cs :=
  List.count_eq_zero

/-- Delimiters are doubled one by one. -/
theorem doubled_append (delimiter : Char) (cs ds : List Char) :
    doubled delimiter (cs ++ ds) = doubled delimiter cs ++ doubled delimiter ds := by
  induction cs with
  | nil => rfl
  | cons c cs ih =>
    rw [List.cons_append, doubled, doubled, ih]
    split <;> rfl

/-! ## Where a literal ends -/

/-- What stands in a literal is a text with its quotes doubled. -/
theorem exists_doubled_of_closeLiteral? {cs body after : List Char}
    (h : closeLiteral? cs = some (body, after)) : ∃ v, body = doubled stringQuote v := by
  fun_induction closeLiteral? cs generalizing body after with
  | case1 => cases h
  | case2 =>
    cases h
    exact ⟨[], rfl⟩
  | case3 rest' body' after' h' ih =>
    -- a quote that is written twice stands for one in the text
    cases h
    obtain ⟨v, rfl⟩ := ih h'
    exact ⟨stringQuote :: v, by simp [doubled]⟩
  | case4 rest' h' ih =>
    cases h
    exact ⟨[], rfl⟩
  | case5 d rest' hd =>
    cases h
    exact ⟨[], rfl⟩
  | case6 c rest hc ih =>
    obtain ⟨⟨body', after'⟩, h', heq⟩ := Option.map_eq_some_iff.mp h
    cases heq
    obtain ⟨v, rfl⟩ := ih h'
    exact ⟨c :: v, by simp [doubled, hc]⟩

/-- The last quote of a text opens no literal, so it is not the partner of the one before. -/
theorem closeLiteral?_doubled_quote (v : List Char) {rest : List Char}
    (hrest : stringQuote ∉ rest) :
    closeLiteral? (doubled stringQuote v ++ stringQuote :: stringQuote :: rest) =
      some (doubled stringQuote v, stringQuote :: rest) := by
  induction v with
  | nil => simp [doubled, closeLiteral?, closeLiteral?_eq_none_iff.mpr hrest]
  | cons c v ih =>
    by_cases hc : c = stringQuote
    · subst hc
      simp [doubled, closeLiteral?, ih]
    · rw [doubled, if_neg hc, List.cons_append, closeLiteral?.eq_def]
      simp [hc, ih]

/-- A text without quotes behind another one changes no literal. -/
theorem closeLiteral?_append_of_no_quote {u : List Char} (hu : stringQuote ∉ u) (cs : List Char) :
    closeLiteral? (cs ++ u) =
      (closeLiteral? cs).map fun (body, after) => (body, after ++ u) := by
  fun_induction closeLiteral? cs with
  | case1 => simpa using closeLiteral?_eq_none_iff.mpr hu
  -- a quote at the end of the text still closes, as no other follows it
  | case2 =>
    have hhead : u.head? ≠ some stringQuote := fun h => hu (List.mem_of_head? h)
    exact closeLiteral?_of_no_quote List.not_mem_nil hhead
  | case3 rest' body after h ih => simp [closeLiteral?, ih, h]
  | case4 rest' h ih => simp [closeLiteral?, ih, h]
  | case5 d rest' hd => simp [closeLiteral?, hd]
  | case6 c rest hc ih =>
    rw [List.cons_append, closeLiteral?.eq_def]
    simp only [hc, if_false, ih, Option.map_map]
    rfl

namespace Pieces

/-- A literal that is closed is cut out whole. -/
theorem ofChars_of_closeLiteral? {rest body after : List Char}
    (h : closeLiteral? rest = some (body, after)) :
    ofChars (stringQuote :: rest) =
      (ofChars after).pushLiteral (stringQuote :: (body ++ [stringQuote])) := by
  rw [ofChars, if_pos rfl]
  -- the scanner asks in the same place where the literal closes
  split
  · next body' after' h' =>
    rw [h] at h'
    cases h'
    rfl
  · next h' =>
    rw [h] at h'
    cases h'

/-- A text with one quote at most is one piece. -/
theorem ofChars_of_quotes_le_one {cs : List Char} (h : quotes cs ≤ 1) : ofChars cs = ⟨cs, []⟩ := by
  induction cs with
  | nil => simp [ofChars]
  | cons c cs ih =>
    by_cases hc : c = stringQuote
    · subst hc
      have hcs : quotes cs = 0 := by simpa using h
      exact ofChars_quote (quotes_eq_zero_iff.mp hcs)
    · rw [ofChars, if_neg hc, ih (by simpa [hc] using h)]
      rfl

/-- A text without quotes behind another one joins its last piece. -/
theorem ofChars_append_of_no_quote {u : List Char} (hu : stringQuote ∉ u) (cs : List Char) :
    ofChars (cs ++ u) = (ofChars cs).append ⟨u, []⟩ := by
  fun_induction ofChars cs with
  | case1 => simpa using ofChars_eq_self hu
  -- a literal that was closed is closed in the same place
  | case2 rest body after h _ ih =>
    have happend : closeLiteral? (rest ++ u) = some (body, after ++ u) := by
      rw [closeLiteral?_append_of_no_quote hu, h]
      rfl
    rw [List.cons_append, ofChars_of_closeLiteral? happend, ih, pushLiteral_append]
  -- a quote that was never closed is not closed by a text without quotes
  | case3 rest h ih =>
    have hrest := closeLiteral?_eq_none_iff.mp h
    have happend : stringQuote ∉ rest ++ u := by simp [hrest, hu]
    rw [List.cons_append, ofChars_quote happend, ofChars_eq_self hrest]
    rfl
  | case4 c rest hc ih => rw [List.cons_append, ofChars, if_neg hc, ih, push_append]

/-- Changing what is outside of the literals changes every piece there. -/
theorem outside_mapOutside (f : List Char → List Char) (p : Pieces) :
    (p.mapOutside f).outside = p.outside.map f := by
  simp [mapOutside, outside]

/-- The last piece is one of those outside of the literals. -/
theorem last_mem_outside (p : Pieces) : p.last ∈ p.outside := by
  obtain ⟨head, tail⟩ := p
  induction tail generalizing head with
  | nil => exact List.mem_cons_self
  | cons piece rest ih => exact List.mem_cons_of_mem head (ih piece.2)

/-- What holds of the texts between literals, and of a text when it holds of one that is longer at
its end, holds without that end. -/
theorem forall_outside_of_append_last {P : List Char → Prop} {u : List Char}
    (hu : ∀ s, P (s ++ u) → P s) {p : Pieces} (h : ∀ s ∈ (p.append ⟨u, []⟩).outside, P s) :
    ∀ s ∈ p.outside, P s := by
  obtain ⟨head, tail⟩ := p
  -- only the last piece has grown, so the induction is on the pieces before it
  induction tail generalizing head with
  | nil =>
    have hhead : P head := hu head (h (head ++ u) (by simp [outside]))
    simpa [outside] using hhead
  | cons piece rest ih =>
    intro s hs
    rcases List.mem_cons.mp hs with rfl | hs
    · exact h _ (by simp [outside])
    · exact ih piece.2 (fun t ht => h t (List.mem_cons_of_mem _ ht)) s hs

/-- What holds of the texts between the literals of a text holds without both its ends, when these
have no quotes and can be cut off. -/
theorem forall_outside_of_append {P : List Char → Prop} {a b : List Char} (ha : stringQuote ∉ a)
    (hb : stringQuote ∉ b) (hPa : ∀ s, P (a ++ s) → P s) (hPb : ∀ s, P (s ++ b) → P s)
    {cs : List Char} (h : ∀ s ∈ (ofChars (a ++ (cs ++ b))).outside, P s) :
    ∀ s ∈ (ofChars cs).outside, P s := by
  rw [ofChars_of_no_quote ha, ofChars_append_of_no_quote hb] at h
  refine forall_outside_of_append_last hPb fun s hs => ?_
  rcases List.mem_cons.mp hs with rfl | hs
  · exact hPa _ (h _ (by simp [outside]))
  · exact h s (List.mem_cons_of_mem _ hs)

end Pieces

/-! ## Edited pieces -/

/-- Pieces that a text can be split into, with the texts between the literals edited: quotes stand
in the literals only, but for one behind the last of them. Nothing has to stand between two. -/
inductive IsPieces : Pieces → Prop
  | last {u : List Char} (hu : quotes u ≤ 1) : IsPieces ⟨u, []⟩
  | literal {u : List Char} {p : Pieces} (hu : stringQuote ∉ u) (v : String) (hp : IsPieces p) :
      IsPieces ⟨u, ((quotedString v).toList, p.head) :: p.tail⟩

/-- A character that is no quote may be put in front. -/
theorem IsPieces.push {p : Pieces} (h : IsPieces p) {c : Char} (hc : c ≠ stringQuote) :
    IsPieces (p.push c) := by
  cases h with
  | last hu => exact .last (by simpa [hc] using hu)
  | literal hu v hp => exact .literal (by simp [hu, Ne.symm hc]) v hp

/-- Cutting up a text gives pieces. -/
theorem isPieces_ofChars (cs : List Char) : IsPieces (Pieces.ofChars cs) := by
  fun_induction Pieces.ofChars cs with
  | case1 => exact .last (by simp)
  | case2 rest body after h _ ih =>
    obtain ⟨v, rfl⟩ := exists_doubled_of_closeLiteral? h
    have hliteral := IsPieces.literal List.not_mem_nil (String.ofList v) ih
    rwa [toList_quotedString, String.toList_ofList] at hliteral
  | case3 rest h ih =>
    have hrest := closeLiteral?_eq_none_iff.mp h
    rw [Pieces.ofChars_eq_self hrest]
    exact .last (by simp [quotes_eq_zero_iff.mpr hrest])
  | case4 c rest hc ih => exact ih.push hc

/-- An edit that keeps the quotes. -/
theorem IsPieces.mapOutside {p : Pieces} (h : IsPieces p) {f : List Char → List Char}
    (hf : ∀ s, quotes (f s) = quotes s) : IsPieces (p.mapOutside f) := by
  induction h with
  | last hu => exact .last (by rwa [hf])
  | @literal u p hu v hp ih =>
    have hfu : stringQuote ∉ f u := by
      rw [← quotes_eq_zero_iff, hf]
      exact quotes_eq_zero_iff.mpr hu
    exact .literal hfu v ih

/-- A literal in front of the pieces ends somewhere, and behind it no text is new. -/
theorem IsPieces.exists_closeLiteral? {p : Pieces} (h : IsPieces p) (v : List Char) :
    ∃ body after,
      closeLiteral? (doubled stringQuote v ++ stringQuote :: p.toList) = some (body, after) ∧
      (Pieces.ofChars after).outside ⊆ p.outside := by
  -- a literal that touches the one in front becomes a part of it, so that one is arbitrary
  induction h generalizing v with
  | @last u hu =>
    have hlist : Pieces.toList ⟨u, []⟩ = u := by simp [Pieces.toList]
    rw [hlist]
    by_cases hhead : u.head? = some stringQuote
    -- a last piece with its one quote in front makes the literal longer
    · obtain ⟨w, rfl⟩ := List.head?_eq_some_iff.mp hhead
      have hw : stringQuote ∉ w := quotes_eq_zero_iff.mp (by simpa using hu)
      refine ⟨_, _, closeLiteral?_doubled_quote v hw, ?_⟩
      rw [Pieces.ofChars_quote hw]
      exact List.Subset.refl _
    · refine ⟨_, _, closeLiteral?_doubled v hhead, ?_⟩
      rw [Pieces.ofChars_of_quotes_le_one hu]
      exact List.Subset.refl _
  | @literal u p hu w hp ih =>
    have hlist : Pieces.toList ⟨u, ((quotedString w).toList, p.head) :: p.tail⟩ =
        u ++ stringQuote :: (doubled stringQuote w.toList ++ stringQuote :: p.toList) := by
      simp [Pieces.toList, toList_quotedString]
    have hsubset : p.outside ⊆
        Pieces.outside ⟨u, ((quotedString w).toList, p.head) :: p.tail⟩ :=
      List.subset_cons_self _ _
    rw [hlist]
    cases u with
    -- nothing stands between the literals, so that they are read as one
    | nil =>
      obtain ⟨body, after, hclose, hafter⟩ := ih (v ++ stringQuote :: w.toList)
      refine ⟨body, after, ?_, List.Subset.trans hafter hsubset⟩
      rw [doubled_append, doubled, if_pos rfl] at hclose
      simpa using hclose
    | cons c u =>
      have hhead : ∀ rest, (c :: u ++ rest).head? ≠ some stringQuote := by
        intro rest h
        obtain rfl : c = stringQuote := Option.some.inj h
        exact hu List.mem_cons_self
      obtain ⟨body, after, hclose, hafter⟩ := ih w.toList
      refine ⟨_, _, closeLiteral?_doubled v (hhead _), ?_⟩
      rw [Pieces.ofChars_of_no_quote hu, Pieces.ofChars_of_closeLiteral? hclose]
      simpa [Pieces.outside, Pieces.pushLiteral] using List.cons_subset_cons (c :: u) hafter

/-- Pieces that are put together and split again have no new text between literals. -/
theorem IsPieces.outside_ofChars_subset {p : Pieces} (h : IsPieces p) :
    (Pieces.ofChars p.toList).outside ⊆ p.outside := by
  cases h with
  | @last u hu =>
    have hlist : Pieces.toList ⟨u, []⟩ = u := by simp [Pieces.toList]
    rw [hlist, Pieces.ofChars_of_quotes_le_one hu]
    exact List.Subset.refl _
  | @literal u p hu w hp =>
    -- the literal is found again, though it may close further behind
    obtain ⟨body, after, hclose, hafter⟩ := hp.exists_closeLiteral? w.toList
    have hlist : Pieces.toList ⟨u, ((quotedString w).toList, p.head) :: p.tail⟩ =
        u ++ stringQuote :: (doubled stringQuote w.toList ++ stringQuote :: p.toList) := by
      simp [Pieces.toList, toList_quotedString]
    rw [hlist, Pieces.ofChars_of_no_quote hu, Pieces.ofChars_of_closeLiteral? hclose]
    simpa [Pieces.outside, Pieces.pushLiteral] using List.cons_subset_cons u hafter

end Querysmith.Text
