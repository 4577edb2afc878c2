import Querysmith.Text.Literal

/-!
# Pieces of a text in two parts

A literal that is open where one text ends goes on in the next, so the pieces of a text depend on
what stands in front of it. Behind an even number of quotes and a delimiter that is no quote they
do not. Behind an odd number of quotes the next quote closes a literal and not the other way
round: what should have been inside a literal is between two.

## Key results

- `ofChars_append`: behind an even number of quotes a text is split by itself
- `mapOutside_append`, `any_outside_append`: edits and searches that cut through neither part
- `mem_outside_of_odd`: behind an odd number of quotes a literal is read as text
-/

namespace Querysmith.Text

/-- The number of quotes in a text. -/
def quotes (cs : List Char) : Nat := cs.count stringQuote

@[simp] theorem quotes_nil : quotes [] = 0 := rfl

@[simp] theorem quotes_cons (c : Char) (cs : List Char) :
    quotes (c :: cs) = quotes cs + if c = stringQuote then 1 else 0 := by
  simp [quotes, List.count_cons]

/-- A text ends in the delimiter of names. -/
def EndsName (cs : List Char) : Prop := cs.getLast? = some nameQuote

/-- How a text ends does not depend on its first character, if there are others. -/
theorem endsName_cons {c : Char} {cs : List Char} (hne : cs ≠ []) :
    EndsName (c :: cs) ↔ EndsName cs := by
  obtain ⟨d, rest, rfl⟩ := List.exists_cons_of_ne_nil hne
  rw [EndsName, EndsName, List.getLast?_cons_cons]

theorem EndsName.exists_append {cs : List Char} (h : EndsName cs) : ∃ a, cs = a ++ [nameQuote] :=
  List.getLast?_eq_some_iff.mp h

theorem not_endsName_quote : ¬ EndsName [stringQuote] := by
  intro h
  cases h

/-- Behind a character that is none, the rest of a text ends in the delimiter. -/
theorem EndsName.of_cons_quote {cs : List Char} (h : EndsName (stringQuote :: cs)) :
    EndsName cs := by
  have hne : cs ≠ [] := by
    rintro rfl
    exact not_endsName_quote h
  exact (endsName_cons hne).mp h

/-- Behind an odd number of quotes a literal ends inside the text, whatever follows. -/
theorem closeLiteral?_append {cs : List Char} (hends : EndsName cs) (hodd : quotes cs % 2 = 1) :
    ∃ body after, (∀ t, closeLiteral? (cs ++ t) = some (body, after ++ t)) ∧ EndsName after ∧
      quotes after % 2 = 0 := by
  fun_induction closeLiteral? cs with
  | case1 => simp at hodd
  | case2 => exact absurd hends not_endsName_quote
  | case3 rest' body after h ih | case4 rest' h ih =>
    -- a doubled quote stays inside, and the number behind it is odd again
    have hodd' : quotes rest' % 2 = 1 := by simp at hodd; omega
    obtain ⟨body, after, hclose, hafter, heven⟩ := ih hends.of_cons_quote.of_cons_quote hodd'
    refine ⟨stringQuote :: stringQuote :: body, after, fun t => ?_, hafter, heven⟩
    simp [closeLiteral?, hclose t]
  -- a single quote closes, with one quote fewer behind it
  | case5 d rest' hd =>
    refine ⟨[], d :: rest', fun t => ?_, hends.of_cons_quote, ?_⟩
    · simp [closeLiteral?, hd]
    · simp [hd] at hodd ⊢
      omega
  | case6 c rest hc ih =>
    have hne : rest ≠ [] := by
      rintro rfl
      simp [hc] at hodd
    obtain ⟨body, after, hclose, hafter, heven⟩ :=
      ih ((endsName_cons hne).mp hends) (by simpa [hc] using hodd)
    refine ⟨c :: body, after, fun t => ?_, hafter, heven⟩
    rw [List.cons_append, closeLiteral?.eq_def]
    simp [hc, hclose t]

/-- A literal ends at the first quote that no other one follows. -/
theorem closeLiteral?_of_no_quote {u v : List Char} (hu : stringQuote ∉ u)
    (hv : v.head? ≠ some stringQuote) :
    closeLiteral? (u ++ stringQuote :: v) = some (u, v) := by
  induction u with
  | nil =>
    -- the quote closes unless another one follows
    cases v with
    | nil => rfl
    | cons d v =>
      have : ¬ d = stringQuote := by simpa using hv
      simp [closeLiteral?, this]
  | cons c u ih =>
    simp only [List.mem_cons, not_or] at hu
    rw [List.cons_append, closeLiteral?.eq_def]
    simp [Ne.symm hu.1, ih hu.2]

/-- Behind an even number of quotes a literal either ends inside the text, whatever follows, or
runs to the first quote of what follows. -/
theorem closeLiteral?_even {u v : List Char} (hu : stringQuote ∉ u)
    (hv : v.head? ≠ some stringQuote) {cs : List Char} (hends : EndsName cs)
    (heven : quotes cs % 2 = 0) :
    (∃ body after, (∀ t, closeLiteral? (cs ++ t) = some (body, after ++ t)) ∧ EndsName after ∧
      quotes after % 2 = 1) ∨
    ∃ body, closeLiteral? (cs ++ (u ++ stringQuote :: v)) = some (body, v) := by
  -- two quotes in a row stay in the literal; they do not change whether the number is even
  fun_induction closeLiteral? cs with
  | case1 => cases hends
  | case2 => exact absurd hends not_endsName_quote
  | case3 rest' body after h ih | case4 rest' h ih =>
    have heven' : quotes rest' % 2 = 0 := by simp at heven; omega
    rcases ih hends.of_cons_quote.of_cons_quote heven' with
      ⟨body, after, hclose, hafter, hodd⟩ | ⟨body, hclose⟩
    · refine .inl ⟨stringQuote :: stringQuote :: body, after, fun t => ?_, hafter, hodd⟩
      simp [closeLiteral?, hclose t]
    · exact .inr ⟨stringQuote :: stringQuote :: body, by simp [closeLiteral?, hclose]⟩
  | case5 d rest' hd =>
    -- a quote that another character follows ends the literal
    refine .inl ⟨[], d :: rest', fun t => ?_, hends.of_cons_quote, ?_⟩
    · simp [closeLiteral?, hd]
    · simp [hd] at heven ⊢
      omega
  -- the last character is no quote, so the literal is still open there
  | case6 c rest hc ih =>
    by_cases hne : rest = []
    · subst hne
      refine .inr ⟨c :: u, ?_⟩
      rw [List.cons_append, closeLiteral?.eq_def]
      simp [hc, closeLiteral?_of_no_quote hu hv]
    · rcases ih ((endsName_cons hne).mp hends) (by simpa [hc] using heven) with
        ⟨body, after, hclose, hafter, hodd⟩ | ⟨body, hclose⟩
      · refine .inl ⟨c :: body, after, fun t => ?_, hafter, hodd⟩
        rw [List.cons_append, closeLiteral?.eq_def]
        simp [hc, hclose t]
      · refine .inr ⟨c :: body, ?_⟩
        rw [List.cons_append, closeLiteral?.eq_def]
        simp [hc, hclose]

namespace Pieces

/-- The text behind the last literal. -/
def last (p : Pieces) : List Char := go p.head p.tail
where
  go (head : List Char) : List (List Char × List Char) → List Char
    | [] => head
    | piece :: rest => go piece.2 rest

@[simp] theorem last_nil (head : List Char) : last ⟨head, []⟩ = head := rfl

@[simp] theorem last_cons (head : List Char) (piece : List Char × List Char)
    (rest : List (List Char × List Char)) :
    last ⟨head, piece :: rest⟩ = last ⟨piece.2, rest⟩ := rfl

/-- The pieces of two texts, one behind the other. -/
def append (p r : Pieces) : Pieces := go p.head p.tail
where
  go (head : List Char) : List (List Char × List Char) → Pieces
    | [] => ⟨head ++ r.head, r.tail⟩
    | piece :: rest => ⟨head, (piece.1, (go piece.2 rest).head) :: (go piece.2 rest).tail⟩

@[simp] theorem append_nil (head : List Char) (r : Pieces) :
    append ⟨head, []⟩ r = ⟨head ++ r.head, r.tail⟩ := rfl

@[simp] theorem append_cons (head : List Char) (piece : List Char × List Char)
    (rest : List (List Char × List Char)) (r : Pieces) :
    append ⟨head, piece :: rest⟩ r =
      ⟨head, (piece.1, (append ⟨piece.2, rest⟩ r).head) :: (append ⟨piece.2, rest⟩ r).tail⟩ := rfl

/-- A character may be put in front before or after more pieces are added. -/
theorem push_append (c : Char) (p r : Pieces) : (p.push c).append r = (p.append r).push c := by
  obtain ⟨head, _ | ⟨⟨literal, after⟩, rest⟩⟩ := p <;> rfl

/-- A literal may be put in front before or after more pieces are added. -/
theorem pushLiteral_append (literal : List Char) (p r : Pieces) :
    (p.pushLiteral literal).append r = (p.append r).pushLiteral literal := rfl

/-- A character in front does not change how the last piece ends. -/
theorem endsName_last_push {c : Char} {p : Pieces} (h : EndsName p.last) :
    EndsName (p.push c).last := by
  obtain ⟨head, _ | ⟨⟨literal, after⟩, rest⟩⟩ := p
  · have hne : head ≠ [] := by
      rintro rfl
      cases h
    exact (endsName_cons hne).mpr h
  · exact h

/-- A text that ends in the delimiter, with an even number of quotes, is split by itself, and
ends outside its literals. -/
theorem ofChars_append {cs : List Char} (hends : EndsName cs) (heven : quotes cs % 2 = 0) :
    (∀ t, ofChars (cs ++ t) = (ofChars cs).append (ofChars t)) ∧ EndsName (ofChars cs).last := by
  fun_induction ofChars cs with
  | case1 => cases hends
  | case2 rest body after h _ ih =>
    have hodd : quotes rest % 2 = 1 := by simp at heven; omega
    -- the literal ends inside the text, and does so whatever follows
    obtain ⟨body', after', hclose, hafter, heven'⟩ := closeLiteral?_append hends.of_cons_quote hodd
    obtain ⟨rfl, rfl⟩ : body' = body ∧ after' = after := by
      have := hclose []
      rw [List.append_nil, h] at this
      simpa [eq_comm] using this
    obtain ⟨hsplit, hlast⟩ := ih hafter heven'
    refine ⟨fun t => ?_, hlast⟩
    rw [List.cons_append, ofChars, if_pos rfl, pushLiteral_append, ← hsplit]
    split
    · next body after h =>
      obtain ⟨rfl, rfl⟩ : body' = body ∧ after' ++ t = after := by
        simpa [hclose t] using h
      rfl
    · next h => simp [hclose t] at h
  | case3 rest h ih =>
    -- every literal is closed, as the number of quotes is even
    have hodd : quotes rest % 2 = 1 := by simp at heven; omega
    obtain ⟨body, after, hclose, -, -⟩ := closeLiteral?_append hends.of_cons_quote hodd
    have := hclose []
    rw [List.append_nil, h] at this
    cases this
  -- outside of literals characters are passed one by one
  | case4 c rest hc ih =>
    by_cases hne : rest = []
    · subst hne
      obtain rfl : c = nameQuote := by simpa [EndsName] using hends
      refine ⟨fun t => ?_, by simp [ofChars, push, EndsName]⟩
      rw [List.cons_append, ofChars.eq_def (nameQuote :: _)]
      simp [hc, ofChars, push]
    · have heven' : quotes rest % 2 = 0 := by simpa [hc] using heven
      obtain ⟨hsplit, hlast⟩ := ih ((endsName_cons hne).mp hends) heven'
      refine ⟨fun t => ?_, endsName_last_push hlast⟩
      rw [List.cons_append, ofChars, if_neg hc, push_append, hsplit]

/-- The text of pieces one after the other. -/
theorem toList_append (p r : Pieces) : (p.append r).toList = p.toList ++ r.toList := by
  obtain ⟨head, tail⟩ := p
  induction tail generalizing head with
  | nil => simp [toList]
  | cons piece rest ih =>
    have := ih piece.2
    simp only [toList] at this ⊢
    simp [this]

/-- The literals of pieces one after the other. -/
theorem literals_append (p r : Pieces) : (p.append r).literals = p.literals ++ r.literals := by
  obtain ⟨head, tail⟩ := p
  induction tail generalizing head with
  | nil => rfl
  | cons piece rest ih =>
    have := ih piece.2
    simp only [literals, append_cons, List.map_cons, List.cons_append] at this ⊢
    rw [this]

/-- Pieces may be put together in any order. -/
theorem append_assoc (p q r : Pieces) : (p.append q).append r = p.append (q.append r) := by
  obtain ⟨head, tail⟩ := p
  induction tail generalizing head with
  | nil =>
    obtain ⟨head', _ | ⟨piece, rest⟩⟩ := q
    · simp
    · simp
  | cons piece rest ih => simp [ih]

/-- The text ends with the text behind the last literal. -/
theorem exists_toList_eq_append_last (p : Pieces) : ∃ a, p.toList = a ++ p.last := by
  obtain ⟨head, tail⟩ := p
  induction tail generalizing head with
  | nil => exact ⟨[], by simp [toList]⟩
  | cons piece rest ih =>
    obtain ⟨a, ha⟩ := ih piece.2
    exact ⟨head ++ piece.1 ++ a, by simpa [toList] using ha⟩

/-- An edit of the texts between the literals that cuts through neither part edits each by
itself. -/
theorem mapOutside_append {f : List Char → List Char} {p r : Pieces}
    (h : f (p.last ++ r.head) = f p.last ++ f r.head) :
    (p.append r).mapOutside f = (p.mapOutside f).append (r.mapOutside f) := by
  obtain ⟨head, tail⟩ := p
  induction tail generalizing head with
  | nil => simpa [mapOutside] using h
  | cons piece rest ih =>
    have := ih piece.2 h
    simp only [mapOutside] at this
    simp [mapOutside, ← this]

/-- A property of some text between literals that cuts through neither part. -/
theorem any_outside_append {f : List Char → Bool} {p r : Pieces}
    (h : f (p.last ++ r.head) = (f p.last || f r.head)) :
    (p.append r).outside.any f = (p.outside.any f || r.outside.any f) := by
  obtain ⟨head, tail⟩ := p
  induction tail generalizing head with
  | nil =>
    have h : f (head ++ r.head) = (f head || f r.head) := h
    simp [outside, h, Bool.or_assoc]
  | cons piece rest ih =>
    have := ih piece.2 h
    simp only [outside, List.any_cons] at this
    simp only [append_cons, outside, List.map_cons, List.any_cons, this, Bool.or_assoc]

/-- The last piece stands outside of literals, and so is changed along with the others. -/
theorem last_mapOutside (f : List Char → List Char) (p : Pieces) :
    (p.mapOutside f).last = f p.last := by
  obtain ⟨head, tail⟩ := p
  induction tail generalizing head with
  | nil => rfl
  | cons piece rest ih => exact ih piece.2

/-- Nothing changes when every piece outside of the literals stays. -/
theorem mapOutside_eq_self {f : List Char → List Char} {p : Pieces}
    (h : ∀ s ∈ p.outside, f s = s) : p.mapOutside f = p := by
  obtain ⟨head, tail⟩ := p
  have hhead : f head = head := h head (by simp [outside])
  have htail : ∀ q ∈ tail, (q.1, f q.2) = q := by
    intro q hq
    rw [h q.2 (List.mem_cons_of_mem _ (List.mem_map_of_mem hq))]
  have hmap : tail.map (fun q => (q.1, f q.2)) = tail.map id := List.map_congr_left htail
  simpa [mapOutside, hhead] using hmap

/-- Pieces do not grow when what is outside of the literals does not. -/
theorem length_mapOutside_le {f : List Char → List Char} {p : Pieces}
    (h : ∀ s ∈ p.outside, (f s).length ≤ s.length) :
    (p.mapOutside f).toList.length ≤ p.toList.length := by
  obtain ⟨head, tail⟩ := p
  induction tail generalizing head with
  | nil => simpa [mapOutside, toList] using h head (by simp [outside])
  | cons piece rest ih =>
    have hhead := h head (by simp [outside])
    have := ih piece.2 fun s hs => h s (List.mem_cons_of_mem _ hs)
    simp only [mapOutside, toList, List.map_cons, List.flatMap_cons, List.length_append] at this ⊢
    omega

/-- An edit that lengthens no text between the literals and shortens one of them. -/
theorem length_mapOutside_lt {f : List Char → List Char} {p : Pieces}
    (h : ∀ s ∈ p.outside, (f s).length ≤ s.length) {s : List Char} (hs : s ∈ p.outside)
    (hlt : (f s).length < s.length) : (p.mapOutside f).toList.length < p.toList.length := by
  obtain ⟨head, tail⟩ := p
  induction tail generalizing head with
  | nil =>
    obtain rfl : s = head := by simpa [outside] using hs
    simpa [mapOutside, toList] using hlt
  | cons piece rest ih =>
    have hhead := h head (by simp [outside])
    have hrest : ∀ r ∈ outside ⟨piece.2, rest⟩, (f r).length ≤ r.length :=
      fun r hr => h r (List.mem_cons_of_mem _ hr)
    -- either the first piece is the one that gets shorter, or one behind it
    rcases List.mem_cons.mp hs with rfl | hs
    · have := length_mapOutside_le hrest
      simp only [mapOutside, toList, List.map_cons, List.flatMap_cons, List.length_append] at this ⊢
      omega
    · have := ih piece.2 hrest hs
      simp only [mapOutside, toList, List.map_cons, List.flatMap_cons, List.length_append] at this ⊢
      omega

/-! ### Behind an odd number of quotes -/

/-- What has no quote goes to the first piece. -/
theorem ofChars_of_no_quote {cs : List Char} (h : stringQuote ∉ cs) (t : List Char) :
    ofChars (cs ++ t) = ⟨cs ++ (ofChars t).head, (ofChars t).tail⟩ := by
  induction cs with
  | nil => rfl
  | cons c cs ih =>
    simp only [List.mem_cons, not_or] at h
    rw [List.cons_append, ofChars, if_neg (Ne.symm h.1), ih h.2]
    rfl

/-- A literal that is open where a text ends runs to the next quote: the text between that quote
and the one after it is read as a text between literals. -/
theorem mem_outside_of_odd {u v : List Char} (hu : stringQuote ∉ u) (hv : stringQuote ∉ v)
    (hne : v ≠ []) {cs : List Char} (hends : EndsName cs) (hodd : quotes cs % 2 = 1) :
    v ++ [stringQuote] ∈
      (ofChars (cs ++ (u ++ stringQuote :: (v ++ [stringQuote])))).tail.map Prod.snd := by
  match cs with
  | [] => cases hends
  | c :: rest =>
    by_cases hc : c = stringQuote
    · subst hc
      have heven : quotes rest % 2 = 0 := by simp at hodd; omega
      have hhead : (v ++ [stringQuote]).head? ≠ some stringQuote := by
        cases v with
        | nil => exact absurd rfl hne
        | cons d v => simpa [eq_comm] using (not_or.mp (mt List.mem_cons.mpr hv)).1
      -- the literal that opens here ends inside the text, or is the one that is open at its end
      rcases closeLiteral?_even hu hhead hends.of_cons_quote heven with
        ⟨body, after, hclose, hafter, hodd'⟩ | ⟨body, hclose⟩
      · have hlt : after.length < rest.length :=
          length_lt_of_closeLiteral? (by simpa using hclose [])
        have ih := mem_outside_of_odd hu hv hne hafter hodd'
        rw [List.cons_append, ofChars, if_pos rfl]
        split
        · next body' after' h =>
          obtain ⟨rfl, rfl⟩ := Prod.mk.inj (Option.some.inj ((hclose _).symm.trans h))
          exact List.mem_cons_of_mem _ ih
        · next h => rw [hclose] at h; cases h
      · -- it runs to the quote in front of the text that is then read between literals
        have hlast : ofChars (v ++ [stringQuote]) = ⟨v ++ [stringQuote], []⟩ := by
          rw [ofChars_of_no_quote hv]
          simp [ofChars, closeLiteral?, push]
        rw [List.cons_append, ofChars, if_pos rfl]
        split
        · next body' after' h =>
          obtain ⟨rfl, rfl⟩ := Prod.mk.inj (Option.some.inj (hclose.symm.trans h))
          simp [pushLiteral, hlast]
        · next h => rw [hclose] at h; cases h
    -- a character outside of literals changes nothing
    · have hne' : rest ≠ [] := by
        rintro rfl
        simp [hc] at hodd
      have ih := mem_outside_of_odd hu hv hne ((endsName_cons hne').mp hends)
        (by simpa [hc] using hodd)
      rw [List.cons_append, ofChars, if_neg hc]
      exact ih
termination_by cs.length

end Pieces

end Querysmith.Text
