import Querysmith.Builder.Compile
import Querysmith.Proofs.Statement.Placeholder
import Mathlib.Data.List.Forall2

/-!
# Values in the places of their placeholders

A fragment is aligned when it has as many placeholders as values. Inlining writes every value in
the place of its own placeholder. Inlining the parts and then assembling them gives the same text
as assembling them and then inlining, as long as no value is rendered as the empty text: a part
without text is dropped, and so it must not become one.

## Key results

- `Fragment.inlined_assemble`: statements are inlined fragment by fragment
- `Term.body_inlined`: conditions are inlined term by term
- `Condition.clause_inlined`: a clause of inlined conditions is the inlined clause, at any depth
-/

namespace Querysmith

open Text

namespace Fragment

variable {render : Value → String}

/-- As many placeholders as values. -/
def IsAligned (f : Fragment) : Prop := marks f.sql = f.bindings.length

/-- The fragment with its values in the places of their placeholders. -/
def inlined (render : Value → String) (f : Fragment) : Fragment :=
  ofText (fill f.sql (f.bindings.map render))

/-- Every placeholder has the rendering of a value. -/
theorem IsAligned.marks_eq {f : Fragment} (h : f.IsAligned) (render : Value → String) :
    marks f.sql = (f.bindings.map render).length := by
  rw [List.length_map]
  exact h

/-- Inlined fragments leave nothing to bind. -/
theorem flatMap_bindings_inlined (fragments : List Fragment) :
    (fragments.flatMap fun f => (f.inlined render).bindings) = [] :=
  List.flatMap_eq_nil_iff.2 fun _ _ => rfl

theorem isAligned_empty : empty.IsAligned := rfl

@[simp] theorem inlined_empty : empty.inlined render = empty := by
  simp [inlined, empty, ofText]

theorem isAligned_ofText {sql : String} (h : marks sql = 0) : (ofText sql).IsAligned := h

@[simp] theorem inlined_ofText (sql : String) : (ofText sql).inlined render = ofText sql := by
  simp [inlined, ofText]

/-- A fragment that may be left out is aligned in either case. -/
theorem isAligned_onlyIf {f : Fragment} (h : f.IsAligned) (condition : Bool) :
    (onlyIf condition f).IsAligned := by
  cases condition
  · exact isAligned_empty
  · exact h

/-- Values are written out before or after it is settled whether a fragment is left out. -/
theorem inlined_onlyIf (condition : Bool) (f : Fragment) :
    (onlyIf condition f).inlined render = onlyIf condition (f.inlined render) := by
  cases condition
  · exact inlined_empty
  · rfl

/-- Behind text without placeholders. -/
theorem isAligned_behind {left : String} {f : Fragment} (hl : marks left = 0) (h : f.IsAligned) :
    IsAligned ⟨left ++ f.sql, f.bindings⟩ := by
  have h : marks f.sql = f.bindings.length := h
  simp [IsAligned, hl, h]

/-- Values are written out behind a text without placeholders as they are by themselves. -/
theorem inlined_behind (render : Value → String) {left : String} {f : Fragment}
    (hl : marks left = 0) :
    inlined render ⟨left ++ f.sql, f.bindings⟩ = ofText (left ++ (f.inlined render).sql) := by
  simp [inlined, ofText, fill_append_left hl]

/-- Between texts without placeholders. -/
theorem isAligned_between {left right : String} {f : Fragment} (hl : marks left = 0)
    (hr : marks right = 0) (h : f.IsAligned) :
    IsAligned ⟨left ++ f.sql ++ right, f.bindings⟩ := by
  have h : marks f.sql = f.bindings.length := h
  simp [IsAligned, hl, hr, h]

/-- Values are written out between two texts without placeholders as they are by themselves. -/
theorem inlined_between (render : Value → String) {left right : String} {f : Fragment}
    (hl : marks left = 0) (h : f.IsAligned) :
    inlined render ⟨left ++ f.sql ++ right, f.bindings⟩ =
      ofText (left ++ (f.inlined render).sql ++ right) := by
  simp [inlined, ofText, fill_between hl (h.marks_eq render)]

/-! ## Fragments one after the other -/

/-- Fragments with a separator between neighbours. -/
def chain (separator : String) (fragments : List Fragment) : Fragment :=
  ⟨joined separator (fragments.map sql), fragments.flatMap bindings⟩

/-- A chain of aligned fragments is aligned. -/
theorem isAligned_chain {separator : String} (hsep : marks separator = 0)
    {fragments : List Fragment} (h : ∀ f ∈ fragments, f.IsAligned) :
    (chain separator fragments).IsAligned := by
  simp only [IsAligned, chain, marks_joined hsep, List.map_map, List.length_flatMap]
  congr 1
  exact List.map_congr_left fun f hf => h f hf

/-- Values are written out link by link. -/
theorem inlined_chain (render : Value → String) {separator : String} (hsep : marks separator = 0)
    {fragments : List Fragment} (h : ∀ f ∈ fragments, f.IsAligned) :
    (chain separator fragments).inlined render =
      chain separator (fragments.map (inlined render)) := by
  have hown : ∀ f ∈ fragments, marks f.sql = (f.bindings.map render).length :=
    fun f hf => (h f hf).marks_eq render
  have hfill := fill_joined hsep sql (fun f => f.bindings.map render) fragments hown
  rw [inlined, chain, chain, List.flatMap_map, flatMap_bindings_inlined, List.map_map]
  simp only [List.map_flatMap, hfill, ofText]
  rfl

/-- Aligned fragments without text have no values either, so a statement is the chain of the
fragments that have text. -/
theorem assemble_eq_chain {fragments : List Fragment} (h : ∀ f ∈ fragments, f.IsAligned) :
    assemble fragments = chain " " (fragments.filter fun f => f.sql ≠ "") := by
  -- a fragment without a text has no values, so that leaving it out loses none
  have hbindings : fragments.flatMap bindings =
      (fragments.filter fun f => f.sql ≠ "").flatMap bindings := by
    induction fragments with
    | nil => rfl
    | cons f rest ih =>
      have ih := ih fun g hg => h g (List.mem_cons_of_mem _ hg)
      by_cases hf : f.sql = ""
      · have hnone : f.bindings = [] := by
          have := h f List.mem_cons_self
          simpa [IsAligned, hf] using this.symm
        simp [hf, hnone, ih]
      · simp [hf, ih]
  simp only [assemble, chain, texts, hbindings, Fragment.mk.injEq, and_true]
  rw [List.filter_map]
  rfl

theorem isAligned_assemble {fragments : List Fragment} (h : ∀ f ∈ fragments, f.IsAligned) :
    (assemble fragments).IsAligned := by
  rw [assemble_eq_chain h]
  exact isAligned_chain rfl fun f hf => h f (List.mem_of_mem_filter hf)

/-- A statement is inlined fragment by fragment. -/
theorem inlined_assemble (hrender : ∀ v, render v ≠ "") {fragments : List Fragment}
    (h : ∀ f ∈ fragments, f.IsAligned) :
    (assemble fragments).inlined render = assemble (fragments.map (inlined render)) := by
  -- inlining gives no fragment a text that had none and leaves none without the text it had,
  -- so the same fragments are kept before and after
  have hkeep : (fun f : Fragment => decide ((f.inlined render).sql ≠ "")) =
      fun f => decide (f.sql ≠ "") := by
    funext f
    have : fill f.sql (f.bindings.map render) = "" ↔ f.sql = "" := by
      apply fill_eq_empty_iff
      simpa using fun v _ => hrender v
    simp [inlined, ofText, this]
  rw [assemble_eq_chain h, inlined_chain render rfl fun f hf => h f (List.mem_of_mem_filter hf)]
  simp only [assemble, chain, texts, List.map_map, List.filter_map, Fragment.mk.injEq]
  constructor
  · rw [← hkeep]
    rfl
  · rw [List.flatMap_map, List.flatMap_map]
    exact (flatMap_bindings_inlined _).trans (flatMap_bindings_inlined _).symm

end Fragment

/-! ## Terms -/

namespace Term

open Fragment

variable {render : Value → String}

/-- As many placeholders in the text as values, and none in the conjunction. -/
def IsAligned (t : Term) : Prop :=
  marks t.text.text = t.bindings.length ∧ marks t.conjunction.text = 0

/-- The term with its values in the places of their placeholders. -/
def inlined (render : Value → String) (t : Term) : Term :=
  ⟨t.conjunction, .str (fill t.text.text (t.bindings.map render)), []⟩

/-- A term with its conjunction in front, as a fragment. -/
def fragment (t : Term) : Fragment := ⟨t.attached, t.bindings⟩

/-- The fragment of an aligned term is aligned. -/
theorem isAligned_fragment {t : Term} (h : t.IsAligned) : t.fragment.IsAligned := by
  have hblank : marks " " = 0 := by decide
  simp [Fragment.IsAligned, fragment, attached, h.1, h.2, hblank]

/-- Values are written out in a term as in its fragment. -/
theorem inlined_fragment {t : Term} (h : t.IsAligned) :
    t.fragment.inlined render = (t.inlined render).fragment := by
  have hblank : marks (t.conjunction.text ++ " ") = 0 := by
    have : marks " " = 0 := by decide
    simp [h.2, this]
  simp [Fragment.inlined, fragment, attached, inlined, ofText, fill_append_left hblank]

/-- The first term stands without its conjunction. -/
theorem body_cons (first : String) {t : Term} {rest : List Term} (h : t.text = .str first) :
    body (t :: rest) = .ok (chain " " (⟨first, t.bindings⟩ :: rest.map fragment)) := by
  simp only [body, h, Value.textAt, chain, List.map_cons, List.map_map, List.flatMap_cons,
    List.flatMap_map]
  rfl

/-- Where a clause has a text, so has its first term. -/
theorem text_of_body_cons {t : Term} {rest : List Term} {f : Fragment}
    (h : body (t :: rest) = .ok f) : ∃ first, t.text = .str first := by
  cases ht : t.text with
  | str first => exact ⟨first, rfl⟩
  | _ => simp [body, ht, Value.textAt, bind, Except.bind] at h

/-- Conditions are inlined term by term. -/
theorem body_inlined (render : Value → String) {terms : List Term} {f : Fragment}
    (h : ∀ t ∈ terms, t.IsAligned) (hbody : body terms = .ok f) :
    f.IsAligned ∧ body (terms.map (inlined render)) = .ok (f.inlined render) := by
  cases terms with
  | nil =>
    obtain rfl : Fragment.empty = f := by simpa [body] using hbody
    exact ⟨isAligned_empty, by simp [body]⟩
  | cons t rest =>
    obtain ⟨first, ht⟩ := text_of_body_cons hbody
    obtain rfl : chain " " (⟨first, t.bindings⟩ :: rest.map fragment) = f := by
      simpa [body_cons first ht] using hbody
    -- the first term is written without its conjunction
    have hfirst : Fragment.IsAligned ⟨first, t.bindings⟩ := by
      simpa [Fragment.IsAligned, ht] using (h t List.mem_cons_self).1
    -- the conjunctions are part of the fragments from the second one on
    have hall : ∀ f ∈ (⟨first, t.bindings⟩ : Fragment) :: rest.map fragment, f.IsAligned := by
      intro f hf
      rcases List.mem_cons.1 hf with rfl | hf
      · exact hfirst
      · obtain ⟨u, hu, rfl⟩ := List.mem_map.1 hf
        exact isAligned_fragment (h u (List.mem_cons_of_mem _ hu))
    refine ⟨isAligned_chain (by decide) hall, ?_⟩
    rw [inlined_chain render (by decide) hall, List.map_cons,
      body_cons (fill first (t.bindings.map render)) (by simp [inlined, ht])]
    -- writing out values and putting conjunctions in front commute
    have hrest : (rest.map (inlined render)).map fragment =
        (rest.map fragment).map (Fragment.inlined render) := by
      rw [List.map_map, List.map_map]
      exact List.map_congr_left fun u hu =>
        (inlined_fragment (h u (List.mem_cons_of_mem _ hu))).symm
    rw [hrest]
    rfl

end Term

/-! ## Conditions -/

namespace Condition

open Fragment

variable {render : Value → String}

/-- The second condition renders as the first with its values in their places. -/
def Inlines (render : Value → String) (c d : Condition) : Prop :=
  ∀ t?, c.term? = .ok t? →
    (∀ t ∈ t?, t.IsAligned) ∧ d.term? = .ok (t?.map (Term.inlined render))

/-- A condition that renders whatever happens inlines as raw text. -/
theorem inlines_raw (render : Value → String) {c : Condition}
    (hleaf : c.term? = .ok (some ⟨c.conjunction, c.text, c.bindings⟩))
    (htext : marks c.text.text = c.bindings.length) (hconj : marks c.conjunction.text = 0) :
    Inlines render c
      (.raw (.str (fill c.text.text (c.bindings.map render))) [] c.conjunction) := by
  intro t? ht
  obtain rfl : some ⟨c.conjunction, c.text, c.bindings⟩ = t? := by simpa [hleaf] using ht
  refine ⟨?_, rfl⟩
  rintro t ⟨⟩
  exact ⟨htext, hconj⟩

/-- A comparison of columns has nothing to inline. -/
theorem inlines_comparison {s : String} {conjunction : Value} (htext : marks s = 0)
    (hconj : marks conjunction.text = 0) :
    Inlines render (.comparison (.str s) conjunction) (.comparison (.str s) conjunction) := by
  intro t? ht
  obtain rfl : some ⟨conjunction, .str s, []⟩ = t? := by simpa [term?] using ht
  refine ⟨?_, by simp [term?, Term.inlined]⟩
  rintro t ⟨⟩
  exact ⟨htext, hconj⟩

/-- Raw text without values has nothing to inline. -/
theorem inlines_raw_self {s : String} {conjunction : Value} (htext : marks s = 0)
    (hconj : marks conjunction.text = 0) :
    Inlines render (.raw (.str s) [] conjunction) (.raw (.str s) [] conjunction) := by
  simpa [text, bindings, Condition.conjunction] using
    inlines_raw render (c := .raw (.str s) [] conjunction) rfl htext hconj

/-- A subquery inlines as the comparison with the inlined statement. -/
theorem inlines_subquery {column operator conjunction : Value} {f : Fragment}
    (hcolumn : marks column.text = 0) (hoperator : marks operator.text = 0) (hf : f.IsAligned)
    (hconj : marks conjunction.text = 0) :
    Inlines render (.subquery column operator (.str f.sql) f.bindings conjunction)
      (.subquery column operator (.str (f.inlined render).sql) (f.inlined render).bindings
        conjunction) := by
  have hopen : marks " (" = 0 := by decide
  have hblank : marks " " = 0 := by decide
  -- nothing in front of the subquery holds a placeholder
  have hleft : marks (column.text ++ " " ++ operator.text ++ " (") = 0 := by
    simp [hcolumn, hoperator, hopen, hblank]
  intro t? ht
  simp only [term?, Except.ok.injEq] at ht ⊢
  subst ht
  refine ⟨?_, ?_⟩
  · rintro t ⟨⟩
    exact ⟨isAligned_between hleft (by decide) hf, hconj⟩
  -- the values are written out within the parentheses
  · have := fill_between hleft (hf.marks_eq render) ")"
    simp [Term.inlined, Fragment.inlined, ofText, this]

/-- The terms of inlined conditions are the inlined terms. -/
theorem terms_inlined {cs ds : List Condition} (h : List.Forall₂ (Inlines render) cs ds) :
    ∀ {ts : List Term}, terms cs = .ok ts →
      (∀ t ∈ ts, t.IsAligned) ∧ terms ds = .ok (ts.map (Term.inlined render)) := by
  -- condition by condition; terms that fail leave nothing to show
  induction h with
  | nil =>
    intro ts hts
    obtain rfl : [] = ts := by simpa [terms] using hts
    exact ⟨by simp, rfl⟩
  | @cons c d cs ds hc _ ih =>
    intro ts hts
    cases ht : c.term? with
    | error e => simp [terms, ht, bind, Except.bind] at hts
    | ok t? =>
      cases hrest : terms cs with
      | error e => simp [terms, ht, hrest, bind, Except.bind] at hts
      | ok us =>
        obtain rfl : t?.toList ++ us = ts := by
          simpa [terms, ht, hrest, bind, Except.bind, pure, Except.pure] using hts
        -- a condition may render nothing, and then there is no term on either side
        obtain ⟨hhead, hd⟩ := hc t? ht
        obtain ⟨htail, hds⟩ := ih hrest
        refine ⟨?_, ?_⟩
        · intro t hmem
          rcases List.mem_append.1 hmem with hmem | hmem
          · exact hhead t (by simpa using hmem)
          · exact htail t hmem
        · simp only [terms, hd, hds, bind, Except.bind, pure, Except.pure, List.map_append]
          cases t? <;> rfl

/-- A sequence of inlined conditions is the inlined sequence. -/
theorem body_inlined {cs ds : List Condition} {f : Fragment}
    (h : List.Forall₂ (Inlines render) cs ds) (hbody : body cs = .ok f) :
    f.IsAligned ∧ body ds = .ok (f.inlined render) := by
  cases hts : terms cs with
  | error e => simp [body, hts, bind, Except.bind] at hbody
  | ok ts =>
    obtain ⟨haligned, hds⟩ := terms_inlined h hts
    simp only [body, hts, hds, bind, Except.bind] at hbody ⊢
    exact Term.body_inlined render haligned hbody

/-- A group of inlined conditions is the inlined group. That it renders something does not depend
on the rendering, as no value renders as the empty text. -/
theorem inlines_group (hrender : ∀ v, render v ≠ "") {cs ds : List Condition} {conjunction : Value}
    (h : List.Forall₂ (Inlines render) cs ds) (hconj : marks conjunction.text = 0) :
    Inlines render (.group cs conjunction) (.group ds conjunction) := by
  intro t? ht
  cases hts : terms cs with
  | error e => simp [term?, hts, bind, Except.bind] at ht
  | ok ts =>
    cases hbody : Term.body ts with
    | error e => simp [term?, hts, hbody, bind, Except.bind] at ht
    | ok inner =>
      obtain ⟨haligned, hds⟩ := terms_inlined h hts
      obtain ⟨hinner, hbody'⟩ := Term.body_inlined render haligned hbody
      -- writing out values makes no text empty
      have hempty : (inner.inlined render).sql = "" ↔ inner.sql = "" :=
        fill_eq_empty_iff (by simpa using fun v _ => hrender v)
      simp only [term?, hts, hbody, bind, Except.bind] at ht
      simp only [term?, hds, hbody', bind, Except.bind, hempty]
      -- a group is dropped when it has no text, which does not depend on the values
      by_cases hsql : inner.sql = ""
      · obtain rfl : none = t? := by simpa [hsql, pure, Except.pure] using ht
        exact ⟨by simp, by simp [hsql, pure, Except.pure]⟩
      · obtain rfl : some ⟨conjunction, .str ("(" ++ inner.sql ++ ")"), inner.bindings⟩ = t? := by
          simpa [hsql, pure, Except.pure] using ht
        refine ⟨?_, ?_⟩
        · rintro t ⟨⟩
          exact ⟨isAligned_between (by decide) (by decide) hinner, hconj⟩
        · have hopen : marks "(" = 0 := by decide
          have := fill_between hopen (hinner.marks_eq render) ")"
          simp [Term.inlined, Fragment.inlined, ofText, hsql, this, pure, Except.pure]

/-- A clause of inlined conditions is the inlined clause. -/
theorem clause_inlined {keyword : String} (hkeyword : marks keyword = 0) {cs ds : List Condition}
    {f : Fragment} (h : List.Forall₂ (Inlines render) cs ds) (hclause : clause keyword cs = .ok f) :
    f.IsAligned ∧ clause keyword ds = .ok (f.inlined render) := by
  cases hts : terms cs with
  | error e => simp [clause, hts, bind, Except.bind] at hclause
  | ok ts =>
    cases hbody : Term.body ts with
    | error e => simp [clause, hts, hbody, bind, Except.bind] at hclause
    | ok inner =>
      obtain ⟨haligned, hds⟩ := terms_inlined h hts
      obtain ⟨hinner, hbody'⟩ := Term.body_inlined render haligned hbody
      simp only [clause, hts, hbody, bind, Except.bind, pure, Except.pure] at hclause
      simp only [clause, hds, hbody', bind, Except.bind, pure, Except.pure, List.isEmpty_map]
      -- conditions that render nothing leave the keyword out as well
      split at hclause
      · rename_i hbare
        obtain rfl : inner = f := by simpa using hclause
        exact ⟨hinner, by rw [if_pos hbare]⟩
      · rename_i hbare
        obtain rfl : ⟨keyword ++ " " ++ inner.sql, inner.bindings⟩ = f := by simpa using hclause
        -- neither the keyword nor the space behind it holds a placeholder
        have hblank : marks (keyword ++ " ") = 0 := by
          have : marks " " = 0 := by decide
          simp [hkeyword, this]
        refine ⟨?_, ?_⟩
        · exact isAligned_behind hblank hinner
        · rw [if_neg hbare, inlined_behind render hblank]
          rfl

end Condition

/-! ## Joins -/

namespace Join

open Fragment

variable {render : Value → String}

/-- The second join compiles to the first with its values in their places. -/
def Inlines (render : Value → String) (j k : Join) : Prop :=
  ∀ f, j.compile = .ok f → f.IsAligned ∧ k.compile = .ok (f.inlined render)

/-- A join whose text has no placeholders has nothing to inline. -/
theorem inlines_columns {kind table first operator second : Value} (hkind : marks kind.text = 0)
    (htable : marks table.text = 0) (hfirst : marks first.text = 0)
    (hoperator : marks operator.text = 0) (hsecond : marks second.text = 0) :
    Inlines render ⟨kind, table, .columns first operator second⟩
      ⟨kind, table, .columns first operator second⟩ := by
  -- nothing in such a join holds a placeholder
  have hjoin : marks " JOIN " = 0 := by decide
  have hon : marks " ON " = 0 := by decide
  have hblank : marks " " = 0 := by decide
  intro f hf
  simp only [compile, head, Except.ok.injEq] at hf ⊢
  subst hf
  refine ⟨isAligned_ofText ?_, by rw [inlined_ofText]⟩
  simp [hkind, htable, hfirst, hoperator, hsecond, hjoin, hon, hblank]

/-- The ON clause of inlined conditions is the inlined ON clause. -/
theorem inlines_nested (hrender : ∀ v, render v ≠ "") {kind table : Value}
    (hkind : marks kind.text = 0) (htable : marks table.text = 0) {cs ds : List Condition}
    (h : List.Forall₂ (Condition.Inlines render) cs ds) :
    Inlines render (.nested kind table cs) (.nested kind table ds) := by
  have hjoin : marks " JOIN " = 0 := by decide
  have hon : marks " ON " = 0 := by decide
  have hhead : marks (kind.text ++ " JOIN " ++ table.text ++ " ON ") = 0 := by
    simp [hkind, htable, hjoin, hon]
  intro f hf
  rw [compile_nested] at hf ⊢
  cases hbody : Condition.body cs with
  | error e => simp [hbody, bind, Except.bind] at hf
  | ok on =>
    obtain ⟨hinner, hds⟩ := Condition.body_inlined h hbody
    -- the fallback of an empty ON clause is taken on both sides or on none
    have hempty : (on.inlined render).sql = "" ↔ on.sql = "" :=
      fill_eq_empty_iff (by simpa using fun v _ => hrender v)
    simp only [nested, hbody, bind, Except.bind, pure, Except.pure, Except.ok.injEq,
      head] at hf
    simp only [nested, hds, bind, Except.bind, pure, Except.pure, hempty, head]
    subst hf
    by_cases hsql : on.sql = ""
    · -- an aligned clause without text binds nothing
      have hnone : on.bindings = [] := by
        simpa [Fragment.IsAligned, hsql] using hinner.symm
      have htruth : marks "1 = 1" = 0 := by decide
      simp [Fragment.IsAligned, Fragment.inlined, hsql, hnone, ofText, hhead, htruth]
    · simp only [hsql, if_false]
      refine ⟨?_, ?_⟩
      · exact isAligned_behind hhead hinner
      · rw [inlined_behind render hhead]
        rfl

end Join

end Querysmith
