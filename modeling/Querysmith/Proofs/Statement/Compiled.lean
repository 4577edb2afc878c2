import Querysmith.Proofs.Outcome
import Querysmith.Proofs.Statement.Inlining

/-!
# Compiled statements with their values in place

One builder inlines another when every clause of the first is the corresponding clause of the
second with the values in the places of their placeholders. This is a relation between the
clauses only; that it carries over to all statements that the builders compile is shown here,
statement by statement.

## Key results

- `Compilation.run_inlined`: a statement of the inlined builder is the inlined statement
-/

namespace Querysmith

open Text

namespace Value

/-- Texts are joined when all values are texts. -/
theorem textsFrom_eq_ok_iff {position : Nat} {vs : List Value} {ss : List String} :
    textsFrom position vs = .ok ss ↔ vs = ss.map .str := by
  induction vs generalizing position ss with
  | nil => cases ss <;> simp [textsFrom]
  | cons v rest ih =>
    cases v with
    | str s =>
      cases ss with
      | nil => simp [textsFrom, textAt, Except.bind_eq_ok_iff, pure, Except.pure]
      | cons t ts =>
        simp only [textsFrom, textAt, Except.bind_eq_ok_iff, ih, pure, Except.pure, List.map_cons,
          List.cons.injEq, Except.ok.injEq, str.injEq, exists_eq_left']
        constructor
        · rintro ⟨rest, hrest, rfl, rfl⟩
          exact ⟨rfl, hrest⟩
        · rintro ⟨rfl, hrest⟩
          exact ⟨ts, hrest, rfl, rfl⟩
    -- a value that is no text stops the whole of it
    | _ =>
      cases ss <;> simp [textsFrom, textAt, Except.bind_eq_ok_iff]

/-- Values are joined when all of them are texts. -/
theorem joinTexts_eq_ok_iff {separator : String} {vs : List Value} {s : String} :
    joinTexts separator vs = .ok s ↔ ∃ ss, vs = ss.map .str ∧ joined separator ss = s := by
  simp [joinTexts, Except.map_eq_ok_iff, textsFrom_eq_ok_iff]

end Value

open Fragment

/-- The second column is the text of the first with its values in their places. -/
def InlinesColumn (render : Value → String) (c : Value × List Value) (d : Value) : Prop :=
  marks c.1.text = c.2.length ∧ ∀ s, c.1 = .str s → d = .str (fill s (c.2.map render))

/-- Columns with the values that each of them binds. -/
structure InlinesColumns (render : Value → String)
    (columns bindings columns' bindings' : List Value)
    (parts : List (Value × List Value)) : Prop where
  columns : columns = parts.map Prod.fst
  bindings : bindings = parts.flatMap Prod.snd
  inlined : List.Forall₂ (InlinesColumn render) parts columns'
  nothing : bindings' = []

namespace Builder

variable {render : Value → String} {b d : Builder}

/-- The second builder has the clauses of the first with their values in their places. The
assignments of an UPDATE are the same: their placeholders are written with the statement. -/
structure Inlines (render : Value → String) (b d : Builder) : Prop where
  table : d.table = b.table
  table_marks : marks b.table.text = 0
  distinct : d.distinct = b.distinct
  -- columns may hold placeholders, with values of their own
  columns : ∃ parts,
    InlinesColumns render b.columns b.columnBindings d.columns d.columnBindings parts
  assignments : d.assignments = b.assignments
  assignments_marks : ∀ e ∈ b.assignments, marks e.1.text = 0
  wheres : List.Forall₂ (Condition.Inlines render) b.wheres d.wheres
  joins : List.Forall₂ (Join.Inlines render) b.joins d.joins
  groups : d.groups = b.groups
  groups_marks : ∀ v ∈ b.groups, marks v.text = 0
  havings : List.Forall₂ (Condition.Inlines render) b.havings d.havings
  orders : d.orders = b.orders
  orders_marks : ∀ s ∈ b.orders, marks s = 0
  limit : d.limit = b.limit
  offset : d.offset = b.offset

/-! ## Clauses -/

/-- Columns that are all texts, as fragments. -/
theorem columns_eq_of_texts {parts : List (Value × List Value)} {columns : List Value}
    (h : List.Forall₂ (InlinesColumn render) parts columns) {ss : List String}
    (hss : parts.map Prod.fst = ss.map .str) :
    ∃ fragments : List Fragment, fragments.map sql = ss ∧
      fragments.flatMap bindings = parts.flatMap Prod.snd ∧ (∀ f ∈ fragments, f.IsAligned) ∧
      columns = (fragments.map fun f => (f.inlined render).sql).map .str := by
  induction h generalizing ss with
  | nil =>
    obtain rfl : ss = [] := by simpa using hss.symm
    exact ⟨[], rfl, rfl, by simp, rfl⟩
  | @cons p v parts columns hp _ ih =>
    cases ss with
    | nil => simp at hss
    | cons s ss =>
      simp only [List.map_cons, List.cons.injEq] at hss
      -- the values of a column are its own: they stand behind those of the columns before it
      obtain ⟨fragments, rfl, hbindings, haligned, rfl⟩ := ih hss.2
      have hs : marks s = p.2.length := by simpa [hss.1] using hp.1
      refine ⟨⟨s, p.2⟩ :: fragments, rfl, ?_, ?_, ?_⟩
      · simp [hbindings]
      · intro f hf
        rcases List.mem_cons.1 hf with rfl | hf
        · exact hs
        · exact haligned f hf
      · simp [hp.2 s hss.1, inlined, ofText]

/-- The texts of the columns are filled with the values of their own. -/
theorem columnList_inlined {columns : String} (h : Inlines render b d)
    (hcolumns : b.columnList = .ok columns) :
    IsAligned ⟨columns, b.columnBindings⟩ ∧
      ∃ columns', d.columnList = .ok columns' ∧
        inlined render ⟨columns, b.columnBindings⟩ = ⟨columns', d.columnBindings⟩ := by
  obtain ⟨parts, hparts⟩ := h.columns
  -- both builders have as many columns
  have hlength := hparts.inlined.length_eq
  rw [columnList, hparts.columns] at hcolumns
  rw [columnList, hparts.bindings, hparts.nothing]
  cases parts with
  | nil =>
    -- without columns every column is selected
    have hd : d.columns = [] := by simpa using hlength.symm
    obtain rfl : "*" = columns := by simpa using hcolumns
    exact ⟨rfl, "*", by simp [hd], by simp [inlined, ofText]⟩
  | cons p rest =>
    have hd : d.columns.isEmpty = false := by
      rw [List.isEmpty_eq_false_iff, ← List.length_pos_iff, ← hlength]
      simp
    simp only [List.map_cons, List.isEmpty_cons, Bool.false_eq_true, if_false,
      Value.joinTexts_eq_ok_iff] at hcolumns
    obtain ⟨ss, hss, rfl⟩ := hcolumns
    -- with columns, each text is a fragment with the values of its own
    obtain ⟨fragments, rfl, hbindings, haligned, hcolumns⟩ :=
      columns_eq_of_texts hparts.inlined hss
    rw [hd, ← hbindings]
    have hcomma : marks ", " = 0 := by decide
    refine ⟨isAligned_chain hcomma haligned, ?_⟩
    refine ⟨joined ", " (fragments.map fun f => (f.inlined render).sql), ?_, ?_⟩
    · simp only [Bool.false_eq_true, if_false, Value.joinTexts_eq_ok_iff]
      exact ⟨_, hcolumns, rfl⟩
    · have := inlined_chain render hcomma haligned
      simp only [chain] at this
      rw [this, List.map_map, List.flatMap_map, flatMap_bindings_inlined]
      rfl

/-- The joins are inlined one by one. -/
theorem joinFragments_inlined {fragments : List Fragment} (h : Inlines render b d)
    (hjoins : b.joinFragments = .ok fragments) :
    (∀ f ∈ fragments, f.IsAligned) ∧
      d.joinFragments = .ok (fragments.map (inlined render)) := by
  have hforall := h.joins
  rw [joinFragments] at hjoins ⊢
  -- the induction is on the joins alone, whatever else the builders have
  generalize b.joins = js at hforall hjoins
  generalize d.joins = ks at hforall
  induction hforall generalizing fragments with
  | nil =>
    obtain rfl : [] = fragments := by simpa [pure, Except.pure] using hjoins
    exact ⟨by simp, rfl⟩
  | cons hj _ ih =>
    simp only [List.mapM_cons, Except.bind_eq_ok_iff] at hjoins
    obtain ⟨f, hf, rest, hrest, hcons⟩ := hjoins
    obtain rfl : f :: rest = fragments := by simpa [pure, Except.pure] using hcons
    -- a join by itself, and then the others
    obtain ⟨hhead, hk⟩ := hj f hf
    obtain ⟨htail, hks⟩ := ih hrest
    refine ⟨?_, ?_⟩
    · intro g hg
      rcases List.mem_cons.1 hg with rfl | hg
      · exact hhead
      · exact htail g hg
    · rw [List.mapM_cons, hk, hks]
      rfl

/-- A number binds nothing and has no placeholder. -/
theorem counted_aligned (render : Value → String) {keyword : String}
    (hkeyword : marks keyword = 0) {n? : Option Int}
    {f : Fragment} (h : counted keyword n? = .ok f) :
    f.IsAligned ∧ f.inlined render = f := by
  cases n? with
  | none =>
    obtain rfl : Fragment.empty = f := by simpa [counted] using h
    exact ⟨isAligned_empty, inlined_empty⟩
  | some n =>
    simp only [counted, Except.bind_eq_ok_iff, Number.integerText] at h
    obtain ⟨text, htext, hf⟩ := h
    obtain rfl : ofText (keyword ++ " " ++ text) = f := by simpa [pure, Except.pure] using hf
    split at htext
    · -- a number that is too long to be written fails, and the others are digits
      obtain rfl : toString n = text := by simpa using htext
      have hblank : marks " " = 0 := by decide
      refine ⟨isAligned_ofText ?_, inlined_ofText _⟩
      rw [marks_append, marks_append, hkeyword, hblank, marks_int]
    · exact nomatch htext

/-- ORDER BY and LIMIT bind nothing and have no placeholder. -/
theorem tail_inlined {limit : Option Int} {fragments : List Fragment} (h : Inlines render b d)
    (htail : b.tail limit = .ok fragments) :
    (∀ f ∈ fragments, f.IsAligned) ∧ d.tail limit = .ok (fragments.map (inlined render)) := by
  simp only [tail, Except.bind_eq_ok_iff] at htail
  obtain ⟨count, hcount, hfragments⟩ := htail
  obtain ⟨haligned, hself⟩ := counted_aligned render (by decide) hcount
  have horder : marks ("ORDER BY " ++ commaJoined b.orders) = 0 := by
    have hkeyword : marks "ORDER BY " = 0 := by decide
    rw [marks_append, hkeyword, marks_commaJoined h.orders_marks]
  simp only [tail, hcount, h.orders, Except.ok_bind]
  -- there are two fragments, the ORDER BY clause and the LIMIT clause
  cases hfragments
  refine ⟨?_, ?_⟩
  · rintro f (_ | ⟨_, _ | ⟨_, ⟨⟩⟩⟩)
    · exact isAligned_onlyIf (isAligned_ofText horder) _
    · exact haligned
  · simp [inlined_onlyIf, hself, pure, Except.pure]

/-! ## Assignments -/

/-- A property of all keys is kept when a key that has it is set. -/
theorem keys_set {P : Value → Prop} {entries : Entries} (h : ∀ e ∈ entries, P e.1) {key : Value}
    (hkey : P key) (value : Value) : ∀ e ∈ entries.set key value, P e.1 := by
  induction entries with
  | nil => simpa [Entries.set] using hkey
  | cons e rest ih =>
    have hrest := ih fun f hf => h f (List.mem_cons_of_mem _ hf)
    have hhead := h e List.mem_cons_self
    simp only [Entries.set]
    split
    -- the entry keeps its key, and only its value is another
    · intro f hf
      rcases List.mem_cons.1 hf with rfl | hf
      · exact hhead
      · exact h f (List.mem_cons_of_mem _ hf)
    · intro f hf
      rcases List.mem_cons.1 hf with rfl | hf
      · exact hhead
      · exact hrest f hf

/-- A property of all keys is kept by an update whose keys have it. -/
theorem keys_update {P : Value → Prop} {entries updates : Entries} (h : ∀ e ∈ entries, P e.1)
    (hupdates : ∀ e ∈ updates, P e.1) : ∀ e ∈ entries.update updates, P e.1 := by
  rw [Entries.update]
  induction updates generalizing entries with
  | nil => exact h
  | cons u rest ih =>
    exact ih (keys_set h (hupdates u List.mem_cons_self) u.2)
      fun e he => hupdates e (List.mem_cons_of_mem _ he)

/-- An assignment with a placeholder for its value. -/
def assignment (e : Value × Value) : Fragment := ⟨e.1.text ++ " = ?", [e.2]⟩

/-- The SET clause with the values in place. -/
def inlinedSet (render : Value → String) (assignments : Entries) : Fragment :=
  onlyIf (!assignments.isEmpty)
    (ofText ("SET " ++ commaJoined (assignments.map fun e => e.1.text ++ " = " ++ render e.2)))

/-- A SET clause has one placeholder for each value, where the columns hold none. -/
theorem setClause_inlined (render : Value → String) {assignments : Entries}
    (h : ∀ e ∈ assignments, marks e.1.text = 0) :
    (setClause assignments).IsAligned ∧
      (setClause assignments).inlined render = inlinedSet render assignments := by
  have hset : marks "SET " = 0 := by decide
  -- an assignment is one placeholder with one value
  have hall : ∀ f ∈ assignments.map assignment, f.IsAligned := by
    intro f hf
    obtain ⟨e, he, rfl⟩ := List.mem_map.1 hf
    have hmark : marks " = ?" = 1 := by decide
    simp [assignment, IsAligned, h e he, hmark]
  -- the clause is the chain of the assignments behind its keyword
  have hchain : (⟨"SET " ++ commaJoined (assignments.map fun e => e.1.text ++ " = ?"),
      assignments.map Prod.snd⟩ : Fragment) =
      ⟨"SET " ++ (chain ", " (assignments.map assignment)).sql,
        (chain ", " (assignments.map assignment)).bindings⟩ := by
    simp only [chain, commaJoined, List.map_map, List.flatMap_map, assignment,
      List.map_eq_flatMap (f := Prod.snd)]
    rfl
  have hcomma : marks ", " = 0 := by decide
  have haligned := isAligned_chain hcomma hall
  rw [setClause, inlinedSet, hchain, inlined_onlyIf]
  refine ⟨isAligned_onlyIf ?_ _, ?_⟩
  · exact isAligned_behind hset haligned
  · rw [inlined_behind render hset, inlined_chain render hcomma hall]
    -- what is left is that each assignment takes its own value
    congr 3
    simp only [commaJoined, chain, List.map_map]
    congr 1
    refine List.map_congr_left fun e he => ?_
    have hequals : fill (e.1.text ++ " = ?") [render e.2] = e.1.text ++ " = " ++ render e.2 := by
      have hleft : marks (e.1.text ++ " = ") = 0 := by
        have : marks " = " = 0 := by decide
        simp [h e he, this]
      have hsplit : e.1.text ++ " = ?" = e.1.text ++ " = " ++ "?" := by
        rw [String.append_assoc]
        rfl
      rw [hsplit, fill_append_left hleft, fill_mark]
    simpa [inlined, assignment, ofText] using hequals

/-! ## Statements -/

/-- The inlined SELECT, with a limit of the caller's choice. -/
theorem compileLimited_inlined (hrender : ∀ v, render v ≠ "") {limit : Option Int} {f : Fragment}
    (h : Inlines render b d) (hf : b.compileLimited limit = .ok f) :
    f.IsAligned ∧ d.compileLimited limit = .ok (f.inlined render) := by
  simp only [compileLimited, Except.bind_eq_ok_iff] at hf
  obtain ⟨columns, hcolumns, joins, hjoins, wheres, hwheres, groups, hgroups, havings, hhavings,
    tail, htail, offset, hoffset, hf⟩ := hf
  cases hf
  -- each part of the statement is aligned, and inlined in the other builder
  obtain ⟨columns_aligned, columns', hcolumns', columns_inlined⟩ := columnList_inlined h hcolumns
  obtain ⟨joins_aligned, hjoins'⟩ := joinFragments_inlined h hjoins
  obtain ⟨wheres_aligned, hwheres'⟩ := Condition.clause_inlined (by decide) h.wheres hwheres
  obtain ⟨havings_aligned, hhavings'⟩ := Condition.clause_inlined (by decide) h.havings hhavings
  obtain ⟨tail_aligned, htail'⟩ := tail_inlined h htail
  obtain ⟨offset_aligned, hoffset'⟩ := counted_aligned render (by decide) hoffset
  -- the words of the statement hold no placeholders
  have hhead : marks (if b.distinct then "SELECT DISTINCT" else "SELECT") = 0 := by
    cases b.distinct <;> decide
  have hfrom : marks ("FROM " ++ b.table.text) = 0 := by
    have : marks "FROM " = 0 := by decide
    simp [this, h.table_marks]
  have hgroup : marks ("GROUP BY " ++ groups) = 0 := by
    obtain ⟨names, hnames, rfl⟩ := Value.joinTexts_eq_ok_iff.1 hgroups
    have hkeyword : marks "GROUP BY " = 0 := by decide
    rw [marks_append, hkeyword, Nat.zero_add]
    refine marks_commaJoined fun s hs => ?_
    exact h.groups_marks (.str s) (hnames ▸ List.mem_map_of_mem hs)
  -- all fragments are aligned, so the statement is inlined fragment by fragment
  have hall : ∀ f ∈ [ofText (if b.distinct then "SELECT DISTINCT" else "SELECT"),
        ⟨columns, b.columnBindings⟩, onlyIf b.table.isTrue (ofText ("FROM " ++ b.table.text))] ++
      joins ++ [wheres, onlyIf (!b.groups.isEmpty) (ofText ("GROUP BY " ++ groups)), havings] ++
      tail ++ [offset], f.IsAligned := by
    simp only [List.forall_mem_append, List.forall_mem_cons, List.not_mem_nil,
      IsEmpty.forall_iff, implies_true, and_true]
    have hfirst := isAligned_ofText hhead
    have hthird := isAligned_onlyIf (isAligned_ofText hfrom) b.table.isTrue
    have hgrouped := isAligned_onlyIf (isAligned_ofText hgroup) (!b.groups.isEmpty)
    exact ⟨⟨⟨⟨⟨hfirst, columns_aligned, hthird⟩, joins_aligned⟩, wheres_aligned, hgrouped,
      havings_aligned⟩, tail_aligned⟩, offset_aligned⟩
  refine ⟨isAligned_assemble hall, ?_⟩
  rw [inlined_assemble hrender hall]
  simp only [compileLimited, hcolumns', hjoins', hwheres', h.groups, hgroups, hhavings', htail',
    h.offset, hoffset, h.distinct, h.table, Except.ok_bind, pure, Except.pure]
  simp [inlined_onlyIf, columns_inlined, hoffset']

/-- An UPDATE whose SET clause is written as the caller chooses. -/
def updateWith (set : Entries → Fragment) (b : Builder) (data : Value) : Except Error Fragment := do
  let assignments ← b.mergedAssignments data
  let joins ← b.joinFragments
  let wheres ← Condition.clause "WHERE" b.wheres
  let tail ← b.tail b.limit
  pure (assemble (
    [ofText ("UPDATE " ++ b.table.text)] ++ joins ++ [set assignments, wheres] ++ tail))

theorem compileUpdate_eq (b : Builder) (data : Value) :
    b.compileUpdate data = b.updateWith setClause data := rfl

/-- The columns of an UPDATE are those of the builder and of the data. -/
theorem mergedAssignments_marks {data : Value} {assignments : Entries} (h : Inlines render b d)
    (hdata : ∀ entries, Entries.ofValue data = .ok entries → ∀ e ∈ entries, marks e.1.text = 0)
    (hmerged : b.mergedAssignments data = .ok assignments) :
    ∀ e ∈ assignments, marks e.1.text = 0 := by
  rw [mergedAssignments] at hmerged
  -- the columns of what is given count only where it is a mapping
  split at hmerged
  · simp only [Except.bind_eq_ok_iff] at hmerged
    obtain ⟨updates, hupdates, hmerged⟩ := hmerged
    cases hmerged
    exact keys_update (P := fun v => marks v.text = 0) h.assignments_marks (hdata updates hupdates)
  · cases hmerged
    exact h.assignments_marks

/-- The inlined UPDATE. -/
theorem compileUpdate_inlined (hrender : ∀ v, render v ≠ "") {data : Value} {f : Fragment}
    (h : Inlines render b d)
    (hdata : ∀ entries, Entries.ofValue data = .ok entries → ∀ e ∈ entries, marks e.1.text = 0)
    (hf : b.compileUpdate data = .ok f) :
    f.IsAligned ∧ d.updateWith (inlinedSet render) data = .ok (f.inlined render) := by
  simp only [compileUpdate_eq, updateWith, Except.bind_eq_ok_iff] at hf
  obtain ⟨assignments, hassignments, joins, hjoins, wheres, hwheres, tail, htail, hf⟩ := hf
  cases hf
  obtain ⟨joins_aligned, hjoins'⟩ := joinFragments_inlined h hjoins
  obtain ⟨wheres_aligned, hwheres'⟩ := Condition.clause_inlined (by decide) h.wheres hwheres
  obtain ⟨tail_aligned, htail'⟩ := tail_inlined h htail
  obtain ⟨set_aligned, hset'⟩ :=
    setClause_inlined render (mergedAssignments_marks h hdata hassignments)
  have hhead : marks ("UPDATE " ++ b.table.text) = 0 := by
    have : marks "UPDATE " = 0 := by decide
    simp [this, h.table_marks]
  -- the assignments of both builders are the same, and so are those with the data
  have hmerged : d.mergedAssignments data = .ok assignments := by
    rw [← hassignments, mergedAssignments, mergedAssignments, h.assignments]
  -- all fragments are aligned, so the statement is inlined fragment by fragment
  have hall : ∀ f ∈ [ofText ("UPDATE " ++ b.table.text)] ++ joins ++
      [setClause assignments, wheres] ++ tail, f.IsAligned := by
    simp only [List.forall_mem_append, List.forall_mem_cons, List.not_mem_nil,
      IsEmpty.forall_iff, implies_true, and_true]
    exact ⟨⟨⟨isAligned_ofText hhead, joins_aligned⟩, set_aligned, wheres_aligned⟩, tail_aligned⟩
  refine ⟨isAligned_assemble hall, ?_⟩
  rw [inlined_assemble hrender hall]
  simp only [updateWith, hmerged, hjoins', hwheres', h.limit, htail', h.table, Except.ok_bind,
    pure, Except.pure]
  simp [hset']

/-- The inlined DELETE. -/
theorem compileDelete_inlined (hrender : ∀ v, render v ≠ "") {f : Fragment}
    (h : Inlines render b d) (hf : b.compileDelete = .ok f) :
    f.IsAligned ∧ d.compileDelete = .ok (f.inlined render) := by
  simp only [compileDelete, Except.bind_eq_ok_iff] at hf
  obtain ⟨joins, hjoins, wheres, hwheres, tail, htail, hf⟩ := hf
  cases hf
  obtain ⟨joins_aligned, hjoins'⟩ := joinFragments_inlined h hjoins
  obtain ⟨wheres_aligned, hwheres'⟩ := Condition.clause_inlined (by decide) h.wheres hwheres
  obtain ⟨tail_aligned, htail'⟩ := tail_inlined h htail
  -- whether the table is named twice depends on the number of joins only
  have hempty : d.joins.isEmpty = b.joins.isEmpty := by
    rw [Bool.eq_iff_iff, List.isEmpty_iff_length_eq_zero, List.isEmpty_iff_length_eq_zero,
      h.joins.length_eq]
  have hhead : marks (if b.joins.isEmpty then "DELETE FROM " ++ b.table.text
      else "DELETE " ++ b.table.text ++ " FROM " ++ b.table.text) = 0 := by
    have hfrom : marks "DELETE FROM " = 0 := by decide
    have hdelete : marks "DELETE " = 0 := by decide
    have hmiddle : marks " FROM " = 0 := by decide
    split <;> simp [hfrom, hdelete, hmiddle, h.table_marks]
  -- all fragments are aligned, so the statement is inlined fragment by fragment
  have hall : ∀ f ∈ [ofText (if b.joins.isEmpty then "DELETE FROM " ++ b.table.text
      else "DELETE " ++ b.table.text ++ " FROM " ++ b.table.text)] ++ joins ++ [wheres] ++ tail,
      f.IsAligned := by
    simp only [List.forall_mem_append, List.forall_mem_cons, List.not_mem_nil,
      IsEmpty.forall_iff, implies_true, and_true]
    exact ⟨⟨⟨isAligned_ofText hhead, joins_aligned⟩, wheres_aligned⟩, tail_aligned⟩
  refine ⟨isAligned_assemble hall, ?_⟩
  rw [inlined_assemble hrender hall]
  simp only [compileDelete, hjoins', hwheres', h.limit, htail', h.table, hempty, Except.ok_bind,
    pure, Except.pure]
  simp

end Builder

/-- A statement that is compiled from the clauses of a builder. -/
inductive Compilation where
  | select
  | count
  | update (data : Value)
  | delete

namespace Compilation

open Builder

/-- The statement, with placeholders. -/
def run (b : Builder) : Compilation → Except Error Fragment
  | .select => b.compile
  | .count => b.compileCount
  | .update data => b.compileUpdate data
  | .delete => b.compileDelete

/-- The statement of a builder whose clauses have their values in place. The placeholders of an
UPDATE's assignments come with the statement, so their values are put in place here. -/
def runInlined (render : Value → String) (b : Builder) : Compilation → Except Error Fragment
  | .update data => b.updateWith (inlinedSet render) data
  | kind => kind.run b

/-- No column of the data has a placeholder in its name. -/
def IsUnmarked : Compilation → Prop
  | .update data =>
    ∀ entries, Entries.ofValue data = .ok entries → ∀ e ∈ entries, marks e.1.text = 0
  | _ => True

/-- The inlined count. -/
theorem compileCount_inlined {render : Value → String} (hrender : ∀ v, render v ≠ "")
    {b d : Builder} {f : Fragment} (h : Inlines render b d) (hf : b.compileCount = .ok f) :
    f.IsAligned ∧ d.compileCount = .ok (f.inlined render) := by
  simp only [compileCount, Except.bind_eq_ok_iff] at hf
  obtain ⟨inner, hinner, hf⟩ := hf
  cases hf
  rw [compile] at hinner
  obtain ⟨haligned, hinlined⟩ := compileLimited_inlined hrender h hinner
  -- the selection stands in parentheses without placeholders of their own
  have hhead : marks "SELECT COUNT(*) AS aggregate FROM (" = 0 := by decide
  refine ⟨isAligned_between hhead (by decide) haligned, ?_⟩
  rw [inlined_between render hhead haligned]
  simp only [compileCount, compile, h.limit, hinlined, Except.ok_bind]
  rfl

/-- A statement of the inlined builder is the inlined statement. -/
theorem run_inlined {render : Value → String} (hrender : ∀ v, render v ≠ "") {b d : Builder}
    (h : Inlines render b d) {kind : Compilation} (hkind : kind.IsUnmarked) {f : Fragment}
    (hf : kind.run b = .ok f) :
    f.IsAligned ∧ kind.runInlined render d = .ok (f.inlined render) := by
  cases kind with
  | select =>
    have hselect := compileLimited_inlined hrender h hf
    rwa [← h.limit] at hselect
  | count => exact compileCount_inlined hrender h hf
  | update data => exact compileUpdate_inlined hrender h hkind hf
  | delete => exact compileDelete_inlined hrender h hf

end Compilation

end Querysmith
