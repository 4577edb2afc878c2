import Querysmith.Proofs.Statement.Compiled

/-!
# Changes of builders with their values in place

Every change of a builder has a counterpart on the builder that inlines it: a clause that comes
with values is added as text with the values already in their places. One builder keeps inlining
the other whatever is added to both.

## Key results

- `Builder.Inlines.addColumn`, `.addWhere` and the like: one lemma for each change of a builder
- `Condition.inlines_compare`, `.inlines_isIn`, `.inlines_between`: conditions as raw text
-/

namespace Querysmith

open Text Fragment

/-- A text without placeholders. -/
def Value.IsUnmarked (v : Value) : Prop := marks v.text = 0

instance (v : Value) : Decidable v.IsUnmarked := inferInstanceAs (Decidable (_ = _))

/-! ## Conditions -/

namespace Condition

variable {render : Value → String}

/-- The text of a condition with its values in their places. -/
def inlinedText (render : Value → String) (c : Condition) : Value :=
  .str (fill c.text.text (c.bindings.map render))

/-- A comparison has one placeholder, for its value. -/
theorem inlines_compare {column operator value conjunction : Value} (hcolumn : column.IsUnmarked)
    (hoperator : (splitOperator operator value).1.IsUnmarked) (hconj : conjunction.IsUnmarked) :
    Inlines render (compare column operator value conjunction)
      (.raw ((compare column operator value conjunction).inlinedText render) [] conjunction) := by
  have hblank : marks " " = 0 := by decide
  have hmark : marks " ?" = 1 := by decide
  refine inlines_raw render rfl ?_ hconj
  have hcolumn : marks column.text = 0 := hcolumn
  have hoperator : marks (splitOperator operator value).1.text = 0 := hoperator
  simp [compare, text, bindings, placeholderText, hcolumn, hoperator, hblank, hmark]

/-- As many placeholders as values. -/
theorem marks_placeholders (n : Nat) : marks (placeholders n) = n := by
  have hopen : marks "(" = 0 := by decide
  have hclose : marks ")" = 0 := by decide
  have hcomma : marks ", " = 0 := by decide
  have hmark : marks "?" = 1 := by decide
  simp [placeholders, commaJoined, marks_joined hcomma, hopen, hclose, hmark]

/-- Neither `IN` nor `NOT IN` holds a placeholder. -/
theorem marks_membership (negated : Bool) : marks (membership negated) = 0 := by
  cases negated <;> decide

/-- Membership has one placeholder for each value, none in an empty list. -/
theorem inlines_isIn {column : Value} {values : List Value} {conjunction : Value} (negated : Bool)
    (hcolumn : column.IsUnmarked) (hconj : conjunction.IsUnmarked) :
    Inlines render (isIn column values conjunction negated)
      (.raw ((isIn column values conjunction negated).inlinedText render) [] conjunction) := by
  have hblank : marks " " = 0 := by decide
  have hcolumn : marks column.text = 0 := hcolumn
  rw [isIn]
  split
  · -- an empty list is a condition that is always true or always false
    have htruth : marks (if negated then "1 = 1" else "0 = 1") = 0 := by
      cases negated <;> decide
    exact inlines_raw render rfl htruth hconj
  -- as many placeholders as there are values
  · refine inlines_raw render rfl ?_ hconj
    simp [text, bindings, marks_placeholders, marks_membership, hcolumn, hblank]

/-- A range has two placeholders, for its ends. -/
theorem inlines_between {column low high conjunction : Value} (hcolumn : column.IsUnmarked)
    (hconj : conjunction.IsUnmarked) :
    Inlines render (between column low high conjunction)
      (.raw ((between column low high conjunction).inlinedText render) [] conjunction) := by
  have hrange : marks " BETWEEN ? AND ?" = 2 := by decide
  have hcolumn : marks column.text = 0 := hcolumn
  refine inlines_raw render rfl ?_ hconj
  simp [between, text, bindings, hcolumn, hrange]

/-- A test for null has no value to write out. -/
theorem inlines_isNull {column conjunction : Value} (negated : Bool) (hcolumn : column.IsUnmarked)
    (hconj : conjunction.IsUnmarked) :
    Inlines render (isNull column conjunction negated) (isNull column conjunction negated) := by
  have hnull : marks (if negated then " IS NOT NULL" else " IS NULL") = 0 := by
    cases negated <;> decide
  have hcolumn : marks column.text = 0 := hcolumn
  refine inlines_raw_self ?_ hconj
  simp [hcolumn, hnull]

theorem inlines_compareColumns {first operator second conjunction : Value}
    (hfirst : first.IsUnmarked) (hoperator : operator.IsUnmarked) (hsecond : second.IsUnmarked)
    (hconj : conjunction.IsUnmarked) :
    Inlines render (compareColumns first operator second conjunction)
      (compareColumns first operator second conjunction) := by
  have hblank : marks " " = 0 := by decide
  have hfirst : marks first.text = 0 := hfirst
  have hoperator : marks operator.text = 0 := hoperator
  have hsecond : marks second.text = 0 := hsecond
  refine inlines_comparison ?_ hconj
  simp [hfirst, hoperator, hsecond, hblank]

end Condition

/-! ## Joins -/

namespace Join

variable {render : Value → String}

theorem inlines_fixed (hrender : ∀ v, render v ≠ "") {kind table first operator second : Value}
    (hkind : kind.IsUnmarked) (htable : table.IsUnmarked) (hfirst : first.IsUnmarked)
    (hoperator : operator.IsUnmarked) (hsecond : second.IsUnmarked) :
    Inlines render (fixed kind table first operator second)
      (fixed kind table first operator second) := by
  rw [fixed]
  split
  · exact inlines_nested hrender hkind htable .nil
  · exact inlines_columns hkind htable hfirst hoperator hsecond

/-- A text with a default in its place is unmarked where both are. -/
theorem isUnmarked_orElse {v default : Value} (hv : v.IsUnmarked) (hdefault : default.IsUnmarked) :
    (v.orElse default).IsUnmarked := by
  rw [Value.orElse]
  split
  · exact hv
  · exact hdefault

/-- The shorthand adds only an equals sign. -/
theorem inlines_shorthand (hrender : ∀ v, render v ≠ "")
    {kind table first operator second : Value} (hkind : kind.IsUnmarked)
    (htable : table.IsUnmarked) (hfirst : first.IsUnmarked) (hoperator : operator.IsUnmarked)
    (hsecond : second.IsUnmarked) :
    Inlines render (shorthand kind table first operator second)
      (shorthand kind table first operator second) := by
  have hequals : (Value.str "=").IsUnmarked := by decide
  have hnone : (Value.str "").IsUnmarked := by decide
  rw [shorthand]
  split
  next operator' second' hsplit =>
  -- the operator that is left out is the equals sign, and nothing else is new
  have hboth : operator'.IsUnmarked ∧ second'.IsUnmarked := by
    split at hsplit
    · cases hsplit
      exact ⟨hequals, hoperator⟩
    · cases hsplit
      exact ⟨hoperator, hsecond⟩
  exact inlines_fixed hrender hkind htable hfirst (isUnmarked_orElse hboth.1 hequals)
    (isUnmarked_orElse hboth.2 hnone)

end Join

/-! ## Builders -/

namespace Builder.Inlines

variable {render : Value → String} {b d : Builder}

/-- An empty builder has no values. -/
theorem ofEmpty {server server' table : Value} {context context' : Option ContextId}
    (htable : table.IsUnmarked) :
    Inlines render { server, context, table }
      { server := server', context := context', table } where
  table := rfl
  table_marks := htable
  distinct := rfl
  -- no columns, and so on for all clauses
  columns := ⟨[], rfl, rfl, .nil, rfl⟩
  assignments := rfl
  assignments_marks := by simp
  wheres := .nil
  joins := .nil
  groups := rfl
  groups_marks := by simp
  havings := .nil
  orders := rfl
  orders_marks := by simp
  limit := rfl
  offset := rfl

/-- The empty builders that go with two builders are one another's inlined form. -/
theorem scratch (b d : Builder) : Inlines render b.scratch d.scratch := by
  have hnone : (Value.str "").IsUnmarked := by decide
  exact ofEmpty hnone

theorem withTable (h : Inlines render b d) {table : Value} (htable : table.IsUnmarked) :
    Inlines render (b.withTable table) (d.withTable table) :=
  { h with
    table := rfl
    table_marks := htable
    columns := h.columns }

theorem clearColumns (h : Inlines render b d) : Inlines render b.clearColumns d.clearColumns :=
  { h with columns := ⟨[], rfl, rfl, .nil, rfl⟩ }

/-- A column is added together with the values that it binds. -/
theorem addColumn (h : Inlines render b d) {column : Value} {values : List Value} {column' : Value}
    (hcolumn : InlinesColumn render (column, values) column') :
    Inlines render ((b.addColumn column).addColumnBindings values)
      ((d.addColumn column').addColumnBindings []) := by
  obtain ⟨parts, hparts⟩ := h.columns
  -- the new column comes last, and its values behind those of the others
  refine { h with columns := ⟨parts ++ [(column, values)], ?_, ?_, ?_, ?_⟩ }
  · simp [Builder.addColumn, addColumnBindings, hparts.columns]
  · simp [Builder.addColumn, addColumnBindings, hparts.bindings]
  · exact List.rel_append hparts.inlined (.cons hcolumn .nil)
  · simp [Builder.addColumn, addColumnBindings, hparts.nothing]

/-- A column that binds nothing. -/
theorem addPlainColumn (h : Inlines render b d) {column : Value} (hcolumn : column.IsUnmarked) :
    Inlines render (b.addColumn column) (d.addColumn column) := by
  have hself : InlinesColumn render (column, []) column := ⟨hcolumn, by simp +contextual⟩
  simpa [addColumnBindings] using h.addColumn hself

/-- A subquery among the columns keeps its values. -/
theorem addSubselect (h : Inlines render b d) {f : Fragment} {label : String} (hf : f.IsAligned)
    (hlabel : marks label = 0) :
    Inlines render (b.addSubselect f label) (d.addSubselect (f.inlined render) label) := by
  -- neither the parentheses nor the label hold a placeholder
  have hopen : marks "(" = 0 := by decide
  have hclose : marks (")" ++ label) = 0 := by
    have : marks ")" = 0 := by decide
    simp [hlabel, this]
  refine h.addColumn ⟨?_, ?_⟩
  · have hf : marks f.sql = f.bindings.length := hf
    simpa [hopen, hlabel, hf] using hclose
  -- the values are written out within the parentheses
  · rintro s ⟨⟩
    have := fill_between hopen (hf.marks_eq render) (")" ++ label)
    simpa [inlined, ofText, String.append_assoc] using this.symm

/-- The value of an assignment stays out of the text. -/
theorem assign (h : Inlines render b d) {column : Value} (hcolumn : column.IsUnmarked)
    (value : Value) : Inlines render (b.assign column value) (d.assign column value) :=
  { h with
    columns := h.columns
    assignments := by simp [Builder.assign, h.assignments]
    assignments_marks := keys_set (P := Value.IsUnmarked) h.assignments_marks hcolumn value }

/-- A condition may be added to the one and its inlined form to the other. -/
theorem addWhere (h : Inlines render b d) {c e : Condition} (hc : Condition.Inlines render c e) :
    Inlines render (b.addWhere c) (d.addWhere e) :=
  { h with
    columns := h.columns
    wheres := List.rel_append h.wheres (.cons hc .nil) }

theorem addHaving (h : Inlines render b d) {c e : Condition} (hc : Condition.Inlines render c e) :
    Inlines render (b.addHaving c) (d.addHaving e) :=
  { h with
    columns := h.columns
    havings := List.rel_append h.havings (.cons hc .nil) }

/-- A join may be added to the one and its inlined form to the other. -/
theorem addJoin (h : Inlines render b d) {j k : Join} (hj : Join.Inlines render j k) :
    Inlines render (b.addJoin j) (d.addJoin k) :=
  { h with
    columns := h.columns
    joins := List.rel_append h.joins (.cons hj .nil) }

theorem addGroups (h : Inlines render b d) {columns : List Value}
    (hcolumns : ∀ v ∈ columns, v.IsUnmarked) :
    Inlines render (b.addGroups columns) (d.addGroups columns) :=
  { h with
    columns := h.columns
    groups := by simp [Builder.addGroups, h.groups]
    groups_marks := List.forall_mem_append.2 ⟨h.groups_marks, hcolumns⟩ }

theorem addOrder (h : Inlines render b d) {column direction : Value} (hcolumn : column.IsUnmarked)
    (hdirection : direction.IsUnmarked) :
    Inlines render (b.addOrder column direction) (d.addOrder column direction) := by
  have hblank : marks " " = 0 := by decide
  have hcolumn : marks column.text = 0 := hcolumn
  have hdirection : marks direction.text = 0 := hdirection
  refine { h with columns := h.columns, orders := ?_, orders_marks := ?_ }
  · simp [Builder.addOrder, h.orders]
  · refine List.forall_mem_append.2 ⟨h.orders_marks, ?_⟩
    simp [hcolumn, hdirection, hblank]

/-- A comparison of columns in an ON clause, which may be shortened. -/
theorem addOn (h : Inlines render b d) {first operator second conjunction : Value}
    (hfirst : first.IsUnmarked) (hoperator : operator.IsUnmarked) (hsecond : second.IsUnmarked)
    (hconj : conjunction.IsUnmarked) :
    Inlines render (b.addOn first operator second conjunction)
      (d.addOn first operator second conjunction) := by
  have hequals : (Value.str "=").IsUnmarked := by decide
  -- the second of three texts is the operator, of two it is a column
  simp only [Builder.addOn]
  split
  · exact h.addWhere (Condition.inlines_compareColumns hfirst hequals hoperator hconj)
  · exact h.addWhere (Condition.inlines_compareColumns hfirst hoperator hsecond hconj)

end Builder.Inlines

end Querysmith
