import Querysmith.Connection.Event
import Querysmith.Database.Schema
import Querysmith.Proofs.Table.Performing

/-!
# How statements begin

A statement that is compiled, or that changes a table, begins with words that no statement to begin
or end a transaction begins with. So only statements in the caller's own words can have the text of
one of those.

## Key results

- `isPlain_of_opening`: a text with other first words
- `Terminal.isPlain_statement`, `TableChange.isPlain_sql`: statements that are not in the caller's
  own words
-/

namespace Querysmith

open Text Fragment

/-- Not the text of a statement that begins or ends a transaction. -/
def Value.IsPlain (sql : Value) : Prop := ∀ word : Control, sql ≠ .str word.text

/-- No statement that begins or ends a transaction begins with these words. -/
def IsOpening (words : String) : Prop := ∀ word : Control, ¬ words.toList <+: word.text.toList

instance (words : String) : Decidable (IsOpening words) :=
  decidable_of_iff
    (∀ word ∈ [Control.begin, .commit, .rollback], ¬ words.toList <+: word.text.toList)
    ⟨fun h word => h word (by cases word <;> decide), fun h word _ => h word⟩

/-- A text with an opening that no transaction command has is plain. -/
theorem isPlain_of_opening {words : String} (h : IsOpening words) (rest : String) :
    (Value.str (words ++ rest)).IsPlain := by
  intro word heq
  have hsame : words ++ rest = word.text := by simpa using heq
  refine h word ?_
  rw [← hsame, String.toList_append]
  exact List.prefix_append _ _

/-- A statement whose first fragment begins with other words. -/
theorem isPlain_assemble {words : String} (h : IsOpening words) (rest : String)
    (bindings : List Value) (more : List Fragment) :
    (Value.str (assemble (⟨words ++ rest, bindings⟩ :: more)).sql).IsPlain := by
  by_cases hempty : words ++ rest = ""
  · -- no words at all are the beginning of everything
    have hnone : words = "" := by simpa using (String.append_eq_empty_iff.1 hempty).1
    subst hnone
    exact absurd h (by decide)
  · rw [assemble_cons (f := ⟨words ++ rest, bindings⟩) hempty, String.append_assoc]
    exact isPlain_of_opening h _

namespace Builder

variable {b : Builder} {f : Fragment}

/-- Limited selections are plain. -/
theorem isPlain_compileLimited {limit : Option Int} (h : b.compileLimited limit = .ok f) :
    (Value.str f.sql).IsPlain := by
  simp only [compileLimited, Except.bind_eq_ok_iff] at h
  obtain ⟨columns, _, joins, _, wheres, _, groups, _, havings, _, tail, _, offset, _, h⟩ := h
  cases h
  -- both kinds of query begin with the same word
  have hselect : (if b.distinct then "SELECT DISTINCT" else "SELECT") =
      "SELECT" ++ (if b.distinct then " DISTINCT" else "") := by
    cases b.distinct <;> rfl
  simp only [ofText, hselect, List.cons_append]
  exact isPlain_assemble (by decide) _ _ _

theorem isPlain_compile (h : b.compile = .ok f) : (Value.str f.sql).IsPlain :=
  isPlain_compileLimited h

theorem isPlain_compileCount (h : b.compileCount = .ok f) : (Value.str f.sql).IsPlain := by
  rw [compileCount] at h
  obtain ⟨inner, _, h⟩ := Except.bind_eq_ok_iff.1 h
  cases h
  rw [String.append_assoc]
  exact isPlain_of_opening (by decide) _

theorem isPlain_compileUpdate {data : Value} (h : b.compileUpdate data = .ok f) :
    (Value.str f.sql).IsPlain := by
  simp only [compileUpdate, Except.bind_eq_ok_iff] at h
  obtain ⟨assignments, _, joins, _, wheres, _, tail, _, h⟩ := h
  cases h
  exact isPlain_assemble (by decide) _ _ _

theorem isPlain_compileDelete (h : b.compileDelete = .ok f) : (Value.str f.sql).IsPlain := by
  simp only [compileDelete, Except.bind_eq_ok_iff] at h
  obtain ⟨joins, _, wheres, _, tail, _, h⟩ := h
  cases h
  -- with joins or without, the text opens with the same word
  have hdelete : (if b.joins.isEmpty then "DELETE FROM " ++ b.table.text
      else "DELETE " ++ b.table.text ++ " FROM " ++ b.table.text) =
      "DELETE " ++ (if b.joins.isEmpty then "FROM " ++ b.table.text
        else b.table.text ++ " FROM " ++ b.table.text) := by
    have hwords : "DELETE FROM " = "DELETE " ++ "FROM " := rfl
    split
    · rw [hwords, String.append_assoc]
    · simp only [String.append_assoc]
  simp only [hdelete]
  exact isPlain_assemble (by decide) _ _ _

/-- Insertions are plain, whichever verb they open with. -/
theorem isPlain_compileInsert {rows : Value} {verb : String} (hverb : IsOpening verb)
    (h : b.compileInsert rows (.str verb) = .ok f) : (Value.str f.sql).IsPlain := by
  simp only [compileInsert, Except.bind_eq_ok_iff] at h
  obtain ⟨columns, _, items, _, values, _, names, _, h⟩ := h
  cases h
  have htext : (Value.str verb).text = verb := rfl
  simp only [ofText, htext, String.append_assoc]
  exact isPlain_assemble hverb _ _ _

end Builder

/-- The statement of a call is no statement to begin or end a transaction. -/
theorem Terminal.isPlain_statement {t : Terminal} {b : Builder} {f : Fragment}
    (h : t.statement b = .ok f) : (Value.str f.sql).IsPlain := by
  cases t with
  | get => exact Builder.isPlain_compile h
  | first => exact Builder.isPlain_compileLimited h
  | count => exact Builder.isPlain_compileCount h
  | hasRows => exact Builder.isPlain_compileCount h
  | toFrame lowercase => exact Builder.isPlain_compile h
  | insert rows => exact Builder.isPlain_compileInsert (by decide) h
  | replace rows => exact Builder.isPlain_compileInsert (by decide) h
  | update data => exact Builder.isPlain_compileUpdate h
  | delete => exact Builder.isPlain_compileDelete h

namespace Blueprint

/-- In the mode for creation the text is that of CREATE, if there are definitions. -/
private theorem toSql_create (b : Blueprint) : b.toSql (.str "create") =
    if b.definitions.isEmpty then .ok "" else (quoteName b.table).map b.createSql := by
  rw [toSql]
  split
  · rfl
  · cases quoteName b.table <;> rfl

/-- In the mode for alteration the text is that of ALTER, if there are definitions. -/
private theorem toSql_alter (b : Blueprint) : b.toSql (.str "alter") =
    if b.definitions.isEmpty then .ok "" else (quoteName b.table).map b.alterSql := by
  rw [toSql]
  split
  · rfl
  · cases quoteName b.table <;> rfl

/-- A blueprint makes statements that create a table or add to it. -/
private theorem isPlain_toSql {b : Blueprint} {mode sql : String}
    (hmode : mode = "create" ∨ mode = "alter") (h : b.toSql (.str mode) = .ok sql)
    (hsql : sql ≠ "") : (Value.str sql).IsPlain := by
  -- both kinds of statement open with two words that are no transaction statement
  rcases hmode with rfl | rfl
  · rw [toSql_create] at h
    split at h
    · cases h
      exact absurd rfl hsql
    · obtain ⟨name, _, rfl⟩ := Except.map_eq_ok_iff.1 h
      unfold createSql
      simp only [String.append_assoc]
      exact isPlain_of_opening (by decide) _
  · rw [toSql_alter] at h
    split at h
    · cases h
      exact absurd rfl hsql
    · obtain ⟨name, _, rfl⟩ := Except.map_eq_ok_iff.1 h
      unfold alterSql
      simp only [String.append_assoc]
      exact isPlain_of_opening (by decide) _

end Blueprint

namespace TableChange

/-- The statements of blueprints are plain, unless they are empty. -/
private theorem isPlain_blueprintSql {table : Value} {calls : List BlueprintCall}
    {mode sql : String} (hmode : mode = "create" ∨ mode = "alter")
    (h : blueprintSql table calls mode = .ok sql) (hsql : sql ≠ "") : (Value.str sql).IsPlain := by
  rw [blueprintSql] at h
  split at h
  · exact Blueprint.isPlain_toSql hmode (Blueprint.toSql_of_writtenSql h) hsql
  · exact nomatch h

/-- The statement of a change, if there is one, is no statement to begin or end a transaction. -/
theorem isPlain_sql {change : TableChange} {text : String} (h : change.sql = .ok text)
    (htext : text ≠ "") : (Value.str text).IsPlain := by
  cases change with
  | create table calls => exact isPlain_blueprintSql (.inl rfl) h htext
  | extend table calls => exact isPlain_blueprintSql (.inr rfl) h htext
  | _ =>
    simp only [sql, Except.bind_eq_ok_iff] at h
    -- past the names that are written, down to the text
    repeat obtain ⟨_, _, h⟩ := h
    try simp only [String.append_assoc]
    exact isPlain_of_opening (by decide) _

end TableChange

end Querysmith
