import Querysmith.Proofs.Column.Harmless
import Querysmith.Proofs.Keeping
import Querysmith.Proofs.Table.Plan
import Querysmith.Proofs.Table.Requests
import Querysmith.Proofs.Table.Untouched

/-!
# A column that cannot be null

The modifier that rules null out reads the definition of the column again. Where the names in it
are harmless, it takes out the nullability clauses that modifiers wrote, and nothing else: the
name, the type, the literals and the other clauses stay as they were, and NOT NULL comes last.

## Main definitions

- `Entry.IsHarmless`: a column whose names are harmless
- `Entry.spared`: the entry without its nullability clauses
- `RulesNullOut`: the second definition is the first one with NOT NULL for its nullability clauses

## Key results

- `Entry.IsHarmless.strip_sql`: stripping finds the clauses that were written
- `Aims.runAll`: calls leave the column where it was, or amend it
- `rulesNullOut_of_notNull`: what the modifier leaves, whatever was done to the column before
-/

namespace Querysmith.Table

open Text Nullability

/-! ## Clauses -/

namespace Clause

/-- The names in a clause are harmless. -/
def IsHarmless : Clause → Prop
  | after column => Nullability.IsHarmless column
  | default _ | defaultNow | updateNow | null | notNull | comment _ => True

/-- Clauses that do not tell if a column can be null. -/
def spared (clauses : List Clause) : List Clause := clauses.filter fun clause => !clause.tellsNull

theorem row_cons (clause : Clause) (clauses : List Clause) :
    row (clause :: clauses) = clause.sql.toList ++ row clauses := rfl

/-- A row of clauses starts with a space, if there are any. -/
theorem breaks_row (clauses : List Clause) : Breaks (row clauses) := by
  induction clauses with
  | nil => trivial
  | cons clause clauses ih => exact clause.breaks_sql.append ih

theorem spared_cons_of_tellsNull {clause : Clause} (h : clause.tellsNull = true)
    (clauses : List Clause) : spared (clause :: clauses) = spared clauses := by
  simp [spared, h]

/-- A clause that does not tell of NULL is spared. -/
theorem spared_cons_of_not_tellsNull {clause : Clause} (h : clause.tellsNull = false)
    (clauses : List Clause) : spared (clause :: clauses) = clause :: spared clauses := by
  simp [spared, h]

/-- A clause that tells if a column can be null is one of those that stripping looks for. -/
theorem exists_of_tellsNull {clause : Clause} (h : clause.tellsNull = true) :
    ∃ ws ∈ clauses, clause.sql.toList = ' ' :: ws := by
  cases clause with
  | default value =>
    refine ⟨"DEFAULT NULL".toList, by decide, ?_⟩
    rw [sql, Value.defaultLiteral_of_isNullDefault h]
    rfl
  | null => exact ⟨"NULL".toList, by decide, rfl⟩
  | notNull => exact ⟨"NOT NULL".toList, by decide, rfl⟩
  | defaultNow | updateNow | comment _ | after _ => cases h

/-- A quoted part does not end with a blank. -/
theorem endsWord_quoted (delimiter : Char) (h : isBlank delimiter = false) (s : String) :
    EndsWord (quoted delimiter s).toList := by
  rw [quoted, String.toList_ofList]
  exact EndsWord.append ⟨delimiter, List.getLast?_concat, h⟩ [delimiter]

/-- Stripping leaves every other clause alone. -/
theorem isUntouched {clause : Clause} (h : clause.tellsNull = false) (hnames : clause.IsHarmless) :
    IsUntouched clause.sql.toList ∧ EndsWord clause.sql.toList := by
  have hsolid : ∀ {cs}, IsSolid cs → IsUntouched cs ∧ EndsWord cs := fun hcs =>
    ⟨hcs.isUntouched, hcs.ends⟩
  -- a clause that ends with a literal starts with solid words
  have hliteral : ∀ {u : String}, IsOpener u.toList → ∀ v : String,
      IsUntouched (u ++ quotedString v).toList ∧ EndsWord (u ++ quotedString v).toList := by
    intro u hu v
    have := isUntouched_nil.literal hu (by simp) v
    rw [List.append_nil, ← String.toList_append] at this
    exact ⟨this, endsWord_append_of (endsWord_quoted stringQuote (by decide) v)⟩
  -- a value or a comment is figures or a literal, and a name is one that stripping leaves alone
  cases clause with
  | default value =>
    rcases value.defaultLiteral_cases h with ⟨-, hfigures, hne⟩ | ⟨-, hquoted⟩
    · have hmarks := isMarks_of_isFigures hfigures
      have := hmarks.isSolid (by simpa using hne) " DEFAULT ".toList (by decide)
        (by decide +kernel) (by decide +kernel)
      rw [← String.toList_append] at this
      exact hsolid this
    · rw [sql, hquoted]
      exact hliteral ⟨by decide, by decide +kernel, by decide +kernel, by decide +kernel⟩ _
  | comment text =>
    exact hliteral ⟨by decide, by decide +kernel, by decide +kernel, by decide +kernel⟩ text
  | after column =>
    have := Nullability.IsHarmless.isSolid hnames " AFTER ".toList (by decide)
      (by decide +kernel) (by decide +kernel)
    rw [← String.toList_append] at this
    exact hsolid this
  | defaultNow | updateNow => exact hsolid (by decide +kernel)
  | null | notNull => cases h

/-- What is kept of a row: the spared clauses, and at most a space that a clause at the end leaves
behind. -/
theorem kept_row {clauses : List Clause} (h : ∀ clause ∈ clauses, clause.IsHarmless) :
    ∃ blanks, (blanks = [] ∨ blanks = [' ']) ∧
      kept (row clauses) = row (spared clauses) ++ blanks := by
  -- the induction is on the clauses, of which those about NULL are taken out
  induction clauses with
  | nil => exact ⟨[], .inl rfl, by simp [row, spared, kept_nil]⟩
  | cons clause clauses ih =>
    obtain ⟨blanks, hblanks, hkept⟩ := ih fun c hc => h c (List.mem_cons_of_mem clause hc)
    rw [row_cons]
    cases htells : clause.tellsNull with
    | true =>
      obtain ⟨ws, hws, hsql⟩ := exists_of_tellsNull htells
      rw [hsql, List.cons_append, kept_clause hws (breaks_row clauses),
        spared_cons_of_tellsNull htells]
      split
      · next hnil =>
        -- nothing follows the clause, so its space stays
        rw [hnil, kept_nil, eq_comm, List.append_eq_nil_iff] at hkept
        exact ⟨[' '], .inr rfl, by rw [hkept.1]; rfl⟩
      · exact ⟨blanks, hblanks, hkept⟩
    | false =>
      obtain ⟨huntouched, -⟩ := isUntouched htells (h clause List.mem_cons_self)
      refine ⟨blanks, hblanks, ?_⟩
      rw [huntouched.kept_append (breaks_row clauses), spared_cons_of_not_tellsNull htells, hkept,
        row_cons, List.append_assoc]

/-- A row of harmless clauses sheds those that tell of NULL. -/
theorem sheds_row {clauses : List Clause} (h : ∀ clause ∈ clauses, clause.IsHarmless) :
    Sheds (row clauses) (row (spared clauses)) := by
  induction clauses with
  | nil => exact sheds_nil
  | cons clause clauses ih =>
    have hsheds := ih fun c hc => h c (List.mem_cons_of_mem clause hc)
    rw [row_cons]
    -- a clause that tells of NULL is shed, any other one is left as it is
    cases htells : clause.tellsNull with
    | true =>
      obtain ⟨ws, hws, hsql⟩ := exists_of_tellsNull htells
      rw [hsql, List.cons_append, spared_cons_of_tellsNull htells]
      exact hsheds.clause hws (breaks_row clauses)
    | false =>
      obtain ⟨huntouched, -⟩ := isUntouched htells (h clause List.mem_cons_self)
      rw [spared_cons_of_not_tellsNull htells, row_cons]
      exact huntouched.sheds_append (breaks_row _) (breaks_row _) hsheds

/-- Spared clauses are left alone, and there is no blank at their end. -/
theorem isUntouched_row {clauses : List Clause} (h : ∀ clause ∈ clauses, clause.IsHarmless) :
    IsUntouched (row (spared clauses)) ∧
      (row (spared clauses) = [] ∨ EndsWord (row (spared clauses))) := by
  induction clauses with
  | nil => exact ⟨isUntouched_nil, .inl rfl⟩
  | cons clause clauses ih =>
    obtain ⟨hrow, hrowends⟩ := ih fun c hc => h c (List.mem_cons_of_mem clause hc)
    -- what is spared are the clauses that are left as they are
    cases htells : clause.tellsNull with
    | true =>
      rw [spared_cons_of_tellsNull htells]
      exact ⟨hrow, hrowends⟩
    | false =>
      obtain ⟨huntouched, hends⟩ := isUntouched htells (h clause List.mem_cons_self)
      rw [spared_cons_of_not_tellsNull htells, row_cons]
      refine ⟨huntouched.append hrow (breaks_row _), .inr ?_⟩
      rcases hrowends with hnil | hrowends
      · rwa [hnil, List.append_nil]
      · exact hrowends.append _

end Clause

/-! ## Columns -/

namespace Entry

/-- A column whose names are harmless. -/
structure IsHarmless (e : Entry) : Prop where
  isColumn : e.subject.isColumn = true
  key : Nullability.IsHarmless e.key
  clauses : ∀ clause ∈ e.clauses, clause.IsHarmless

/-- The entry without its nullability clauses. -/
def spared (e : Entry) : Entry := ⟨e.subject, Clause.spared e.clauses⟩

/-- The text of what is spared is the subject and the clauses that are spared. -/
theorem toList_sql_spared (e : Entry) :
    e.spared.sql.toList = e.subject.sql.toList ++ Clause.row (Clause.spared e.clauses) := by
  rw [toList_sql]
  rfl

namespace IsHarmless

variable {e : Entry} (h : e.IsHarmless)

include h

/-- The name and the type of a column are left alone. -/
theorem subject : IsUntouched e.subject.sql.toList ∧ EndsWord e.subject.sql.toList ∧
    ∃ cs, e.subject.sql.toList = nameQuote :: cs := by
  obtain ⟨type, hsql, htype, hends⟩ := e.subject.exists_type h.isColumn
  have hname := h.key.isSolid [] (by decide) (by decide +kernel) (by decide)
  rw [List.nil_append] at hname
  obtain ⟨a, ha⟩ := quotedName_first e.key
  have hlist : e.subject.sql.toList = (quotedName e.key).toList ++ ' ' :: type.toList := by
    rw [hsql]
    simp [Entry.key]
  rw [hlist]
  exact ⟨hname.isUntouched.append htype rfl, hends.append _, _, by rw [ha, List.cons_append]⟩

/-- What is spared of an entry is left as it is by the next removal. -/
theorem isUntouched_spared : IsUntouched e.spared.sql.toList ∧ EndsWord e.spared.sql.toList := by
  obtain ⟨hsubject, hends, -⟩ := h.subject
  obtain ⟨hrow, hrowends⟩ := Clause.isUntouched_row h.clauses
  rw [toList_sql_spared]
  refine ⟨hsubject.append hrow (Clause.breaks_row _), ?_⟩
  rcases hrowends with hnil | hrowends
  · rwa [hnil, List.append_nil]
  · exact hrowends.append _

/-- The definition has the literals and the words of the one before but for the clauses. -/
theorem sheds : Sheds e.sql.toList e.spared.sql.toList := by
  rw [toList_sql, toList_sql_spared]
  exact h.subject.1.sheds_append (Clause.breaks_row _) (Clause.breaks_row _)
    (Clause.sheds_row h.clauses)

/-- Stripping finds the clauses that were written. -/
theorem strip_sql : strip e.sql = e.spared.sql := by
  obtain ⟨hsubject, -, cs, hfirst⟩ := h.subject
  obtain ⟨blanks, hblanks, hkept⟩ := Clause.kept_row h.clauses
  have hends := h.isUntouched_spared.2
  have htrim : trimEnd blanks = [] := by rcases hblanks with rfl | rfl <;> rfl
  have hall : kept e.sql.toList = e.spared.sql.toList ++ blanks := by
    rw [toList_sql, toList_sql_spared, hsubject.kept_append (Clause.breaks_row _), hkept,
      List.append_assoc]
  have hspared :
      e.spared.sql.toList = nameQuote :: (cs ++ Clause.row (Clause.spared e.clauses)) := by
    rw [toList_sql_spared, hfirst, List.cons_append]
  -- trimming takes the space that a clause at the end has left behind, and nothing else
  have hstrip : strip e.sql = String.ofList (trimBlanks (kept e.sql.toList)) := rfl
  rw [hstrip, hall, ← String.toList_inj, String.toList_ofList, hspared, List.cons_append,
    trimBlanks_cons isBlank_nameQuote, ← List.cons_append, ← hspared, trimEnd_append hends, htrim,
    List.append_nil]

/-- What a modifier makes of the definition is what it makes of the entry. -/
theorem onto_sql (clause : Clause) : clause.onto e.sql = (e.amend clause).sql := by
  by_cases hclause : clause = .notNull
  · subst hclause
    rw [Clause.onto, h.strip_sql]
    exact (sql_concat e.subject (Clause.spared e.clauses) .notNull).symm
  · exact (sql_amend hclause).symm

/-- A harmless clause keeps an entry harmless. -/
theorem amend {clause : Clause} (hclause : clause.IsHarmless) : (e.amend clause).IsHarmless := by
  -- clauses of an entry stay harmless when one more is added
  have hadd : ∀ {clauses : List Clause} {clause : Clause}, (∀ c ∈ clauses, c.IsHarmless) →
      clause.IsHarmless → Entry.IsHarmless ⟨e.subject, clauses ++ [clause]⟩ := by
    intro clauses clause hclauses hclause
    refine ⟨h.isColumn, h.key, fun c hc => ?_⟩
    rcases List.mem_append.mp hc with hc | hc
    · exact hclauses c hc
    · rwa [List.mem_singleton.mp hc]
  unfold Entry.amend
  split
  · split
    · exact h
    · exact hadd h.clauses trivial
  · exact hadd (fun c hc => h.clauses c (List.mem_of_mem_filter hc)) trivial
  · exact hadd h.clauses hclause

end IsHarmless

end Entry

/-! ## Runs -/

/-- The modifiers are aimed at the column of an entry, which is there as the entry says. -/
structure Aims (b : Blueprint) (e : Entry) : Prop where
  aimed : b.target = some e.key
  found : b.definitions.get? e.key = some e.sql
  harmless : e.IsHarmless

namespace Aims

variable {b : Blueprint} {e : Entry} (h : Aims b e)

include h

/-- A modifier edits the definition of the column. -/
theorem amended_eq (clause : Clause) :
    amended b clause = b.edit e.key fun _ => (e.amend clause).sql := by
  have heditable : b.editable? = some e.key := by simp [Blueprint.editable?, h.aimed, h.found]
  rw [amended, heditable]
  simp only [h.found, h.harmless.onto_sql]

/-- Amending a definition is amending the entry that it aims at. -/
theorem amended {clause : Clause} (hclause : clause.IsHarmless) :
    Aims (amended b clause) (e.amend clause) where
  aimed := by
    rw [h.amended_eq, Entry.key_amend]
    exact h.aimed
  found := by
    rw [h.amended_eq, Entry.key_amend, Blueprint.edit, Definitions.get?_edit, if_pos rfl, h.found]
    rfl
  harmless := h.harmless.amend hclause

/-- An entry under another key leaves the column alone. -/
theorem place (other : Entry) (hkey : other.key ≠ e.key) : Aims ((Action.place other).run b) e where
  aimed := h.aimed
  found := (Definitions.get?_set_of_ne hkey _ _).trans h.found
  harmless := h.harmless

end Aims

/-- A call that does not define the column again, nor another column that it aims at; the name in
a clause that it writes is harmless. -/
structure Helper.Spares (helper : Helper) (name : String) : Prop where
  target? : helper.target? = none
  keys : ∀ x ∈ requests [helper], x.key ≠ name
  clause : ∀ clause, helper = .modify clause → clause.IsHarmless

/-- A modifier defines nothing. -/
theorem Helper.spares_modify {clause : Clause} (h : clause.IsHarmless) (name : String) :
    (Helper.modify clause).Spares name where
  target? := rfl
  keys _ hx := absurd hx List.not_mem_nil
  clause := by
    rintro _ ⟨⟩
    exact h

/-- Such a call leaves the column where it was, or amends it. -/
theorem Aims.run {b : Blueprint} {e : Entry} (h : Aims b e) {helper : Helper}
    (hspares : helper.Spares e.key) :
    ∃ e', e'.key = e.key ∧ Aims (helper.actions.foldl Action.run b) e' := by
  have hkeys := hspares.keys
  rw [requests_singleton] at hkeys
  -- columns would aim modifiers elsewhere, other helpers leave them aimed
  cases helper with
  | id | column => exact absurd hspares.target? (by simp [Helper.target?])
  -- both columns of the helper have other names
  | timestamps =>
    have hcreated := h.place ⟨.column "created_at" .timestamp, [.null, .defaultNow]⟩
      (hkeys _ List.mem_cons_self)
    exact ⟨e, rfl, hcreated.place
      ⟨.column "updated_at" .timestamp, [.null, .defaultNow, .updateNow]⟩
      (hkeys _ (List.mem_cons_of_mem _ List.mem_cons_self))⟩
  | unique target => exact ⟨e, rfl, h.place ⟨.unique target, []⟩ (hkeys _ List.mem_cons_self)⟩
  | index target name =>
    exact ⟨e, rfl, h.place ⟨.index (Helper.indexName target name) target, []⟩
      (hkeys _ List.mem_cons_self)⟩
  | primary target => exact ⟨e, rfl, h.place ⟨.primary target, []⟩ (hkeys _ List.mem_cons_self)⟩
  | modify clause => exact ⟨_, e.key_amend clause, h.amended (hspares.clause clause rfl)⟩

/-- Helpers that spare a key leave modifiers aimed at its entry. -/
theorem Aims.runAll {b : Blueprint} {e : Entry} (h : Aims b e) {helpers : List Helper}
    (hspares : ∀ helper ∈ helpers, helper.Spares e.key) :
    ∃ e', e'.key = e.key ∧ Aims ((Helper.allActions helpers).foldl Action.run b) e' := by
  induction helpers generalizing b e with
  | nil => exact ⟨e, rfl, h⟩
  | cons helper helpers ih =>
    obtain ⟨e', hkey, h'⟩ := h.run (hspares helper List.mem_cons_self)
    obtain ⟨e'', hkey', h''⟩ := ih h' fun other hother =>
      hkey ▸ hspares other (List.mem_cons_of_mem _ hother)
    rw [Helper.allActions, List.flatMap_cons, List.foldl_append]
    exact ⟨e'', hkey'.trans hkey, h''⟩

/-- A call that defines a column aims the modifiers at it. -/
theorem aims_of_target? {helper : Helper} {name : String} (h : helper.target? = some name)
    (hname : Nullability.IsHarmless name) (b : Blueprint) :
    ∃ e, e.key = name ∧ Aims (helper.actions.foldl Action.run b) e := by
  -- the column is placed and then aimed at
  have hplaced : ∀ e : Entry, e.IsHarmless →
      Aims (((Action.place e).run b).aim e.key) e := fun e he =>
    ⟨rfl, Definitions.get?_set_self _ _ _, he⟩
  cases helper with
  | id name' startingIndex length =>
    obtain rfl : name' = name := by simpa [Helper.target?] using h
    have haims := hplaced ⟨.counter name' length, []⟩ ⟨rfl, hname, by simp⟩
    refine ⟨⟨.counter name' length, []⟩, rfl, ?_⟩
    rw [Helper.actions]
    -- the first value of a counter is an option of the table
    by_cases hstart : 0 < startingIndex
    · rw [if_pos hstart]
      exact ⟨haims.aimed, haims.found, haims.harmless⟩
    · rw [if_neg hstart]
      exact haims
  | column name' kind =>
    obtain rfl : name' = name := by simpa [Helper.target?] using h
    exact ⟨⟨.column name' kind, [.null]⟩, rfl,
      hplaced _ ⟨rfl, hname, by simp [Clause.IsHarmless]⟩⟩
  | timestamps | unique | index | primary | modify => cases h

/-! ## What is left -/

/-- The second definition is the first one with a single nullability clause, at the end: NOT NULL
behind a text that has the literals of the first definition and, between them, its words without
the nullability clauses, and the word NULL nowhere else. -/
structure RulesNullOut (before after : String) : Prop where
  exists_body : ∃ body, after = body ++ " NOT NULL" ∧ Sheds before.toList body.toList ∧
    Pieces.ofChars after.toList =
      (Pieces.ofChars body.toList).append (Pieces.ofChars " NOT NULL".toList)
  literals_eq : (Pieces.ofChars after.toList).literals = (Pieces.ofChars before.toList).literals
  words_eq : (Pieces.ofChars after.toList).outside.flatMap words =
    ((Pieces.ofChars before.toList).outside.flatMap fun cs => withoutClauses (words cs)) ++
      ["NOT", "NULL"]

/-- With NOT NULL added, the text of a harmless entry rules NULL out. -/
theorem Entry.IsHarmless.rulesNullOut {e : Entry} (h : e.IsHarmless) :
    RulesNullOut e.sql (e.amend .notNull).sql := by
  have hsql : (e.amend .notNull).sql = e.spared.sql ++ " NOT NULL" := by
    rw [← h.onto_sql, Clause.onto, h.strip_sql]
  -- the addition has no quotes, so that the pieces of both are put together
  have hpieces : Pieces.ofChars (e.amend .notNull).sql.toList =
      (Pieces.ofChars e.spared.sql.toList).append (Pieces.ofChars " NOT NULL".toList) := by
    rw [hsql, String.toList_append]
    exact h.isUntouched_spared.1.ofChars_append rfl
  have hlast : Pieces.ofChars " NOT NULL".toList = ⟨" NOT NULL".toList, []⟩ := by decide +kernel
  refine ⟨⟨e.spared.sql, hsql, h.sheds, hpieces⟩, ?_, ?_⟩
  · rw [hpieces, Pieces.literals_append, hlast, h.sheds.literals_eq]
    exact List.append_nil _
  -- the only words about NULL are those that were added
  · have hwords : (Pieces.ofChars " NOT NULL".toList).outside.flatMap words = ["NOT", "NULL"] := by
      decide +kernel
    rw [hpieces, words_outside_append (by rw [hlast]; rfl), hwords, List.flatMap_def,
      h.sheds.words_eq, ← List.flatMap_def]

/-- Ruling null out keeps everything else. On whatever blueprint: let a column be defined, under a
harmless name, and then anything be called that defines neither this column nor another one to aim
at, in particular modifiers with whatever values and comments. Then the modifier succeeds and only
edits the definition of the column, which loses its nullability clauses and ends in NOT NULL. -/
theorem rulesNullOut_of_notNull (b : Blueprint) {helper : Helper} {name : String}
    (hcolumn : helper.target? = some name) (hname : Nullability.IsHarmless name)
    {helpers : List Helper} (hspares : ∀ other ∈ helpers, other.Spares name) :
    ∃ b₁ b₂ before after,
      BlueprintCall.runAll ((helper :: helpers).map Helper.call) b = .ok () b₁ ∧
      b₁.definitions.get? name = some before ∧
      (Helper.modify .notNull).call.run b₁ = .ok .itself b₂ ∧
      b₂ = b₁.edit name (fun _ => after) ∧
      b₂.definitions.get? name = some after ∧
      RulesNullOut before after := by
  obtain ⟨e, rfl, haims⟩ := aims_of_target? hcolumn hname b
  obtain ⟨e', hkey, haims'⟩ := haims.runAll hspares
  -- the column is made first, and the other helpers leave modifiers aimed at it
  have hrun := runAll_map_call (helper :: helpers) b
  rw [Helper.allActions, List.flatMap_cons, List.foldl_append] at hrun
  have hnotNull : Aims _ (e'.amend .notNull) := haims'.amended trivial
  rw [← hkey]
  refine ⟨_, _, e'.sql, (e'.amend .notNull).sql, hrun, haims'.found, run_call _ _,
    haims'.amended_eq .notNull, ?_, haims'.harmless.rulesNullOut⟩
  have := hnotNull.found
  rwa [Entry.key_amend] at this

/-- The word NULL in values and comments, and clauses of both kinds. -/
theorem rulesNullOut_of_notNull_status :
    let helper : Helper := .column "status" (.enum [.str "NULL", .str "it's  NOT NULL"])
    let helpers : List Helper := [.modify .notNull, .modify (.default .null),
      .modify (.comment "' NULL"), .modify .null, .modify (.after "id")]
    let before := "`status` ENUM('NULL','it''s  NOT NULL') NOT NULL DEFAULT NULL " ++
      "COMMENT ''' NULL' AFTER `id`"
    let after := "`status` ENUM('NULL','it''s  NOT NULL') COMMENT ''' NULL' AFTER `id` NOT NULL"
    helper.target? = some "status" ∧ Nullability.IsHarmless "status" ∧
    (∀ other ∈ helpers, other.Spares "status") ∧
    ∃ b₁ b₂,
      BlueprintCall.runAll ((helper :: helpers).map Helper.call) { table := .str "t" } =
        .ok () b₁ ∧
      b₁.definitions.get? "status" = some before ∧
      (Helper.modify .notNull).call.run b₁ = .ok .itself b₂ ∧
      b₂ = b₁.edit "status" (fun _ => after) ∧
      b₂.definitions.get? "status" = some after ∧
      RulesNullOut before after := by
  intro helper helpers before after
  have hcolumn : helper.target? = some "status" := rfl
  have hname : Nullability.IsHarmless "status" := by decide +kernel
  have hid : Nullability.IsHarmless "id" := by decide +kernel
  -- five modifiers that aim at the same column
  have hspares : ∀ other ∈ helpers, other.Spares "status" := by
    simp only [helpers, List.mem_cons, List.not_mem_nil, or_false]
    rintro _ (rfl | rfl | rfl | rfl | rfl) <;> refine Helper.spares_modify ?_ "status"
    · exact trivial
    · exact trivial
    · exact trivial
    · exact trivial
    · exact hid
  obtain ⟨b₁, b₂, _, _, hrun, hbefore, hnotNull, hedit, hafter, hrules⟩ :=
    rulesNullOut_of_notNull { table := .str "t" } hcolumn hname hspares
  -- the texts are those that come out when the calls are carried out
  have hfirst : (BlueprintCall.runAll ((helper :: helpers).map Helper.call)
      { table := .str "t" }).state.definitions.get? "status" = some before := by decide +kernel
  have hlast : ((Helper.modify .notNull).call.run (BlueprintCall.runAll
      ((helper :: helpers).map Helper.call) { table := .str "t" }).state).state.definitions.get?
      "status" = some after := by decide +kernel
  rw [hrun, EStateM.Result.state, hbefore] at hfirst
  rw [hrun, EStateM.Result.state, hnotNull, EStateM.Result.state, hafter] at hlast
  obtain rfl := Option.some.inj hfirst
  obtain rfl := Option.some.inj hlast
  exact ⟨hcolumn, hname, hspares, b₁, b₂, hrun, hbefore, hnotNull, hedit, hafter, hrules⟩

end Querysmith.Table
