import Mathlib.Data.List.Induction
import Querysmith.Proofs.Column.Tail
import Querysmith.Proofs.Table.Untouched

/-!
# What becomes of the definitions that were asked for

Columns and constraints are kept under keys of one name space: a column under its name, an index
under a name that the caller gives, and every other constraint under a name made from a column's.
Nothing that was asked for is lost, and no modifier edits a constraint, exactly when no two
different things were asked for under one key.

## Main definitions

- `requests`: what helper calls ask for, in order
- `KeysApart`: no key stands for two different things, unless it is a column defined again
- `Intact`: everything that was asked for is there

## Key results

- `Clause.onto_column`: a modifier leaves the start of a column's definition as it is
- `Records.place`, `Records.amend`: what is found under each key after a step
- `records_build`: and after a run
- `intact_iff_keysApart`: nothing is lost exactly when the keys are apart
-/

namespace Querysmith.Table

open Text Nullability

/-! ## Requests -/

/-- The subject that an action defines. -/
def Action.subject? : Action → Option Subject
  | place entry => some entry.subject
  | aim _ | start _ | amend _ => none

/-- What helper calls ask for, in order. -/
def requests (helpers : List Helper) : List Subject :=
  (Helper.allActions helpers).filterMap Action.subject?

/-- The column that a helper aims the modifiers at. -/
def Helper.target? : Helper → Option String
  | id name _ _ => some name
  | column name _ => some name
  | _ => none

/-- The column that was defined last. -/
def lastColumn (helpers : List Helper) : Option String :=
  (helpers.filterMap Helper.target?).getLast?

/-- No key stands for two different things; a column may be defined again. -/
def KeysApart (subjects : List Subject) : Prop :=
  ∀ x ∈ subjects, ∀ y ∈ subjects, x.key = y.key →
    x = y ∨ (x.isColumn = true ∧ y.isColumn = true)

/-- Everything that was asked for is in the blueprint: each column under its name, its definition
starting with the quoted name and the type that it was given last, and each constraint as it was
asked for. -/
structure Intact (subjects : List Subject) (b : Blueprint) : Prop where
  columns : ∀ {earlier x later}, subjects = earlier ++ x :: later → x.isColumn = true →
    (∀ y ∈ later, y.isColumn = true → y.key ≠ x.key) →
    ∃ rest, (x.key, x.sql ++ rest) ∈ b.definitions
  constraints : ∀ x ∈ subjects, x.isColumn = false → (x.key, x.sql) ∈ b.definitions

/-! ## Modifiers on columns -/

namespace Clause

/-- A clause starts with a space. -/
theorem breaks_sql (clause : Clause) : Breaks clause.sql.toList := by
  cases clause <;> simp [sql, Breaks]

/-- A modifier leaves the name and the type of a column as they are; taking out nullability
clauses does where the name is inert. -/
theorem onto_column {clause : Clause} {name type rest : String}
    (hname : clause = .notNull → IsInert name) (htype : IsUntouched (' ' :: type.toList))
    (hends : EndsWord (' ' :: type.toList)) (hrest : Breaks rest.toList) :
    ∃ rest', Breaks rest'.toList ∧
      clause.onto (quotedName name ++ " " ++ type ++ rest) =
        quotedName name ++ " " ++ type ++ rest' := by
  -- all clauses but NULL and NOT NULL are put at the end
  have hadd : ∀ clause : Clause, ∃ rest', Breaks rest'.toList ∧
      quotedName name ++ " " ++ type ++ rest ++ clause.sql =
        quotedName name ++ " " ++ type ++ rest' := fun clause =>
    ⟨rest ++ clause.sql, by simpa using hrest.append clause.breaks_sql, String.append_assoc ..⟩
  cases clause with
  | default value => exact hadd (.default value)
  | defaultNow => exact hadd .defaultNow
  | updateNow => exact hadd .updateNow
  | comment text => exact hadd (.comment text)
  | after column => exact hadd (.after column)
  | null =>
    -- NULL is put at the end as well, unless a nullability clause is there
    rw [onto]
    split
    · exact ⟨rest, hrest, rfl⟩
    · exact hadd .null
  | notNull =>
    -- an inert name is split off, and then the type
    have hinert := hname rfl
    have htail : (" " ++ type ++ rest).toList = ' ' :: type.toList ++ rest.toList := by simp
    have hstrip : stripTail (" " ++ type ++ rest) =
        " " ++ type ++ String.ofList (trimEnd (kept rest.toList)) := by
      rw [stripTail, htail, htype.kept_append hrest, trimEnd_append hends, ← String.toList_inj]
      simp
    refine ⟨String.ofList (trimEnd (kept rest.toList)) ++ " NOT NULL", ?_, ?_⟩
    · rw [String.toList_append, String.toList_ofList]
      exact ((breaks_kept hrest).of_isPrefix (trimEnd_isPrefix _)).append rfl
    · have hassoc : quotedName name ++ " " ++ type ++ rest =
          quotedName name ++ (" " ++ type ++ rest) := by simp [String.append_assoc]
      rw [onto, hassoc, strip_quotedName_append hinert.paired, hinert.kept_eq, hstrip]
      simp [String.append_assoc]

end Clause

/-! ## Who holds a key -/

/-- The last subject that was asked for under a key. -/
def holder (key : String) (subjects : List Subject) : Option Subject :=
  (subjects.filter fun x => x.key = key).getLast?

/-- A key is held by the last subject that has it. -/
theorem holder_concat (key : String) (subjects : List Subject) (x : Subject) :
    holder key (subjects ++ [x]) = if x.key = key then some x else holder key subjects := by
  by_cases h : x.key = key <;> simp [holder, h]

/-- Who holds a key is among the subjects and has it. -/
theorem holder_eq_some {key : String} {subjects : List Subject} {x : Subject}
    (h : holder key subjects = some x) : x ∈ subjects ∧ x.key = key := by
  have := List.mem_of_getLast? h
  simpa using this

/-- The key of a subject is held. -/
theorem exists_holder {subjects : List Subject} {x : Subject} (h : x ∈ subjects) :
    ∃ z, holder x.key subjects = some z := by
  have hne : subjects.filter (fun y => y.key = x.key) ≠ [] :=
    List.ne_nil_of_mem (List.mem_filter.mpr ⟨h, by simp⟩)
  exact ⟨_, List.getLast?_eq_some_getLast hne⟩

/-- What was asked for last under its key holds it. -/
theorem holder_of_last (earlier : List Subject) {x : Subject} {later : List Subject}
    (h : ∀ y ∈ later, y.key ≠ x.key) : holder x.key (earlier ++ x :: later) = some x := by
  have hnone : later.filter (fun y => y.key = x.key) = [] := by
    simpa [List.filter_eq_nil_iff] using h
  simp [holder, List.filter_append, hnone]

/-- Fewer subjects keep their keys apart. -/
theorem KeysApart.of_sublist {subjects others : List Subject} (h : KeysApart subjects)
    (hsub : others.Sublist subjects) : KeysApart others :=
  fun x hx y hy => h x (hsub.subset hx) y (hsub.subset hy)

/-! ## What is found -/

/-- The text of an entry starts with that of its subject, and a space follows. -/
theorem Entry.exists_sql (e : Entry) :
    ∃ rest, Breaks rest.toList ∧ e.sql = e.subject.sql ++ rest := by
  obtain ⟨subject, clauses⟩ := e
  induction clauses using List.reverseRecOn with
  | nil => exact ⟨"", trivial, by simp [sql]⟩
  | append_singleton clauses clause ih =>
    obtain ⟨rest, hrest, hsql⟩ := ih
    refine ⟨rest ++ clause.sql, by simpa using hrest.append clause.breaks_sql, ?_⟩
    simp only [sql] at hsql ⊢
    rw [List.foldl_append, hsql, ← String.append_assoc]
    rfl

/-- What is found in the blueprint: under each key the definition of the subject that holds it,
and nothing behind that of a constraint. -/
structure Records (subjects : List Subject) (target : Option String) (b : Blueprint) : Prop where
  distinct : b.definitions.Distinct
  aimed : b.target = target
  isColumn : ∀ {name}, target = some name → ∃ y ∈ subjects, y.isColumn = true ∧ y.key = name
  found : ∀ {key x}, holder key subjects = some x →
    ∃ rest, Breaks rest.toList ∧ b.definitions.get? key = some (x.sql ++ rest)
  exact : ∀ {key x}, holder key subjects = some x → x.isColumn = false →
    b.definitions.get? key = some x.sql

namespace Records

variable {subjects : List Subject} {target : Option String} {b : Blueprint}

theorem place (h : Records subjects target b) {e : Entry}
    (hclauses : e.subject.isColumn = false → e.clauses = []) :
    Records (subjects ++ [e.subject]) target ((Action.place e).run b) where
  distinct := h.distinct.set _ _
  aimed := h.aimed
  isColumn ht := by
    obtain ⟨y, hy, hcolumn⟩ := h.isColumn ht
    exact ⟨y, List.mem_append_left _ hy, hcolumn⟩
  found {key x} hholder := by
    rw [holder_concat] at hholder
    -- the new subject holds its key from now on, whoever held it before
    by_cases hkey : e.subject.key = key
    · obtain rfl : e.subject = x := by simpa [hkey] using hholder
      obtain ⟨rest, hrest, hsql⟩ := e.exists_sql
      refine ⟨rest, hrest, ?_⟩
      rw [← hsql, ← hkey]
      exact Definitions.get?_set_self _ _ _
    · rw [if_neg hkey] at hholder
      obtain ⟨rest, hrest, hget⟩ := h.found hholder
      exact ⟨rest, hrest, (Definitions.get?_set_of_ne hkey _ _).trans hget⟩
  exact {key x} hholder hx := by
    rw [holder_concat] at hholder
    by_cases hkey : e.subject.key = key
    · obtain rfl : e.subject = x := by simpa [hkey] using hholder
      -- a constraint is stored with no clauses behind it
      have hsql : e.sql = e.subject.sql := by rw [Entry.sql, hclauses hx]; rfl
      rw [← hsql, ← hkey]
      exact Definitions.get?_set_self _ _ _
    · rw [if_neg hkey] at hholder
      exact (Definitions.get?_set_of_ne hkey _ _).trans (h.exact hholder hx)

theorem aim (h : Records subjects target b) {y : Subject} (hy : y ∈ subjects)
    (hcolumn : y.isColumn = true) : Records subjects (some y.key) ((Action.aim y.key).run b) where
  distinct := h.distinct
  aimed := rfl
  isColumn := by
    rintro name ⟨⟩
    exact ⟨y, hy, hcolumn, rfl⟩
  found := h.found
  exact := h.exact

theorem start (h : Records subjects target b) (index : Int) :
    Records subjects target ((Action.start index).run b) :=
  ⟨h.distinct, h.aimed, h.isColumn, h.found, h.exact⟩

/-- A modifier edits the definition of a column, behind the type. -/
theorem amend (h : Records subjects target b) (hapart : KeysApart subjects) {clause : Clause}
    (hname : clause = .notNull → ∀ name, target = some name → IsInert name) :
    Records subjects target (amended b clause) := by
  cases htarget : target with
  | none =>
    have hnone : b.editable? = none := by rw [Blueprint.editable?, h.aimed, htarget]; rfl
    subst htarget
    rw [amended, hnone]
    exact ⟨h.distinct, h.aimed, h.isColumn, h.found, h.exact⟩
  | some name =>
    subst htarget
    obtain ⟨y, hy, hcolumn, rfl⟩ := h.isColumn rfl
    -- what holds the key now need not be what the modifiers were aimed at, but is a column too
    obtain ⟨x, hholder⟩ := exists_holder hy
    obtain ⟨hx, hkey⟩ := holder_eq_some hholder
    have hxcolumn : x.isColumn = true :=
      (hapart x hx y hy hkey).elim (fun hxy => hxy ▸ hcolumn) And.left
    obtain ⟨type, hsql, htype, hends⟩ := x.exists_type hxcolumn
    obtain ⟨rest, hrest, hget⟩ := h.found hholder
    obtain ⟨rest', hrest', honto⟩ := Clause.onto_column
      (fun hclause => hkey ▸ hname hclause y.key rfl) htype hends hrest
    rw [← hsql] at honto
    have heditable : b.editable? = some y.key := by
      simp [Blueprint.editable?, h.aimed, hget]
    have hamended : amended b clause = b.edit y.key fun _ => x.sql ++ rest' := by
      rw [amended, heditable]
      simp only [hget, honto]
    rw [hamended]
    -- the edited key belongs to a column, so no constraint's text has changed
    refine ⟨h.distinct.edit y.key fun _ => x.sql ++ rest', h.aimed, h.isColumn,
      fun {key z} hz => ?_, fun {key z} hz hzcolumn => ?_⟩
    · rw [Blueprint.edit, Definitions.get?_edit]
      by_cases hk : key = y.key
      · subst hk
        obtain rfl : x = z := Option.some.inj (hholder.symm.trans hz)
        exact ⟨rest', hrest', by simp [hget]⟩
      · rw [if_neg hk]
        exact h.found hz
    · have hk : key ≠ y.key := by
        rintro rfl
        obtain rfl : x = z := Option.some.inj (hholder.symm.trans hz)
        simp [hxcolumn] at hzcolumn
      rw [Blueprint.edit, Definitions.get?_edit, if_neg hk]
      exact h.exact hz hzcolumn

end Records

/-! ## Runs -/

theorem requests_append (helpers others : List Helper) :
    requests (helpers ++ others) = requests helpers ++ requests others := by
  simp [requests, Helper.allActions, List.flatMap_append]

theorem requests_singleton (helper : Helper) :
    requests [helper] = helper.actions.filterMap Action.subject? := by
  simp [requests, Helper.allActions]

/-- The last column is that of the last helper that has one. -/
theorem lastColumn_concat (helpers : List Helper) (helper : Helper) :
    lastColumn (helpers ++ [helper]) = helper.target?.or (lastColumn helpers) := by
  rw [lastColumn, List.filterMap_append, List.getLast?_append]
  cases h : helper.target? <;> simp [h, lastColumn]

theorem records_nil (table : String) : Records [] none ({ table := .str table } : Blueprint) where
  distinct := List.nodup_nil
  aimed := rfl
  isColumn h := by cases h
  found h := by cases h
  exact h := by cases h

/-- Names of columns on which `notNull` is called have to be inert. -/
def SparesNames (helpers : List Helper) : Prop :=
  ∀ done name, done ++ [.modify .notNull] <+: helpers → lastColumn done = some name → IsInert name

/-- Helpers with inert names spare them. -/
theorem sparesNames_of_isInert {helpers : List Helper}
    (h : ∀ helper ∈ helpers, ∀ name, helper.target? = some name → IsInert name) :
    SparesNames helpers := by
  intro done name hdone hname
  obtain ⟨helper, hmem, htarget⟩ := List.mem_filterMap.mp (List.mem_of_getLast? hname)
  exact h helper (hdone.subset (List.mem_append_left _ hmem)) name htarget

/-- While the keys are apart, each of them has the definition of the subject that holds it. -/
theorem records_build (table : String) {helpers : List Helper}
    (hapart : KeysApart (requests helpers)) (hnames : SparesNames helpers) :
    Records (requests helpers) (lastColumn helpers) (build table helpers) := by
  -- the last helper comes upon what the others before it have built
  induction helpers using List.reverseRecOn with
  | nil => exact records_nil table
  | append_singleton helpers helper ih =>
    rw [requests_append, requests_singleton] at hapart ⊢
    have h := ih (hapart.of_sublist (List.sublist_append_left _ _))
      fun done name hdone => hnames done name (hdone.trans (List.prefix_append _ _))
    rw [lastColumn_concat, build_concat]
    cases helper with
    | id name startingIndex length =>
      have hplaced := (h.place (e := ⟨.counter name length, []⟩) fun _ => rfl).aim
        (List.mem_append_right _ (List.mem_singleton_self _)) rfl
      rw [Helper.actions]
      -- the counter starts where the helper says, if it says so
      by_cases hstart : 0 < startingIndex
      · rw [if_pos hstart]
        exact hplaced.start startingIndex
      · rw [if_neg hstart]
        exact hplaced
    | column name kind =>
      exact (h.place (e := ⟨.column name kind, [.null]⟩) (by simp [Subject.isColumn])).aim
        (List.mem_append_right _ (List.mem_singleton_self _)) rfl
    | timestamps =>
      -- two columns are placed, and no modifier is aimed at them
      have hfirst := h.place (e := ⟨.column "created_at" .timestamp, [.null, .defaultNow]⟩)
        (by simp [Subject.isColumn])
      have hsecond := hfirst.place
        (e := ⟨.column "updated_at" .timestamp, [.null, .defaultNow, .updateNow]⟩)
        (by simp [Subject.isColumn])
      rw [List.append_assoc] at hsecond
      exact hsecond
    | unique target => exact h.place (e := ⟨.unique target, []⟩) fun _ => rfl
    | index target name =>
      exact h.place (e := ⟨.index (Helper.indexName target name) target, []⟩) fun _ => rfl
    | primary target => exact h.place (e := ⟨.primary target, []⟩) fun _ => rfl
    | modify clause =>
      rw [show (Helper.modify clause).actions.filterMap Action.subject? = [] from rfl,
        List.append_nil] at hapart ⊢
      refine h.amend hapart fun hclause name hname => ?_
      subst hclause
      exact hnames helpers name List.prefix_rfl hname

/-! ## Nothing is lost -/

/-- Where the keys are apart, every subject is intact. -/
theorem Records.intact {subjects : List Subject} {target : Option String} {b : Blueprint}
    (h : Records subjects target b) (hapart : KeysApart subjects) : Intact subjects b where
  columns := by
    rintro earlier x later rfl hx hlater
    -- later subjects with the key would be columns, and there is none
    have hlast : ∀ y ∈ later, y.key ≠ x.key := by
      intro y hy hkey
      have hcolumn : y.isColumn = true :=
        (hapart y (by simp [hy]) x (by simp) hkey).elim (fun hyx => hyx ▸ hx) And.left
      exact hlater y hy hcolumn hkey
    obtain ⟨rest, -, hget⟩ := h.found (holder_of_last earlier hlast)
    exact ⟨rest, Definitions.mem_of_get? hget⟩
  constraints x hx hconstraint := by
    obtain ⟨z, hz⟩ := exists_holder hx
    obtain ⟨hmem, hkey⟩ := holder_eq_some hz
    -- a constraint shares its key with nothing else
    obtain rfl : z = x :=
      (hapart z hmem x hx hkey).resolve_right fun h => by simp [hconstraint] at h
    exact Definitions.mem_of_get? (h.exact hz hconstraint)

/-- Doubling delimiters loses nothing. -/
theorem doubled_injective {delimiter : Char} {cs ds : List Char}
    (h : doubled delimiter cs = doubled delimiter ds) : cs = ds := by
  induction cs generalizing ds with
  | nil =>
    cases ds with
    | nil => rfl
    | cons d ds =>
      rw [doubled, doubled] at h
      split at h <;> cases h
  | cons c cs ih =>
    cases ds with
    | nil =>
      rw [doubled, doubled] at h
      split at h <;> cases h
    | cons d ds =>
      rw [doubled, doubled] at h
      split at h <;> split at h
      · -- both start with the delimiter, or neither does
        next hc hd => rw [hc, hd, ih (by simpa using h)]
      · next hd => exact absurd (List.cons.inj h).1.symm hd
      · next hc _ => exact absurd (List.cons.inj h).1 hc
      · obtain ⟨hcd, hrest⟩ := List.cons.inj h
        rw [hcd, ih hrest]

/-- Quoting a name loses nothing. -/
theorem quotedName_injective {a b : String} (h : quotedName a = quotedName b) : a = b := by
  rw [← String.toList_inj, toList_quotedName, toList_quotedName, List.cons.injEq,
    List.append_cancel_right_eq] at h
  exact String.toList_inj.mp (doubled_injective h.2)

/-- A column's definition starts with the delimiter of names, and no constraint's does. -/
theorem Subject.head?_sql (x : Subject) :
    x.sql.toList.head? = some nameQuote ↔ x.isColumn = true := by
  cases x <;> simp [sql, isColumn, toList_quotedName] <;> decide

/-- A constraint can be told from its key and its definition. -/
theorem Subject.eq_of_sql {x y : Subject} (hx : x.isColumn = false) (hy : y.isColumn = false)
    (hkey : x.key = y.key) (hsql : x.sql = y.sql) : x = y := by
  -- two kinds of constraints differ in their first letters
  have hhead := congrArg (fun s => s.toList.head?) hsql
  cases x <;> cases y <;> simp [sql, isColumn, key] at hx hy hhead hkey hsql ⊢
  case unique.unique => exact hkey
  case index.index =>
    subst hkey
    exact ⟨rfl, quotedName_injective ((String.append_right_inj _).mp hsql)⟩
  case primary.primary => exact hkey

/-- If a subject has a property there is a last one that has it. -/
theorem exists_last {p : Subject → Prop} {subjects : List Subject} (h : ∃ x ∈ subjects, p x) :
    ∃ earlier x later, subjects = earlier ++ x :: later ∧ p x ∧ ∀ y ∈ later, ¬ p y := by
  induction subjects with
  | nil => simp at h
  | cons z subjects ih =>
    by_cases hrest : ∃ x ∈ subjects, p x
    · obtain ⟨earlier, x, later, rfl, hx, hlater⟩ := ih hrest
      exact ⟨z :: earlier, x, later, rfl, hx, hlater⟩
    · refine ⟨[], z, subjects, rfl, ?_, fun y hy hpy => hrest ⟨y, hy, hpy⟩⟩
      obtain ⟨x, hx, hpx⟩ := h
      exact (List.mem_cons.mp hx).elim (fun hxz => hxz ▸ hpx) fun hx => absurd ⟨x, hx, hpx⟩ hrest

/-- Two different things under one key cannot both be there. -/
theorem Intact.keysApart {subjects : List Subject} {b : Blueprint} (h : Intact subjects b)
    (hdistinct : b.definitions.Distinct) : KeysApart subjects := by
  -- a constraint leaves no room for anything else under its key
  have hconstraint : ∀ x ∈ subjects, ∀ y ∈ subjects, x.key = y.key → y.isColumn = false →
      x = y := by
    intro x hx y hy hkey hyconstraint
    have hmem := h.constraints y hy hyconstraint
    have hunique : ∀ definition, (y.key, definition) ∈ b.definitions → definition = y.sql :=
      fun definition hd => Option.some.inj
        ((hdistinct.mem_iff_get?.mp hd).symm.trans (hdistinct.mem_iff_get?.mp hmem))
    cases hxcolumn : x.isColumn with
    | false =>
      have hsql := hunique x.sql (hkey ▸ h.constraints x hx hxcolumn)
      exact Subject.eq_of_sql hxcolumn hyconstraint hkey hsql
    | true =>
      -- the column that was defined last under the key starts with a quoted name
      obtain ⟨earlier, z, later, hsplit, ⟨hzkey, hzcolumn⟩, hlater⟩ :=
        exists_last (p := fun z => z.key = y.key ∧ z.isColumn = true) ⟨x, hx, hkey, hxcolumn⟩
      obtain ⟨rest, hz⟩ := h.columns hsplit hzcolumn fun w hw hwcolumn hwkey =>
        hlater w hw ⟨hwkey.trans hzkey, hwcolumn⟩
      have hsql := hunique _ (hzkey ▸ hz)
      have hhead := z.head?_sql.mpr hzcolumn
      have hyhead := mt y.head?_sql.mp (by simp [hyconstraint])
      rw [← hsql, String.toList_append, List.head?_append, hhead] at hyhead
      exact absurd rfl hyhead
  intro x hx y hy hkey
  cases hxcolumn : x.isColumn with
  | false => exact .inl (hconstraint y hy x hx hkey.symm hxcolumn).symm
  | true =>
    cases hycolumn : y.isColumn with
    | false => exact .inl (hconstraint x hx y hy hkey hycolumn)
    | true => exact .inr ⟨rfl, rfl⟩

/-- Helper calls succeed, and the statements list the definitions that they leave. At every point
of the run everything that was asked for so far is there, so that no modifier has edited a
constraint, exactly when no key stands for two different things. -/
theorem intact_iff_keysApart (table : String) (helpers : List Helper)
    (hnames : SparesNames helpers) :
    BlueprintCall.runAll (helpers.map Helper.call) { table := .str table } =
        .ok () (build table helpers) ∧
      Lists table (build table helpers) ∧
      ((∀ done, done <+: helpers → Intact (requests done) (build table done)) ↔
        KeysApart (requests helpers)) := by
  refine ⟨runAll_calls table helpers, lists_build table helpers, fun h => ?_,
    fun h done hdone => ?_⟩
  · exact (h helpers List.prefix_rfl).keysApart (distinct_build table helpers)
  -- fewer helpers make fewer requests, whose keys are apart as well
  · have hsub : (requests done).Sublist (requests helpers) := by
      obtain ⟨rest, rfl⟩ := hdone
      rw [requests_append]
      exact List.sublist_append_left _ _
    have hapart := h.of_sublist hsub
    exact (records_build table hapart fun earlier name hearlier =>
      hnames earlier name (hearlier.trans hdone)).intact hapart

theorem isInert_email : IsInert "email" := by
  refine ⟨by decide +kernel, by decide +kernel, fun s hs => ?_⟩
  have houtside : (Pieces.ofChars (quotedName "email").toList).outside =
      ["\x60email\x60".toList] := by decide +kernel
  rw [houtside] at hs
  obtain rfl := List.mem_singleton.mp hs
  decide +kernel

/-- An index that bears the name of a column takes the place of its definition; under a name of its
own it leaves the column alone. -/
theorem intact_iff_keysApart_email :
    let helpers := fun index : String =>
      [Helper.column "email" (.string 255), .index "id" (some index), .modify .notNull]
    (∀ done, done <+: helpers "by_id" → Intact (requests done) (build "t" done)) ∧
      ¬ ∀ done, done <+: helpers "email" → Intact (requests done) (build "t" done) := by
  intro helpers
  have hnames : ∀ index, SparesNames (helpers index) := fun index =>
    sparesNames_of_isInert (by simp [helpers, Helper.target?, isInert_email])
  have hrequests : ∀ index, index ≠ "" → requests (helpers index) =
      [.column "email" (.string 255), .index index "id"] := by
    intro index hindex
    show [.column "email" (.string 255),
      Subject.index (Helper.indexName "id" (some index)) "id"] = _
    rw [Helper.indexName, if_neg hindex]
  -- under its own name the index is apart from the column; under the name of the column it is not
  constructor
  · refine (intact_iff_keysApart "t" _ (hnames "by_id")).2.2.mpr ?_
    rw [hrequests _ (by decide)]
    simp [KeysApart, Subject.key, Subject.isColumn]
  · intro h
    have hapart := (intact_iff_keysApart "t" _ (hnames "email")).2.2.mp h
    rw [hrequests _ (by decide)] at hapart
    simp [KeysApart, Subject.key, Subject.isColumn] at hapart

end Querysmith.Table
