import Querysmith.Blueprint.Call
import Querysmith.Proofs.Outcome
import Querysmith.Proofs.Column.Scanning

/-!
# What follows the name of a column

The definition of a column is its quoted name with a tail. Column calls and modifiers should give
every column the same tail, whatever its name. They do for an inert name: one with an even number
of single quotes, without the word NULL between them and without a run of blanks between them.
Every other name changes the tail of some definition, because the two modifiers that read a
definition again read the name too.

## Key results

- `IsInert.apply`: behind an inert name a modifier edits the tail alone
- `exists_leaves`: a column call with any modifiers gives all inert names the same tail
- `sharesTails_iff_isInert`: only inert names share their tails with all inert names
-/

namespace Querysmith

open Text

/-! ## Inert names -/

/-- A name that no modifier reads as a part of the definition. -/
structure IsInert (name : String) : Prop where
  /-- Every single quote has a partner. -/
  paired : quotes name.toList % 2 = 0
  /-- The word NULL does not stand between two literals. -/
  no_null : Nullability.mentionsNull (quotedName name) = false
  /-- No run of blanks stands between two literals. -/
  no_run : ∀ s ∈ (Pieces.ofChars (quotedName name).toList).outside, collapseBlanks s = s

/-- Doubling the quotes of names doubles no quote of a literal. -/
theorem quotes_doubled_nameQuote (cs : List Char) : quotes (doubled nameQuote cs) = quotes cs := by
  have hne : ¬ nameQuote = stringQuote := by decide
  induction cs with
  | nil => rfl
  | cons c cs ih =>
    by_cases hc : c = nameQuote
    · simp [doubled, hc, hne, ih]
    · simp [doubled, hc, ih]

/-- A name is written with its quotes doubled, between quotes. -/
theorem toList_quotedName (name : String) :
    (quotedName name).toList = nameQuote :: (doubled nameQuote name.toList ++ [nameQuote]) := by
  simp [quotedName, quoted]

/-- A quoted name has the quotes of literals that the name has. -/
theorem quotes_quotedName (name : String) :
    quotes (quotedName name).toList = quotes name.toList := by
  have hne : ¬ nameQuote = stringQuote := by decide
  rw [toList_quotedName, quotes_cons, if_neg hne, quotes, List.count_append]
  simpa [quotes, hne] using quotes_doubled_nameQuote name.toList

/-- A quoted name ends with its quote. -/
theorem endsName_quotedName (name : String) : EndsName (quotedName name).toList := by
  rw [toList_quotedName, ← List.cons_append]
  exact List.getLast?_concat

/-- A quoted name starts with a quote. -/
theorem quotedName_first (name : String) : ∃ a, (quotedName name).toList = nameQuote :: a :=
  ⟨_, toList_quotedName name⟩

namespace Nullability

/-- The tail of a definition without its nullability clauses. -/
def stripTail (tail : String) : String := String.ofList (trimEnd (kept tail.toList))

/-- Whether a definition mentions the word, by its two parts. -/
theorem mentionsNull_quotedName_append {name : String} (h : quotes name.toList % 2 = 0)
    (tail : String) :
    mentionsNull (quotedName name ++ tail) =
      (mentionsNull (quotedName name) || mentionsNull tail) := by
  rw [mentionsNull, String.toList_append]
  exact any_hasNull_append (endsName_quotedName name) (by rwa [quotes_quotedName]) _

/-- A definition is stripped in its two parts. -/
theorem strip_quotedName_append {name : String} (h : quotes name.toList % 2 = 0) (tail : String) :
    strip (quotedName name ++ tail) =
      String.ofList (kept (quotedName name).toList) ++ stripTail tail := by
  have := strip_append (endsName_quotedName name) (by rwa [quotes_quotedName])
    (quotedName_first name) tail.toList
  rwa [← String.toList_append, String.ofList_toList, String.ofList_append] at this

end Nullability

open Nullability

/-- The modifier that rules null out leaves an inert name as it is. -/
theorem IsInert.kept_eq {name : String} (h : IsInert name) :
    String.ofList (kept (quotedName name).toList) = quotedName name := by
  rw [kept_eq_self h.no_null h.no_run, String.ofList_toList]

/-! ## Modifiers behind an inert name -/

/-- What a modifier makes of the tail of a definition. -/
def Modifier.onTail (tail : String) : Modifier → Except Error String
  | .nullable => .ok (if mentionsNull tail then tail else tail ++ " NULL")
  | .notNull => .ok (stripTail tail ++ " NOT NULL")
  | m => m.apply tail

/-- Behind an inert name a modifier edits the tail alone. -/
theorem IsInert.apply {name : String} (h : IsInert name) (tail : String) (m : Modifier) :
    m.apply (quotedName name ++ tail) = (m.onTail tail).map (quotedName name ++ ·) := by
  cases m with
  | default value => simp [Modifier.apply, Modifier.onTail, Except.map, String.append_assoc]
  | defaultNow => simp [Modifier.apply, Modifier.onTail, Except.map, String.append_assoc]
  | updateNow => simp [Modifier.apply, Modifier.onTail, Except.map, String.append_assoc]
  | nullable =>
    -- the two modifiers that look at the whole definition
    rw [Modifier.apply, Modifier.onTail, mentionsNull_quotedName_append h.paired, h.no_null]
    cases mentionsNull tail <;> simp [Except.map, String.append_assoc]
  | notNull =>
    rw [Modifier.apply, Modifier.onTail, strip_quotedName_append h.paired, h.kept_eq]
    simp [Except.map, String.append_assoc]
  | comment text =>
    -- the others add to the end, once their text is quoted
    simp only [Modifier.apply, Modifier.onTail]
    cases Blueprint.quoteText text with
    | error e => rfl
    | ok s => simp [bind, Except.bind, pure, Except.pure, Except.map, String.append_assoc]
  | after column =>
    simp only [Modifier.apply, Modifier.onTail]
    cases Blueprint.quoteName column with
    | error e => rfl
    | ok s => simp [bind, Except.bind, pure, Except.pure, Except.map, String.append_assoc]

/-! ## Runs -/

/-- The calls that define a column. -/
inductive ColumnCall where
  /-- A primary key that counts by itself. -/
  | counter (startingIndex length : Value)
  | typed (type : ColumnType)

/-- The call under a name. -/
def ColumnCall.named (name : String) : ColumnCall → BlueprintCall
  | .counter startingIndex length => .addId (.str name) startingIndex length
  | .typed type => .addColumn (.str name) type

/-- How calls stop: with a value, or with an error. -/
def stopped {α : Type} (stop : Option Error) (a : α) (b : Blueprint) :
    EStateM.Result Error Blueprint α :=
  match stop with
  | none => .ok a b
  | some e => .error e b

/-- A fresh blueprint on which a column call with modifiers stops as `stop` says leaves one
definition under the name, the quoted name with the tail, or none when there is no tail. -/
def Leaves (table : Value) (call : ColumnCall) (mods : List Modifier) (stop : Option Error)
    (tail? : Option String) (name : String) : Prop :=
  ∃ b, BlueprintCall.runAll (call.named name :: mods.map .editTarget) { table } =
      stopped stop () b ∧
    b.definitions = (tail?.map fun tail => (name, quotedName name ++ tail)).toList

/-- Whatever the column call and its modifiers, the two names get the same tail: both runs stop
alike, and a run that succeeds leaves a definition. -/
def SharesTails (name₁ name₂ : String) : Prop :=
  ∀ table call mods, ∃ stop tail?, (stop = none → tail?.isSome) ∧
    Leaves table call mods stop tail? name₁ ∧ Leaves table call mods stop tail? name₂

/-- A blueprint with one column, which is the target, and its definition. -/
structure IsColumn (name definition : String) (b : Blueprint) : Prop where
  definitions : b.definitions = [(name, definition)]
  target : b.target = some name

namespace BlueprintCall

open Blueprint

/-- A modifier edits the definition of the column or fails. -/
theorem run_editTarget {name definition : String} {b : Blueprint} (h : IsColumn name definition b)
    (m : Modifier) :
    (∀ e, m.apply definition = .error e → (editTarget m).run b = .error e b) ∧
    ∀ edited, m.apply definition = .ok edited →
      ∃ b', (editTarget m).run b = .ok .itself b' ∧ IsColumn name edited b' := by
  have hget : b.definitions.get? name = some definition := by
    simp [Definitions.get?, h.definitions]
  -- the modifiers are aimed at the column, which is there to edit
  have heditable : b.editable? = some name := by simp [editable?, h.target, hget]
  have happly : applyModifier m b = match m.apply definition with
      | .ok edited => .ok () (b.edit name fun _ => edited)
      | .error e => .error e b := by
    rw [applyModifier, EStateM.get_bind]
    simp only [heditable, hget]
    cases m.apply definition <;> rfl
  -- the result of the modifier is written back, and a failure writes nothing
  refine ⟨fun e he => ?_, fun edited hedited => ⟨b.edit name fun _ => edited, ?_, ?_, h.target⟩⟩
  · rw [he] at happly
    exact EStateM.bind_of_error happly _
  · rw [hedited] at happly
    exact EStateM.bind_of_ok happly _
  · simp [edit, Definitions.edit, h.definitions]

/-- Modifiers that succeed on a definition one after the other. -/
theorem runAll_editTarget {name : String} {mods : List Modifier} {definition edited : String}
    {b : Blueprint} (h : IsColumn name definition b)
    (hmods : mods.foldlM Modifier.apply definition = .ok edited) :
    ∃ b', runAll (mods.map .editTarget) b = .ok () b' ∧ IsColumn name edited b' := by
  -- the definition is generalized, since each modifier starts from what the last one made
  induction mods generalizing definition b with
  | nil =>
    obtain rfl : definition = edited := by simpa [pure, Except.pure] using hmods
    exact ⟨b, rfl, h⟩
  | cons m mods ih =>
    rw [List.foldlM_cons] at hmods
    obtain ⟨next, hnext, hrest⟩ := Except.bind_eq_ok_iff.mp hmods
    obtain ⟨b', hrun, hb'⟩ := (run_editTarget h m).2 next hnext
    obtain ⟨b'', hrun', hb''⟩ := ih hb' hrest
    exact ⟨b'', (EStateM.bind_of_ok hrun _).trans hrun', hb''⟩

/-- Modifiers on inert columns with one tail stop alike under every name, with the same tail. -/
theorem runAll_editTarget_of_isInert (mods : List Modifier) (tail : String) :
    ∃ stop tail', ∀ name, IsInert name → ∀ b, IsColumn name (quotedName name ++ tail) b →
      ∃ b', runAll (mods.map .editTarget) b = stopped stop () b' ∧
        IsColumn name (quotedName name ++ tail') b' := by
  induction mods generalizing tail with
  | nil => exact ⟨none, tail, fun name _ b hb => ⟨b, rfl, hb⟩⟩
  | cons m mods ih =>
    cases ht : m.onTail tail with
    | error e =>
      refine ⟨some e, tail, fun name hname b hb => ⟨b, ?_, hb⟩⟩
      have happly := hname.apply tail m
      rw [ht] at happly
      exact EStateM.bind_of_error ((run_editTarget hb m).1 e happly) _
    | ok tail' =>
      -- the new tail does not depend on the name, so the other modifiers go on from it alike
      obtain ⟨stop, tail'', hrest⟩ := ih tail'
      refine ⟨stop, tail'', fun name hname b hb => ?_⟩
      have happly := hname.apply tail m
      rw [ht] at happly
      obtain ⟨b', hrun, hb'⟩ := (run_editTarget hb m).2 _ happly
      obtain ⟨b'', hrun', hb''⟩ := hrest name hname b' hb'
      exact ⟨b'', (EStateM.bind_of_ok hrun _).trans hrun', hb''⟩

/-- A fresh blueprint after a column was defined. -/
def column (table : Value) (name type : String) : Blueprint :=
  (({ table } : Blueprint).define name (quotedName name ++ " " ++ type)).aim name

/-- A column that was just defined has its definition and is the target. -/
theorem column_isColumn (table : Value) (name type : String) :
    IsColumn name (quotedName name ++ (" " ++ type)) (column table name type) :=
  ⟨by simp [column, define, aim, Definitions.set, String.append_assoc], rfl⟩

/-- A table option is none of the columns. -/
theorem setOption_isColumn {name definition : String} {b : Blueprint}
    (h : IsColumn name definition b) (key : String) (value : Value) :
    IsColumn name definition (b.setOption key value) :=
  ⟨h.definitions, h.target⟩

/-- A column call stops alike under every name, with the same tail when it gets as far as the
definition. -/
theorem run_named (call : ColumnCall) :
    ∃ stop tail?, (stop = none → tail?.isSome) ∧ ∀ name table,
      ∃ b, (call.named name).run { table } = stopped stop .itself b ∧
        (∀ tail, tail? = some tail → IsColumn name (quotedName name ++ tail) b) ∧
        (tail? = none → b.definitions = []) := by
  cases call with
  | typed type =>
    cases htype : type.sql with
    -- a type that has no text defines nothing
    | error e =>
      refine ⟨some e, none, by simp, fun name table => ⟨{ table }, ?_, by simp, fun _ => rfl⟩⟩
      rw [ColumnCall.named, run, htype]
      rfl
    | ok sql =>
      refine ⟨none, some (" " ++ (sql ++ " NULL")), by simp, fun name table =>
        ⟨column table name (sql ++ " NULL"), ?_, ?_, by simp⟩⟩
      · rw [ColumnCall.named, run, htype]
        rfl
      · rintro tail ⟨⟩
        exact column_isColumn table name _
  | counter startingIndex length =>
    -- what the call writes behind the name, before it looks at the starting index
    generalize htype : (if length.isTrue then "INT(" ++ length.text ++ ")" else "INT") ++
      " UNSIGNED AUTO_INCREMENT PRIMARY KEY" = type
    have hdefine : ∀ name table, (defineColumn (.str name) type) { table } =
        .ok () (column table name type) := fun _ _ => rfl
    cases hpositive : startingIndex.isPositive with
    | error e =>
      refine ⟨some e, some (" " ++ type), by simp, fun name table =>
        ⟨column table name type, ?_, ?_, by simp⟩⟩
      · rw [ColumnCall.named, run]
        simp only [htype, hpositive]
        rw [EStateM.bind_of_ok (hdefine name table)]
        rfl
      · rintro tail ⟨⟩
        exact column_isColumn table name _
    -- only the options of the table depend on the starting index
    | ok positive =>
      refine ⟨none, some (" " ++ type), by simp, fun name table =>
        ⟨if positive then (column table name type).setOption "AUTO_INCREMENT" startingIndex
          else column table name type, ?_, ?_, by simp⟩⟩
      · rw [ColumnCall.named, run]
        simp only [htype, hpositive]
        rw [EStateM.bind_of_ok (hdefine name table)]
        cases positive <;> rfl
      · rintro tail ⟨⟩
        cases positive
        · exact column_isColumn table name _
        · exact setOption_isColumn (column_isColumn table name _) _ _

end BlueprintCall

/-- A column call with any modifiers stops alike under all inert names and gives them the same
tail. -/
theorem exists_leaves (call : ColumnCall) (mods : List Modifier) :
    ∃ stop tail?, (stop = none → tail?.isSome) ∧
      ∀ name, IsInert name → ∀ table, Leaves table call mods stop tail? name := by
  obtain ⟨stop, tail?, hsome, hcall⟩ := BlueprintCall.run_named call
  -- a column that cannot be defined leaves nothing to modify
  cases stop with
  | some e =>
    refine ⟨some e, tail?, by simp, fun name _ table => ?_⟩
    obtain ⟨b, hrun, hcolumn, hnone⟩ := hcall name table
    refine ⟨b, EStateM.bind_of_error hrun _, ?_⟩
    cases tail? with
    | none => exact hnone rfl
    | some tail => exact (hcolumn tail rfl).definitions
  | none =>
    obtain ⟨tail, rfl⟩ := Option.isSome_iff_exists.mp (hsome rfl)
    -- the modifiers then see the same tail behind any inert name
    obtain ⟨stop, tail', hmods⟩ := BlueprintCall.runAll_editTarget_of_isInert mods tail
    refine ⟨stop, some tail', by simp, fun name hname table => ?_⟩
    obtain ⟨b, hrun, hcolumn, -⟩ := hcall name table
    obtain ⟨b', hrun', hb'⟩ := hmods name hname b (hcolumn tail rfl)
    exact ⟨b', (EStateM.bind_of_ok hrun _).trans hrun', hb'.definitions⟩

/-- Inert names have the same behind them, whatever is called. -/
theorem IsInert.sharesTails {name₁ name₂ : String} (h₁ : IsInert name₁) (h₂ : IsInert name₂) :
    SharesTails name₁ name₂ := by
  intro table call mods
  obtain ⟨stop, tail?, hsome, hleaves⟩ := exists_leaves call mods
  exact ⟨stop, tail?, hsome, hleaves name₁ h₁ table, hleaves name₂ h₂ table⟩

/-! ## Names that are not inert -/

/-- The empty name is inert. -/
theorem isInert_empty : IsInert "" := by
  refine ⟨rfl, by decide +kernel, ?_⟩
  intro s hs
  have : (Pieces.ofChars (quotedName "").toList).outside = ["\x60\x60".toList] := by decide +kernel
  rw [this] at hs
  obtain rfl := List.mem_singleton.mp hs
  decide +kernel

/-- Names that share their tails get the same tail from modifiers that succeed. -/
theorem SharesTails.exists_tail {name₁ name₂ : String} (h : SharesTails name₁ name₂)
    (call : ColumnCall) (type : String)
    (hcall : ∀ name, (call.named name).run { table := .null } =
      .ok .itself (BlueprintCall.column .null name type))
    {mods : List Modifier} {definition₁ definition₂ : String}
    (h₁ : mods.foldlM Modifier.apply (quotedName name₁ ++ (" " ++ type)) = .ok definition₁)
    (h₂ : mods.foldlM Modifier.apply (quotedName name₂ ++ (" " ++ type)) =
      .ok definition₂) :
    ∃ tail, definition₁ = quotedName name₁ ++ tail ∧ definition₂ = quotedName name₂ ++ tail := by
  obtain ⟨stop, tail?, hsome, hleaves₁, hleaves₂⟩ := h .null call mods
  -- the runs succeed, so there is a tail, and it is the one of the definition
  have hdefined : ∀ {name definition : String},
      mods.foldlM Modifier.apply (quotedName name ++ (" " ++ type)) = .ok definition →
      Leaves .null call mods stop tail? name →
      stop = none ∧ [(name, definition)] =
        (tail?.map fun tail => (name, quotedName name ++ tail)).toList := by
    intro name definition hmods ⟨b, hrun, hdefinitions⟩
    obtain ⟨b', hrun', hb'⟩ := BlueprintCall.runAll_editTarget
      (BlueprintCall.column_isColumn .null name type) hmods
    have hok : BlueprintCall.runAll (call.named name :: mods.map .editTarget) { table := .null } =
        .ok () b' := (EStateM.bind_of_ok (hcall name) _).trans hrun'
    have := hrun.symm.trans hok
    cases stop with
    | some e => cases this
    | none =>
      cases this
      exact ⟨rfl, hb'.definitions ▸ hdefinitions⟩
  -- the tail is the same for both names
  obtain ⟨rfl, hdef₁⟩ := hdefined h₁ hleaves₁
  obtain ⟨-, hdef₂⟩ := hdefined h₂ hleaves₂
  obtain ⟨tail, rfl⟩ := Option.isSome_iff_exists.mp (hsome rfl)
  exact ⟨tail, by simpa using hdef₁, by simpa using hdef₂⟩

/-- A text with a clause behind it is another text. -/
theorem ne_append_null (s : String) : s ≠ s ++ " NULL" := by
  intro h
  have := congrArg String.length h
  simp at this

/-- A modifier that takes a word of the name, or of a literal that the name turned inside out,
for a nullability clause does not add one. -/
theorem not_sharesTails_of_mentionsNull {name : String} (extra : String) (mods : List Modifier)
    (hmods : ∀ d, mods.foldlM Modifier.apply d = .ok (d ++ extra))
    (hname : mentionsNull
      (quotedName name ++ (" INT UNSIGNED AUTO_INCREMENT PRIMARY KEY" ++ extra)) = true)
    (hempty : mentionsNull
      (quotedName "" ++ (" INT UNSIGNED AUTO_INCREMENT PRIMARY KEY" ++ extra)) = false) :
    ¬ SharesTails name "" := by
  intro h
  -- the last modifier looks for NULL in the whole definition, name included
  have hall : ∀ d, (mods ++ [Modifier.nullable]).foldlM Modifier.apply d =
      Except.ok (if mentionsNull (d ++ extra) then d ++ extra else d ++ extra ++ " NULL") := by
    intro d
    rw [List.foldlM_append, hmods]
    rfl
  obtain ⟨tail, htail, htail'⟩ := h.exists_tail (.counter (.int 0) .null)
    "INT UNSIGNED AUTO_INCREMENT PRIMARY KEY" (fun _ => rfl) (hall _) (hall _)
  have htype : " " ++ "INT UNSIGNED AUTO_INCREMENT PRIMARY KEY" =
    " INT UNSIGNED AUTO_INCREMENT PRIMARY KEY" := rfl
  -- behind the one name nothing is added, behind the other NULL is
  rw [htype, String.append_assoc, if_pos hname] at htail
  rw [htype, String.append_assoc, hempty, if_neg (by simp), String.append_assoc] at htail'
  exact ne_append_null _ ((String.append_right_inj _).mp htail |>.trans
    ((String.append_right_inj _).mp htail').symm)

/-- A quote without a partner opens a literal that ends where the comment begins. -/
theorem SharesTails.paired {name : String} (h : SharesTails name "") :
    quotes name.toList % 2 = 0 := by
  refine (Nat.mod_two_eq_zero_or_one _).resolve_right fun hodd => ?_
  -- a comment with NULL in it is a literal behind an even number of quotes only
  refine not_sharesTails_of_mentionsNull (" COMMENT " ++ quotedString "NULL")
    [.comment (.str "NULL")] (fun d => ?_) ?_ (by decide +kernel) h
  · rw [← String.append_assoc]
    rfl
  · have hmem := Pieces.mem_outside_of_odd
      (u := " INT UNSIGNED AUTO_INCREMENT PRIMARY KEY COMMENT ".toList) (v := "NULL".toList)
      (by decide +kernel) (by decide +kernel) (by decide +kernel) (endsName_quotedName name)
      (by rwa [quotes_quotedName])
    rw [mentionsNull, String.toList_append, List.any_eq_true]
    exact ⟨_, List.mem_cons_of_mem _ hmem, by decide +kernel⟩

/-- A name that mentions the word keeps it from being added. -/
theorem SharesTails.no_null {name : String} (h : SharesTails name "") :
    mentionsNull (quotedName name) = false := by
  refine (Bool.eq_false_or_eq_true _).resolve_left fun hnull => ?_
  refine not_sharesTails_of_mentionsNull "" [] (fun d => ?_) ?_
    (by decide +kernel) h
  · simp [pure, Except.pure]
  · rw [mentionsNull_quotedName_append h.paired, hnull, Bool.true_or]

/-- A run of blanks in the name is collapsed with those of the definition. -/
theorem SharesTails.no_run {name : String} (h : SharesTails name "") :
    ∀ s ∈ (Pieces.ofChars (quotedName name).toList).outside, collapseBlanks s = s := by
  intro s hs
  refine Decidable.byContradiction fun hrun => ?_
  have hstrip : ∀ name, [Modifier.notNull].foldlM Modifier.apply
      (quotedName name ++ (" " ++ "INT NULL")) =
      .ok (strip (quotedName name ++ (" " ++ "INT NULL")) ++ " NOT NULL") := fun _ => rfl
  obtain ⟨tail, htail, htail'⟩ := h.exists_tail (.typed .integer) "INT NULL" (fun _ => rfl)
    (hstrip _) (hstrip _)
  rw [strip_quotedName_append h.paired, String.append_assoc] at htail
  rw [strip_quotedName_append isInert_empty.paired, isInert_empty.kept_eq, String.append_assoc]
    at htail'
  -- with the same tail as an empty name, the name is not changed by the modifier
  have hsame : String.ofList (kept (quotedName name).toList) = quotedName name := by
    rw [← (String.append_right_inj _).mp htail'] at htail
    exact (String.append_left_inj _).mp htail
  have hlt := length_kept_lt h.no_null hs hrun
  rw [← String.toList_inj, String.toList_ofList] at hsame
  rw [hsame] at hlt
  omega

/-- A column's name never influences the rest of its definition exactly when it is inert. -/
theorem sharesTails_iff_isInert (name : String) :
    (∀ other, IsInert other → SharesTails name other) ↔ IsInert name := by
  refine ⟨fun h => ?_, fun h other hother => h.sharesTails hother⟩
  have hempty := h "" isInert_empty
  exact ⟨hempty.paired, hempty.no_null, hempty.no_run⟩

end Querysmith
