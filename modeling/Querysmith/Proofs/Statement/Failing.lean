import Querysmith.Proofs.Statement.Families

/-!
# Calls that fail

What a call can fail at, a block, the items of a value or a number, comes before it edits the
builder. Two calls are made the other way round. A selection drops the columns that were selected
before, and adds new ones up to the block that fails; a raw column is added before its values are
taken, and stays without them. So every other call that fails leaves all statements as they were,
and these two leave those that select no columns.

## Main definitions

- `Builder.EditedIn`: a builder differs from another one in the clause of one family only

## Key results

- `Step.run_commits`: any other call edits its clause when it succeeds, and nothing when it fails
- `Step.run_editedIn`: no call edits the clause of another family
- `failed_call_compiles_alike`: which statements are as they were after a call that fails
-/

namespace Querysmith

open EStateM

namespace Builder

/-- The second builder is the first one with the clause of a family edited. -/
def EditedIn (f : Family) (b d : Builder) : Prop := d = b.editClause f fun _ => d.clause f

theorem EditedIn.refl (f : Family) (b : Builder) : b.EditedIn f b := by
  cases f <;> rfl

theorem EditedIn.trans {f : Family} {b c d : Builder} (h : b.EditedIn f c) (h' : c.EditedIn f d) :
    b.EditedIn f d := by
  rw [EditedIn] at h h' ⊢
  rw [h', h, editClause_editClause]
  simp [Function.comp_def]

/-- An edit within one clause leaves the others alone. -/
theorem EditedIn.clause_eq {f g : Family} {b d : Builder} (h : b.EditedIn f d) (hne : g ≠ f) :
    d.clause g = b.clause g := by
  rw [h, clause_editClause_of_ne b hne]

/-- An edit of a clause is within that clause. -/
theorem editedIn_editClause (b : Builder) (f : Family) (k : f.Content → f.Content) :
    b.EditedIn f (b.editClause f k) := by
  cases f <;> rfl

theorem editedIn_clearColumns (b : Builder) : b.EditedIn .columns b.clearColumns := rfl

theorem editedIn_addColumn (b : Builder) (column : Value) :
    b.EditedIn .columns (b.addColumn column) := rfl

theorem editedIn_addColumnBindings (b : Builder) (values : List Value) :
    b.EditedIn .columns (b.addColumnBindings values) := rfl

theorem editedIn_addSubselect (b : Builder) (statement : Fragment) (label : String) :
    b.EditedIn .columns (b.addSubselect statement label) := rfl

end Builder

namespace Edit

variable {ω α β : Type} {f : Family}

/-! ## Edits that leave the builder as it is -/

/-- The outcome with another builder. -/
def outcomeOn (b : Builder) : Result Error (Scene ω) α → Result Error (Scene ω) α
  | .ok a t => .ok a { t with builder := b }
  | .error e t => .error e { t with builder := b }

/-- The edit leaves the builder as it is, and does the same on all builders for one server and
context. -/
def Spares (m : Edit ω α) : Prop :=
  ∀ ⦃b d : Builder⦄ (w : ω), d.scratch = b.scratch → m ⟨d, w⟩ = outcomeOn d (m ⟨b, w⟩)

/-- An edit that spares the builder ends with the builder that it was given. -/
theorem Spares.builder_eq {m : Edit ω α} (h : Spares m) (s : Scene ω) :
    (m s).state.builder = s.builder := by
  rw [h s.world rfl]
  cases m ⟨s.builder, s.world⟩ <;> rfl

theorem spares_ofExcept (x : Except Error α) : Spares (ofExcept x : Edit ω α) := by
  intro b d w _
  cases x <;> rfl

/-- A block runs on a builder of its own. -/
theorem spares_aside (m : Edit ω α) : Spares (aside m) := by
  intro b d w hscratch
  simp only [aside, hscratch]
  cases m ⟨b.scratch, w⟩ <;> rfl

/-- Edits that spare the builder do so one after the other. -/
theorem Spares.bind {m : Edit ω α} {next : α → Edit ω β} (h : Spares m)
    (hnext : ∀ a, Spares (next a)) : Spares (m >>= next) := by
  intro b d w hscratch
  have hd := h w hscratch
  have hb := h.builder_eq ⟨b, w⟩
  -- a failure of the first edit leaves the builder to neither
  cases hm : m ⟨b, w⟩ with
  | ok a t =>
    rw [hm] at hd hb
    obtain rfl : t.builder = b := hb
    rw [bind_of_ok hm, bind_of_ok hd]
    exact hnext a t.world hscratch
  | error e t =>
    rw [hm] at hd
    rw [bind_of_error hm, bind_of_error hd]
    rfl

theorem spares_substatement (m : Edit ω α) : Spares (substatement m) :=
  (spares_aside m).bind fun b => spares_ofExcept b.compile

/-! ## Edits that change the builder last -/

/-- The edit changes one clause when it succeeds, and nothing when it fails. -/
def Commits (f : Family) (m : Edit ω α) : Prop :=
  ∀ s, (m s).Meets (fun _ t => s.builder.EditedIn f t.builder) fun t => t.builder = s.builder

/-- A single change within a clause is done as a whole. -/
theorem commits_change_itself {g : Builder → Builder} (h : ∀ b : Builder, b.EditedIn f (g b)) :
    Commits f (do change g; pure Reply.itself : Edit ω Reply) := fun s => h s.builder

/-- What may fail comes before the one change, so that a failure leaves the builder alone. -/
theorem Spares.commits {m : Edit ω α} {next : α → Edit ω β} (h : Spares m)
    (hnext : ∀ a, Commits f (next a)) : Commits f (m >>= next) := by
  intro s
  have hs := h.builder_eq s
  -- up to the change the builder is the one that was given
  cases hm : m s with
  | ok a t =>
    rw [hm] at hs
    have hs : t.builder = s.builder := hs
    rw [bind_of_ok hm, ← hs]
    exact hnext a t
  | error e t =>
    rw [hm] at hs
    rw [bind_of_error hm]
    exact hs

/-- Whether it succeeds or fails, the edit changes one clause at most. -/
def EditsIn (f : Family) (m : Edit ω α) : Prop :=
  ∀ s : Scene ω, s.builder.EditedIn f (m s).state.builder

/-- What is done as a whole within a clause is an edit of that clause. -/
theorem Commits.editsIn {m : Edit ω α} (h : Commits f m) : EditsIn f m := by
  intro s
  have hs := h s
  cases hm : m s with
  | ok a t =>
    rw [hm] at hs
    exact hs
  | error e t =>
    rw [hm] at hs
    have hs : t.builder = s.builder := hs
    show s.builder.EditedIn f t.builder
    rw [hs]
    exact .refl f _

theorem EditsIn.bind {m : Edit ω α} {next : α → Edit ω β} (h : EditsIn f m)
    (hnext : ∀ a, EditsIn f (next a)) : EditsIn f (m >>= next) := by
  intro s
  have hs := h s
  cases hm : m s with
  | ok a t =>
    rw [hm] at hs
    rw [bind_of_ok hm]
    exact hs.trans (hnext a t)
  | error e t =>
    rw [hm] at hs
    rw [bind_of_error hm]
    exact hs

theorem editsIn_change {g : Builder → Builder} (h : ∀ b : Builder, b.EditedIn f (g b)) :
    EditsIn f (change g : Edit ω Unit) := fun s => h s.builder

theorem editsIn_pure (f : Family) (a : α) : EditsIn f (pure a : Edit ω α) :=
  fun s => .refl f s.builder

/-- An edit that spares the builder is within any clause. -/
theorem Spares.editsIn {m : Edit ω α} (h : Spares m) (f : Family) : EditsIn f m := by
  intro s
  rw [h.builder_eq s]
  exact .refl f s.builder

end Edit

section Run

open Edit

variable {τ ω α : Type} {finish : τ → Builder → EStateM Error ω Reply}

/-! ## Single calls -/

/-- What a call finds out, it finds out without the builder, but for its server and context. -/
theorem Step.Prepares.spares {step : Step τ} {prepare : Edit ω α}
    (h : step.Prepares finish prepare) : Spares prepare := by
  cases h with
  | ofArguments x => exact spares_ofExcept x
  | ofBlock => exact (spares_aside _).bind fun d => spares_ofExcept _

/-- A call that is done with what can fail before it edits the builder. -/
theorem Step.run_commits {f : Family} (step : Step τ) (h : step.family? = some f)
    (hfirst : step.editsFirst = false) : Commits f (step.run finish) := by
  obtain ⟨prepare, hprepare, hrun⟩ := step.run_editsLast h hfirst
  rw [hrun]
  exact hprepare.spares.commits fun k =>
    commits_change_itself fun b => b.editedIn_editClause f k

/-- Added columns edit the columns alone. -/
theorem Operand.selectAll_editsIn (columns : List (Operand τ)) :
    EditsIn .columns (Operand.selectAll finish columns) := by
  induction columns with
  | nil =>
    rw [Operand.selectAll]
    exact editsIn_pure _ _
  | cons column rest ih =>
    cases column with
    | value v =>
      rw [Operand.selectAll]
      exact (editsIn_change (Builder.editedIn_addColumn · v)).bind fun _ => ih
    -- the subquery is compiled on a builder of its own, and then added
    | block steps =>
      rw [Operand.selectAll]
      refine ((spares_substatement _).editsIn _).bind fun statement => ?_
      exact (editsIn_change (Builder.editedIn_addSubselect · statement "")).bind fun _ => ih

/-- No call edits the clause of another family. -/
theorem Step.run_editedIn {f : Family} (step : Step τ) (h : step.family? = some f) :
    EditsIn f (step.run finish) := by
  -- all but two kinds of calls do the change last
  cases hfirst : step.editsFirst with
  | false => exact (step.run_commits h hfirst).editsIn
  | true =>
    cases step with
    -- the columns are dropped first, and then added one by one
    | select columns =>
      cases h
      rw [Step.run]
      exact (editsIn_change Builder.editedIn_clearColumns).bind fun _ =>
        (Operand.selectAll_editsIn columns).bind fun _ => editsIn_pure _ _
    -- the expression is added first, and its values afterwards
    | selectRaw expression bindings =>
      cases h
      rw [Step.run]
      refine (editsIn_change (Builder.editedIn_addColumn · expression)).bind fun _ => ?_
      refine ((spares_ofExcept _).editsIn _).bind fun values => ?_
      exact (editsIn_change (Builder.editedIn_addColumnBindings · values)).bind fun _ =>
        editsIn_pure _ _
    | _ => cases hfirst

/-! ## Selections that fail -/

/-- Whether columns can be added does not depend on the clauses that are there. -/
theorem Operand.selectAll_error {columns : List (Operand τ)} {b d : Builder} {w : ω} {e : Error}
    {t : Scene ω} (hscratch : d.scratch = b.scratch)
    (h : Operand.selectAll finish columns ⟨b, w⟩ = .error e t) :
    ∃ u, Operand.selectAll finish columns ⟨d, w⟩ = .error e u := by
  -- both builders get the same columns, so they stay for one server and context
  induction columns generalizing b d w with
  | nil =>
    rw [Operand.selectAll] at h
    cases h
  | cons column rest ih =>
    cases column with
    | value v =>
      rw [Operand.selectAll] at h ⊢
      exact ih (d := d.addColumn v) (b := b.addColumn v) hscratch h
    | block steps =>
      rw [Operand.selectAll] at h ⊢
      -- a subquery is compiled without a look at what was selected before
      have hspares := spares_substatement (Step.runAll finish steps)
      have hd := hspares w hscratch
      have hb := hspares.builder_eq ⟨b, w⟩
      cases hm : substatement (Step.runAll finish steps) ⟨b, w⟩ with
      | ok statement u =>
        rw [hm] at hd hb
        obtain rfl : u.builder = b := hb
        rw [bind_of_ok hm] at h
        rw [bind_of_ok hd]
        exact ih (d := d.addSubselect statement "") (b := u.builder.addSubselect statement "")
          hscratch h
      | error e' u =>
        rw [hm] at hd
        rw [bind_of_error hm] at h
        rw [bind_of_error hd]
        cases h
        exact ⟨_, rfl⟩

/-- The builder after nothing but a selection of the columns. -/
def Builder.selecting (b : Builder) (columns : List Value) : Builder :=
  { b.scratch with columns := columns }

/-- A selection that fails leaves the same columns on all builders for one server and context on
which something was selected alone. -/
theorem Step.select_error {columns : List (Operand τ)} {s t : Scene ω} {e : Error}
    (h : (Step.select columns).run finish s = .error e t) :
    ∃ v, ∀ columns', (Step.select columns).run finish
      ⟨s.builder.selecting columns', s.world⟩ = .error e v := by
  -- the columns are dropped first, and only those are there
  have hcleared : ∀ u : Scene ω, (Step.select columns).run finish u =
      (do Operand.selectAll finish columns; pure Reply.itself : Edit ω Reply)
        ⟨u.builder.clearColumns, u.world⟩ := by
    intro u
    rw [Step.run]
    rfl
  rw [hcleared] at h
  cases hall : Operand.selectAll finish columns ⟨s.builder.clearColumns, s.world⟩ with
  | ok a u =>
    rw [bind_of_ok hall] at h
    cases h
  | error e' u =>
    rw [bind_of_error hall] at h
    cases h
    -- what fails on the cleared builder fails on an empty one
    obtain ⟨v, hv⟩ : ∃ v,
        Operand.selectAll finish columns ⟨s.builder.scratch, s.world⟩ = .error e v :=
      Operand.selectAll_error (b := s.builder.clearColumns) rfl hall
    refine ⟨v, fun columns' => ?_⟩
    rw [hcleared]
    exact bind_of_error hv _

/-- A raw column whose values cannot be taken stays. -/
theorem Step.selectRaw_error {expression bindings : Value} {s t : Scene ω} {e : Error}
    (h : (Step.selectRaw expression bindings).run finish s = .error e t) (u : Scene ω) :
    (Step.selectRaw expression bindings).run finish u =
      .error e { u with builder := u.builder.addColumn expression } := by
  rw [Step.run] at h ⊢
  -- only the values can fail, when the expression has been added
  cases hitems : bindings.optionalItems with
  | ok values =>
    rw [hitems] at h
    cases h
  | error e' =>
    rw [hitems] at h
    cases h
    rfl

/-! ## The statements after a failure -/

/-- The SELECT statement of a builder on which only columns were selected. -/
theorem Builder.compile_selecting (b : Builder) (columns : List Value) :
    (b.selecting columns).compile = (b.selecting columns).columnList.map fun text =>
      Fragment.assemble [Fragment.ofText "SELECT", Fragment.ofText text] := by
  simp only [compile, compileLimited]
  cases (b.selecting columns).columnList <;> rfl

/-- A builder that selects one column compiles to that column. -/
theorem Builder.compile_selecting_singleton (b : Builder) (column : String) :
    (b.selecting [.str column]).compile =
      .ok (Fragment.assemble [Fragment.ofText "SELECT", Fragment.ofText column]) :=
  b.compile_selecting [.str column]

/-- A column more is to be seen in the statement. -/
theorem Builder.compile_selecting_ne (b : Builder) (expression : Value) :
    (b.selecting [.str "a", expression]).compile ≠ (b.selecting [.str "a"]).compile := by
  rw [compile_selecting_singleton, compile_selecting]
  intro h
  obtain ⟨text, htext, hsql⟩ := Except.map_eq_ok_iff.1 h
  -- were the second column a text, it would show in the statement
  obtain ⟨texts, htexts, rfl⟩ := Value.joinTexts_eq_ok_iff.1 htext
  match texts, htexts with
  | [first, second], htexts =>
    obtain ⟨rfl, -⟩ : "a" = first ∧ expression = .str second := by
      simpa [selecting] using htexts
    -- the two statements have different lengths
    have hlength := congrArg (fun f => f.sql.length) hsql
    simp [Fragment.assemble, Fragment.texts, Fragment.ofText, Text.joined] at hlength
    have hone : "SELECT a".length = "SELECT ".length + 1 := rfl
    have htwo : "a, ".length = 3 := rfl
    omega

/-- A call that fails leaves all statements as they were, but for selections and raw columns. These
leave the statements that select nothing; and on some builder on which a single column was selected
they fail alike and leave another SELECT. -/
theorem failed_call_compiles_alike (step : Step τ) (hstep : step.family?.isSome = true)
    {s t : Scene ω} {e : Error} (h : step.run finish s = .error e t) :
    ((∀ data, t.builder.compileUpdate data = s.builder.compileUpdate data) ∧
      t.builder.compileDelete = s.builder.compileDelete ∧
      ∀ rows verb, t.builder.compileInsert rows verb = s.builder.compileInsert rows verb) ∧
    (step.editsFirst = false → s.builder.CompilesAs t.builder) ∧
    (step.editsFirst = true →
      ∃ column u v, (Step.select [.value (.str column)]).run finish ⟨s.builder.scratch, s.world⟩ =
          .ok .itself u ∧
        step.run finish u = .error e v ∧ v.builder.compile ≠ u.builder.compile) := by
  obtain ⟨f, hf⟩ := Option.isSome_iff_exists.1 hstep
  -- a selection of one column leaves that column only
  have hselected : ∀ column, (Step.select [.value (.str column)]).run finish
      ⟨s.builder.scratch, s.world⟩ =
        .ok .itself ⟨s.builder.selecting [.str column], s.world⟩ := by
    intro column
    rw [Step.run, Operand.selectAll, Operand.selectAll]
    rfl
  cases hfirst : step.editsFirst with
  | false =>
    -- a call whose change comes last has changed nothing when it fails
    have hcommits : Commits f (step.run finish) := step.run_commits hf hfirst
    have hbuilder := hcommits s
    rw [h] at hbuilder
    have hbuilder : t.builder = s.builder := hbuilder
    rw [hbuilder]
    refine ⟨⟨fun _ => rfl, rfl, fun _ _ => rfl⟩, fun _ => ?_, nofun⟩
    exact ⟨rfl, rfl, fun _ => rfl, rfl, fun _ _ => rfl⟩
  | true =>
    -- any other call has changed its own clause at most, which only a selection shows
    have hedits : EditsIn f (step.run finish) := step.run_editedIn hf
    have hedited := hedits s
    rw [h] at hedited
    have hedited : s.builder.EditedIn f t.builder := hedited
    cases step with
    | select columns =>
      cases hf
      rw [hedited]
      refine ⟨⟨fun _ => rfl, rfl, fun _ _ => rfl⟩, nofun, fun _ => ?_⟩
      obtain ⟨v, hv⟩ := Step.select_error h
      -- the statement is the same whatever was selected before, so it is another one for one of two
      by_cases ha : v.builder.compile = (s.builder.selecting [.str "a"]).compile
      · refine ⟨"b", _, v, hselected "b", hv _, ?_⟩
        rw [ha, Builder.compile_selecting_singleton, Builder.compile_selecting_singleton]
        intro hsame
        cases hsame
      · exact ⟨"a", _, v, hselected "a", hv _, ha⟩
    | selectRaw expression bindings =>
      cases hf
      rw [hedited]
      refine ⟨⟨fun _ => rfl, rfl, fun _ _ => rfl⟩, nofun, fun _ => ?_⟩
      exact ⟨"a", _, _, hselected "a", Step.selectRaw_error h _,
        s.builder.compile_selecting_ne expression⟩
    | _ => cases hfirst

end Run

/-- A selection of a column and of a block that fails. -/
def halfSelection : Step Empty :=
  .select [.value (.str "b"), .block [.fail (.raised .value [.str "x"])]]

/-- The selection replaces the column of a builder by the half of its own. -/
theorem failed_call_compiles_alike_half :
    halfSelection.family?.isSome = true ∧
      ∃ t, halfSelection.run noWorld ⟨{ table := .str "t", columns := [.str "a"] }, ()⟩ =
          .error (.raised .value [.str "x"]) t ∧
        t.builder.compile = .ok ⟨"SELECT b FROM t", []⟩ ∧
        t.builder.compileDelete = .ok ⟨"DELETE FROM t", []⟩ ∧
        ∃ column u v, (Step.select [.value (.str column)]).run noWorld ⟨({} : Builder), ()⟩ =
            .ok .itself u ∧
          halfSelection.run noWorld u = .error (.raised .value [.str "x"]) v ∧
          v.builder.compile ≠ u.builder.compile := by
  -- the old columns are gone, and the first of the new ones is there
  have hrun : halfSelection.run noWorld ⟨{ table := .str "t", columns := [.str "a"] }, ()⟩ =
      .error (.raised .value [.str "x"]) ⟨{ table := .str "t", columns := [.str "b"] }, ()⟩ := rfl
  obtain ⟨⟨-, hdelete, -⟩, -, hother⟩ := failed_call_compiles_alike halfSelection rfl hrun
  exact ⟨rfl, _, hrun, rfl, hdelete.trans rfl, hother rfl⟩

end Querysmith
