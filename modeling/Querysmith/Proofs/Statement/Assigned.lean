import Querysmith.Proofs.Entries
import Querysmith.Proofs.Keeping
import Querysmith.Proofs.Session.Keys
import Querysmith.Proofs.Statement.Failing

/-!
# Assignments of an UPDATE

Calls on a builder leave a log of the columns and values that they assign, those of a call that
fails up to the failure. The assignments of the builder are those of the log, merged: a column that
is assigned again keeps its place and takes the new value. Data that come with an UPDATE count as
assigned last of all.

## Main definitions

- `Step.assigned`: what a call assigns
- `Step.play`, `Step.log`: calls whether or not those before them failed, and what they assign
- `setText`: what SET says for given assignments

## Key results

- `Step.run_assignments`: a call changes the assignments by what it assigns, and by nothing else
- `Step.play_assignments`: what calls leave is what they assigned, merged
- `Builder.compileUpdate_map`: the assigned values stand between those of the joins and of WHERE
-/

namespace Querysmith

open EStateM Fragment Text

/-! ## The log -/

section Log

variable {τ ω : Type} (finish : τ → Builder → EStateM Error ω Reply)

mutual
/-- The columns and values that a call assigns, in order. -/
def Step.assigned : Step τ → Scene ω → Entries
  | .set column value, _ =>
    match column.asKey with
    | .ok key => [(key, value)]
    | .error _ => []
  | .when condition block otherwise, s =>
    if condition.holds then block.assigned s else otherwise.assigned s
  | _, _ => []

/-- What a branch assigns. -/
def Operand.assigned : Operand τ → Scene ω → Entries
  | .value _, _ => []
  | .block steps, s => Step.allAssigned steps s

/-- What calls assign up to the first that fails. -/
def Step.allAssigned : List (Step τ) → Scene ω → Entries
  | [], _ => []
  | step :: rest, s =>
    step.assigned s ++
      match step.run finish s with
      | .ok _ t => Step.allAssigned rest t
      | .error _ _ => []
end

/-- The scene after calls, each made whether or not those before it failed. -/
def Step.play : List (Step τ) → Scene ω → Scene ω
  | [], s => s
  | step :: rest, s => Step.play rest (step.run finish s).state

/-- What such calls assign. -/
def Step.log : List (Step τ) → Scene ω → Entries
  | [], _ => []
  | step :: rest, s => step.assigned finish s ++ Step.log rest (step.run finish s).state

end Log

section Run

variable {τ ω : Type} {finish : τ → Builder → EStateM Error ω Reply}

/-- Calls on other clauses leave the assignments alone. -/
theorem Step.run_assignments_of_family {step : Step τ} {f : Family} (h : step.family? = some f)
    (hf : Family.assignments ≠ f) (s : Scene ω) :
    (step.run finish s).state.builder.assignments = s.builder.assignments :=
  (step.run_editedIn h s).clause_eq hf

/-- What is read off a builder leaves it as it was. -/
theorem Step.state_run_read (reading : Reading) (s : Scene ω) :
    ((Step.read reading).run finish s).state = s := by
  rw [Step.run]
  show ((ofExcept (reading.ofBuilder s.builder) : Edit ω Reply) s).state = s
  cases reading.ofBuilder s.builder <;> rfl

/-- A statement that is run changes the world alone. -/
theorem Step.builder_run_finish (call : τ) (s : Scene ω) :
    ((Step.finish call).run finish s).state.builder = s.builder := by
  rw [Step.run]
  show (Edit.inWorld (finish call s.builder) s).state.builder = s.builder
  unfold Edit.inWorld
  cases finish call s.builder s.world <;> rfl

/-- Calls stop where the first that fails has stopped. -/
theorem Step.runAll_cons (step : Step τ) (rest : List (Step τ)) (s : Scene ω) :
    (Step.runAll finish (step :: rest) s).state =
      match step.run finish s with
      | .ok _ t => (Step.runAll finish rest t).state
      | .error _ t => t := by
  -- a last call is not followed by anything
  cases rest with
  | nil =>
    show (step.run finish s).state = _
    cases step.run finish s with
    | ok r t =>
      simp only [Step.runAll]
      rfl
    | error e t => rfl
  | cons next rest =>
    show ((step.run finish >>= fun _ => Step.runAll finish (next :: rest)) s).state = _
    cases hrun : step.run finish s with
    | ok r t => rw [bind_of_ok hrun]
    | error e t =>
      rw [bind_of_error hrun]
      rfl

mutual
/-- A call changes the assignments by what it assigns. -/
theorem Step.run_assignments : (step : Step τ) → (s : Scene ω) →
    (step.run finish s).state.builder.assignments =
      s.builder.assignments.update (step.assigned finish s)
  -- only a column that can be a key is assigned
  | .set column value, s => by
    rw [Step.run, Step.assigned]
    cases column.asKey <;> rfl
  | .when condition block otherwise, s => by
    rw [Step.run, Step.assigned]
    split
    · rw [state_bind_pure]
      exact Operand.call_assignments block s
    · rw [state_bind_pure]
      exact Operand.callIfGiven_assignments otherwise s
  | .read reading, s => by
    rw [Step.state_run_read]
    rfl
  | .finish call, s => by
    rw [Step.builder_run_finish]
    rfl
  | .fail cause, s => by
    rw [Step.run]
    rfl
  -- every other call edits the clause of another family
  | .table _, s | .select _, s | .selectRaw .., s | .selectSub .., s | .distinct, s
  | .whereCompare .., s | .whereRaw .., s | .whereColumns .., s | .whereSub .., s | .whereIn .., s
  | .whereNull .., s | .whereBetween .., s | .join .., s | .on .., s | .groupBy _, s
  | .havingCompare .., s | .havingRaw .., s | .orderBy .., s | .limit _, s | .offset _, s =>
    Step.run_assignments_of_family rfl (by decide) s

/-- A block that is called changes the assignments by what its calls assign. -/
theorem Operand.call_assignments : (block : Operand τ) → (s : Scene ω) →
    (block.call finish s).state.builder.assignments =
      s.builder.assignments.update (block.assigned finish s)
  | .value v, s => by
    rw [Operand.call, Operand.assigned]
    rfl
  | .block steps, s => by
    rw [Operand.call, Operand.assigned, state_bind_pure]
    exact Step.runAll_assignments steps s

/-- A block that may be missing changes the assignments by what its calls assign, if it is there. -/
theorem Operand.callIfGiven_assignments : (block : Operand τ) → (s : Scene ω) →
    (block.callIfGiven finish s).state.builder.assignments =
      s.builder.assignments.update (block.assigned finish s)
  | .value v, s => by
    rw [Operand.assigned]
    cases v <;> rfl
  | .block steps, s => by
    rw [Operand.callIfGiven, Operand.assigned, state_bind_pure]
    exact Step.runAll_assignments steps s

/-- Calls change the assignments by what they assign. -/
theorem Step.runAll_assignments : (steps : List (Step τ)) → (s : Scene ω) →
    (Step.runAll finish steps s).state.builder.assignments =
      s.builder.assignments.update (Step.allAssigned finish steps s)
  | [], s => by
    rw [Step.runAll, Step.allAssigned]
    rfl
  | step :: rest, s => by
    have hstep := Step.run_assignments step s
    rw [Step.runAll_cons, Step.allAssigned, ← Entries.update_append, ← hstep]
    -- a failing call has assigned what it did before the failure
    cases step.run finish s with
    | ok r t => exact Step.runAll_assignments rest t
    | error e t => rfl
end

/-- What calls leave is what was there with what they assigned. -/
theorem Step.play_assignments (steps : List (Step τ)) (s : Scene ω) :
    (Step.play finish steps s).builder.assignments =
      s.builder.assignments.update (Step.log finish steps s) := by
  induction steps generalizing s with
  | nil => rfl
  | cons step rest ih =>
    rw [Step.play, ih, Step.run_assignments, Step.log, Entries.update_append]

/-! ## Data as assignments -/

/-- The items of a map are assigned one after the other, and none of these calls fails. -/
theorem Step.runAll_set {data : Entries} (hdata : ∀ e ∈ data, e.1.keyFault? = none)
    (s : Scene ω) :
    ∃ r, Step.runAll finish (data.map fun e => .set e.1 e.2) s =
      .ok r { s with builder.assignments := s.builder.assignments.update data } := by
  -- the state is generalized, since each call starts from what the last one has left
  induction data generalizing s with
  | nil => exact ⟨.nothing, by rw [List.map_nil, Step.runAll]; rfl⟩
  | cons e rest ih =>
    have hkey := Value.asKey_eq_ok_iff.2 ⟨hdata e List.mem_cons_self, rfl⟩
    have hset : (Step.set e.1 e.2).run finish s = .ok .itself
        { s with builder.assignments := s.builder.assignments.set e.1 e.2 } := by
      rw [Step.run, hkey]
      rfl
    obtain ⟨r, hrest⟩ := ih (fun f hf => hdata f (List.mem_cons_of_mem _ hf))
      { s with builder.assignments := s.builder.assignments.set e.1 e.2 }
    exact (Step.runAll_cons_state hset _).1 r _ hrest

end Run

/-! ## The statement -/

/-- What SET says: every column with a placeholder, in order. Without columns there is no SET. -/
def setText (assignments : Entries) : String :=
  if assignments.isEmpty then ""
  else " SET " ++ commaJoined (assignments.map fun e => e.1.text ++ " = ?")

namespace Builder

/-- The values of a SET clause are those assigned, in the order of the columns. -/
theorem setClause_bindings (assignments : Entries) :
    (setClause assignments).bindings = assignments.map Prod.snd := by
  cases assignments <;> rfl

/-- With a blank in front, the text of a SET clause is as the statement has it. -/
theorem spaced_setClause (assignments : Entries) :
    spaced [(setClause assignments).sql] = setText assignments := by
  cases assignments with
  | nil => rfl
  | cons e rest =>
    show spaced ["SET " ++ _] = " SET " ++ _
    rw [spaced, List.filter_cons_of_pos (by simp)]
    rfl

/-- ORDER BY and LIMIT bind nothing. -/
theorem tail_bindings {b : Builder} {limit : Option Int} {fragments : List Fragment}
    (h : b.tail limit = .ok fragments) : fragments.flatMap Fragment.bindings = [] := by
  obtain ⟨count, hcount, hfragments⟩ := Except.bind_eq_ok_iff.1 h
  cases hfragments
  -- neither the order nor the count has values
  have horder : (onlyIf (!b.orders.isEmpty)
      (ofText ("ORDER BY " ++ Text.commaJoined b.orders))).bindings = [] := by
    cases b.orders <;> rfl
  have hcount : count.bindings = [] := by
    cases limit with
    | none =>
      cases hcount
      rfl
    | some n =>
      obtain ⟨text, -, hcount⟩ := Except.bind_eq_ok_iff.1 hcount
      cases hcount
      rfl
  simp [horder, hcount]

/-- The assignments are written between the joins and WHERE, and so are their values bound. -/
theorem assemble_update (b : Builder) (assignments : Entries) (joins tail : List Fragment)
    (wheres : Fragment) (htail : tail.flatMap Fragment.bindings = []) :
    assemble ([ofText ("UPDATE " ++ b.table.text)] ++ joins ++ [setClause assignments, wheres] ++
        tail) =
      ⟨"UPDATE " ++ b.table.text ++ spaced (joins.map Fragment.sql) ++ setText assignments ++
          spaced (wheres.sql :: tail.map Fragment.sql),
        joins.flatMap Fragment.bindings ++ assignments.map Prod.snd ++ wheres.bindings⟩ := by
  -- the SET clause stands between the joins and the conditions
  have hparts : (joins ++ [setClause assignments, wheres] ++ tail).map Fragment.sql =
      joins.map Fragment.sql ++ [(setClause assignments).sql] ++
        (wheres.sql :: tail.map Fragment.sql) := by
    simp
  rw [List.append_assoc, List.append_assoc, List.singleton_append, ← List.append_assoc,
    assemble_cons (by simp [ofText]), hparts, spaced_append, spaced_append, spaced_setClause]
  simp [ofText, setClause_bindings, htail, String.append_assoc]

/-- The UPDATE statement for data that are given as a map: the data are assigned last of all. -/
theorem compileUpdate_map (b : Builder) (data : Entries) :
    b.compileUpdate (.map data) = (do
      let joins ← b.joinFragments
      let wheres ← Condition.clause "WHERE" b.wheres
      let tail ← b.tail b.limit
      pure ⟨"UPDATE " ++ b.table.text ++ spaced (joins.map Fragment.sql) ++
          setText (b.assignments.update data) ++ spaced (wheres.sql :: tail.map Fragment.sql),
        joins.flatMap Fragment.bindings ++ (b.assignments.update data).map Prod.snd ++
          wheres.bindings⟩) := by
  -- what is given with the call comes after what was assigned before
  have hmerged : b.mergedAssignments (.map data) = .ok (b.assignments.update data) := by
    cases data <;> rfl
  rw [compileUpdate, hmerged, Except.ok_bind]
  -- each part may fail, and the first failure is the result
  cases b.joinFragments with
  | error e => rfl
  | ok joins =>
    cases Condition.clause "WHERE" b.wheres with
    | error e => rfl
    | ok wheres =>
      cases htail : b.tail b.limit with
      | error e => rfl
      | ok tail => exact congrArg Except.ok (assemble_update b _ joins tail wheres
          (tail_bindings htail))

/-- Assigning the data to the builder comes to the same. -/
theorem compileUpdate_update (b : Builder) (data : Entries) :
    { b with assignments := b.assignments.update data }.compileUpdate =
      b.compileUpdate (.map data) := by
  cases data <;> rfl

end Builder

end Querysmith
