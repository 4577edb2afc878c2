import Querysmith.Call.Asking
import Querysmith.Proofs.Call.Binding
import Querysmith.Proofs.Statement.Assigned

/-!
# Pending updates

A pending update has its data first and its conditions later. What is called on it for a condition
makes the call of the same name on its builder, and its statement is the builder's UPDATE with the
data. Data and calls that assign are one and the same to that statement.

## Key results

- `UpdateCall.step_of_ofCall`: a condition on a pending update is one on a builder
- `Session.updateRows_compile`: the statement of a pending update is that of a builder
- `compileUpdate_merges`: the assignments of an UPDATE, from calls and from data
-/

namespace Querysmith

open Signature Fragment

/-- What is made of arguments that fit. -/
theorem Form.read_eq_ok {α β : Type} {form : Form α β} {operation : String}
    {ofDefault : Value → α} {call : Call α} {args rest : List α} {b : β}
    (hbind : Signature.bind { operation, parameters := form.parameters } ofDefault call =
      .ok (args, rest)) (hmake : form.make args = .ok b) :
    form.read operation ofDefault call = .ok b := by
  rw [Form.read, hbind]
  exact hmake

namespace UpdateCall

/-- The arguments of a comparison on a pending update fit the comparison on a builder. -/
theorem comparisonOfCall_bind {conjunction : Value} {call : Call (Operand Terminal)}
    {u : UpdateCall} (h : comparisonOfCall conjunction call = .ok u) :
    ∃ c o v, u = .whereCompare c o.asValue v.asValue conjunction ∧
      ∀ operation, Signature.bind { operation, parameters := Step.comparison } .value call =
        .ok ([c, o, v], []) := by
  rw [comparisonOfCall] at h
  obtain ⟨⟨first, rest⟩, hown, h⟩ := Except.bind_eq_ok_iff.1 h
  obtain ⟨r, hpassed, h⟩ := Except.bind_eq_ok_iff.1 h
  obtain ⟨-, -, hmissing, hargs⟩ := bind_eq_ok_iff.1 hown
  -- two parameters of its own, the column and the operator or value
  have hlength : first.length = 2 := by
    rw [(Prod.mk.inj hargs).1, length_taken hmissing]
    rfl
  -- one more may be passed on to the builder
  have hfew := (bind_eq_ok_iff.1 hpassed).2.1
  match first, hlength with
  | [c, o], _ =>
    match rest with
    | [] =>
      cases hpassed
      cases h
      exact ⟨c, o, .value .omitted, rfl, fun operation =>
        bind_of_default hown rfl rfl (by simp [required, Signature.optional])⟩
    | [v] =>
      cases hpassed
      cases h
      exact ⟨c, o, v, rfl, fun operation => bind_of_rest hown rfl rfl⟩
    | v :: w :: more =>
      -- the builder has three parameters
      have hfour : more.length + 4 ≤ 3 := hfew.resolve_left nofun
      omega

/-- The arguments of a condition on a pending update make the same call on a builder. -/
theorem step_of_ofArguments {call : Call (Operand Terminal)} {u : UpdateCall}
    (hname : call.name ∈ ["where", "or_where", "where_raw"]) (h : ofArguments call = .ok u)
    (data : Entries) : Step.ofArguments Terminal.form? call = .ok (u.step data) := by
  obtain ⟨name, arguments, named⟩ := call
  simp only [List.mem_cons, List.not_mem_nil, or_false] at hname
  obtain rfl | rfl | rfl := hname
  · obtain ⟨c, o, v, rfl, hbind⟩ := comparisonOfCall_bind h
    exact Form.read_eq_ok (hbind _) rfl
  · obtain ⟨c, o, v, rfl, hbind⟩ := comparisonOfCall_bind h
    exact Form.read_eq_ok (hbind _) rfl
  · obtain ⟨⟨args, rest⟩, hbind, hmake⟩ := Except.bind_eq_ok_iff.1 h
    obtain ⟨-, hfew, hmissing, hargs⟩ := bind_eq_ok_iff.1 hbind
    obtain ⟨hargs, hrest⟩ := Prod.mk.inj hargs
    -- the expression and its values, which may be left out
    have hlength : args.length = 2 := by
      rw [hargs, length_taken hmissing]
      rfl
    -- nothing is left over, since a pending update takes no further arguments
    obtain rfl : rest = [] := by
      rw [hrest, List.drop_eq_nil_iff]
      exact hfew.resolve_left nofun
    match args, hlength with
    | [e, b], _ =>
      cases hmake
      exact Form.read_eq_ok (bind_of_default hbind rfl rfl
        (by simp [required, Signature.optional])) rfl

/-- A number that is too long is refused on both sides. -/
theorem step_unlessTooLong (u : UpdateCall) (data : Entries) :
    (u.unlessTooLong).step data = (u.step data).unlessTooLong := by
  -- the data stand in no text that a call takes itself
  have hwritten : (u.step data).written = (u.step []).written := by cases u <;> rfl
  rw [unlessTooLong, Step.unlessTooLong, hwritten]
  split <;> rfl

/-- What is called on a pending update for a condition can be called on a builder, and is the same
call there. -/
theorem step_of_ofCall {call : Call (Operand Terminal)} {u : UpdateCall}
    (hname : call.name ∈ ["where", "or_where", "where_raw"]) (h : ofCall call = .ok u)
    (data : Entries) : Step.ofCall Terminal.form? call = .ok (u.step data) := by
  obtain ⟨v, hv, rfl⟩ := Except.map_eq_ok_iff.1 h
  rw [Step.ofCall, step_of_ofArguments hname hv data, step_unlessTooLong]
  rfl

/-- The conditions of a pending update are conditions of a builder. -/
theorem steps_of_ofCall {written : List (Call (Operand Terminal))} {calls : List UpdateCall}
    (hnames : ∀ call ∈ written, call.name ∈ ["where", "or_where", "where_raw"])
    (h : written.mapM ofCall = .ok calls) (data : Entries) :
    written.mapM (Step.ofCall Terminal.form?) = .ok (calls.map (step data)) := by
  induction written generalizing calls with
  | nil =>
    cases h
    rfl
  | cons call rest ih =>
    -- calls are read one by one, the first of them with its name in the list
    simp only [List.mapM_cons, Except.bind_eq_ok_iff] at h
    obtain ⟨u, hu, us, hus, h⟩ := h
    cases h
    rw [List.mapM_cons, step_of_ofCall (hnames call List.mem_cons_self) hu data,
      ih (fun c hc => hnames c (List.mem_cons_of_mem _ hc)) hus]
    rfl

end UpdateCall

/-- The statement of a pending update is the UPDATE of a builder for its table on which the same was
called. -/
theorem Session.updateRows_compile (table : Value) (data : Entries) (calls : List UpdateCall)
    (server : Value) (given : Option ContextId) :
    updateRows table (.map data) (calls ++ [.compile]) server given =
      Builder.runAll { server, context := given } (.table table ::
        calls.map (UpdateCall.step data) ++ [.read (.compileUpdate (.map data))]) := by
  -- the last call is the one that compiles
  have hsteps : (calls ++ [UpdateCall.compile]).map (UpdateCall.step data) =
      calls.map (UpdateCall.step data) ++ [.read (.compileUpdate (.map data))] := by
    rw [List.map_append]
    rfl
  show Builder.runAll { server, context := given, table } _ = _
  rw [hsteps, List.cons_append]
  cases calls with
  | nil => rfl
  | cons call rest => rfl

/-- An UPDATE assigns every column that calls or its data have assigned, once, in the place where it
was assigned first and with the value that it was assigned last, the data last of all. The values
are bound between those of the joins and those of the conditions, nothing is changed by reading the
statement, and a pending update has the statement of a builder. -/
theorem compileUpdate_merges {τ ω : Type} {finish : τ → Builder → EStateM Error ω Reply}
    (calls : List (Step τ)) {start s : Scene ω} (hstart : start.builder.assignments = [])
    (hs : Step.play finish calls start = s) {data log : Entries}
    (hdata : ∀ e ∈ data, e.1.keyFault? = none)
    (hlog : Step.log finish calls start ++ data = log) :
    (∃ r u, Step.runAll finish (data.map fun e => .set e.1 e.2) s = .ok r u ∧
      s.builder.compileUpdate (.map data) = u.builder.compileUpdate) ∧
    (Entries.merged log).Distinct ∧
    s.builder.compileUpdate (.map data) = (do
      let joins ← s.builder.joinFragments
      let wheres ← Condition.clause "WHERE" s.builder.wheres
      let tail ← s.builder.tail s.builder.limit
      pure ⟨"UPDATE " ++ s.builder.table.text ++ spaced (joins.map Fragment.sql) ++
          setText (Entries.merged log) ++ spaced (wheres.sql :: tail.map Fragment.sql),
        joins.flatMap Fragment.bindings ++ (Entries.merged log).map Prod.snd ++ wheres.bindings⟩) ∧
    ((Step.read (.compileUpdate (.map data))).run finish s).state = s ∧
    ∀ (written : List (Call (Operand Terminal))) (conditions : List UpdateCall),
      (∀ call ∈ written, call.name ∈ ["where", "or_where", "where_raw"]) →
      written.mapM UpdateCall.ofCall = .ok conditions →
      ∃ steps, written.mapM (Step.ofCall Terminal.form?) = .ok steps ∧
        ∀ table server given,
          Session.updateRows table (.map data) (conditions ++ [.compile]) server given =
            Builder.runAll { server, context := given }
              (.table table :: steps ++ [.read (.compileUpdate (.map data))]) := by
  -- what calls assign in turn is the log, and the log merged is what the builder holds
  have hassignments : s.builder.assignments.update data = Entries.merged log := by
    rw [← hs, Step.play_assignments, hstart, Entries.update_append, Entries.update_nil, hlog]
  have hupdate := s.builder.compileUpdate_map data
  refine ⟨?_, Entries.distinct_merged _, ?_, Step.state_run_read _ s, ?_⟩
  · -- the same assignments come from calls and from data, so the statements are one
    obtain ⟨r, hrun⟩ : ∃ r, Step.runAll finish (data.map fun e => .set e.1 e.2) s = .ok r _ :=
      Step.runAll_set hdata s
    exact ⟨r, _, hrun, (s.builder.compileUpdate_update data).symm⟩
  · rw [hupdate, hassignments]
  -- the conditions of a pending update are the calls of a builder
  · intro written conditions hnames hwritten
    exact ⟨_, UpdateCall.steps_of_ofCall hnames hwritten data, fun table server given =>
      Session.updateRows_compile table data conditions server given⟩

/-- Calls that assign two columns, the later one of the alphabet first and twice, around a condition
and a join. The assignment to a list fails. -/
def repeatedAssignments : List (Step Terminal) :=
  [.table (.str "t"), .set (.str "z") (.int 1),
    .whereCompare (.value (.str "id")) (.str "=") (.int 7) Condition.and,
    .set (.list []) (.int 0), .set (.str "b") (.int 2), .set (.str "z") (.int 3),
    .join (.str "LEFT") (.str "u") (.block [.whereCompare (.value (.str "u.n")) (.str "=") (.int 9)
      Condition.and]) .null .null]

/-- One of the columns once more, and another one. -/
def lateAssignments : Entries := [(.str "b", .int 4), (.str "a", .int 5)]

/-- Conditions as they are called, a value by its place and a column by its name. -/
def writtenConditions : List (Call (Operand Terminal)) :=
  [⟨"where", [.value (.str "id"), .value (.str ">"), .value (.int 7)], []⟩,
    ⟨"or_where", [], [("operator", .value (.int 8)), ("column", .value (.str "n"))]⟩,
    ⟨"where_raw", [.value (.str "n IS NULL")], []⟩]

/-- Each column is assigned once, where it was assigned first, and the pending update is the one of
a builder. -/
theorem compileUpdate_merges_repeated :
    (∃ s, Step.play Terminal.run repeatedAssignments ⟨{}, {}⟩ = s ∧
      s.builder.compileUpdate (.map lateAssignments) =
        .ok ⟨"UPDATE t LEFT JOIN u ON u.n = ? SET z = ?, b = ?, a = ? WHERE id = ?",
          [.int 9, .int 3, .int 4, .int 5, .int 7]⟩ ∧
      ∃ r u, Step.runAll Terminal.run (lateAssignments.map fun e => .set e.1 e.2) s = .ok r u ∧
        s.builder.compileUpdate (.map lateAssignments) = u.builder.compileUpdate) ∧
    ∃ conditions steps, writtenConditions.mapM UpdateCall.ofCall = .ok conditions ∧
      writtenConditions.mapM (Step.ofCall Terminal.form?) = .ok steps ∧
      ∀ table server given,
        Session.updateRows table (.map lateAssignments) (conditions ++ [.compile]) server given =
          Builder.runAll { server, context := given }
            (.table table :: steps ++ [.read (.compileUpdate (.map lateAssignments))]) := by
  have hkeys : ∀ e ∈ lateAssignments, e.1.keyFault? = none := by decide
  -- two columns are assigned twice, once before and once with the data
  have hlog : Step.log Terminal.run repeatedAssignments ⟨{}, {}⟩ ++ lateAssignments =
      [(.str "z", .int 1), (.str "b", .int 2), (.str "z", .int 3), (.str "b", .int 4),
        (.str "a", .int 5)] := rfl
  obtain ⟨hset, -, hupdate, -, hpending⟩ :=
    compileUpdate_merges repeatedAssignments rfl rfl hkeys hlog
  -- positional and named arguments come to the same calls
  have hconditions : writtenConditions.mapM UpdateCall.ofCall = .ok
      [.whereCompare (.value (.str "id")) (.str ">") (.int 7) Condition.and,
        .whereCompare (.value (.str "n")) (.int 8) .omitted Condition.or,
        .whereRaw (.str "n IS NULL") .null] := rfl
  obtain ⟨steps, hsteps, hsame⟩ := hpending writtenConditions _ (by decide) hconditions
  exact ⟨⟨_, rfl, hupdate.trans rfl, hset⟩, _, steps, hconditions, hsteps, hsame⟩

end Querysmith
