import Querysmith.Proofs.Session.Placing

/-!
# Statements that cannot be built

A call builds its statement before it gets at the cursor of its context, and a context opens a
connection only when its cursor is asked for. So a call whose statement cannot be built, and one
that finds nothing to run, leaves every connection alone, wherever the statement would have run. The
context that a call makes for itself is there by then, but it has opened nothing, and closing it
does nothing.

## Main definitions

- `Statement.built`: the building of a statement, before a context is used
- `Session.OnlyAdds`: nothing was done but to add contexts that opened nothing
- `Refused`: a call that has failed before a context was used

## Key results

- `refused_onServer`: an action that fails at once does so on whatever context it is run
- `Statement.refused_of_built`: every call whose statement cannot be built is refused
- `Statement.untouched_of_not_built`: nothing happens when there is no statement to run
-/

namespace Querysmith

open Session EStateM

variable {α β : Type} {server : Value} {given : Option ContextId} {e : Error}
  {s t : Session}

/-- Builds the statement of a call, and tells whether there is anything to run. A statement in the
caller's own words is not built, and a change of a table can come to nothing. -/
def Statement.built : Statement → Except Error Bool
  | query .. => .ok true
  | terminal call b => (call.statement b).map fun _ => true
  | insertRow table data server =>
    ((Terminal.insert data).statement (tableOf server table)).map fun _ => true
  | replaceRow table data server =>
    ((Terminal.replace data).statement (tableOf server table)).map fun _ => true
  | executeUpdate data b => ((Terminal.update (.map data)).statement b).map fun _ => true
  | deleteRows table conditions server =>
    (columnConditions conditions >>= fun wheres =>
      Terminal.delete.statement { tableOf server table with wheres }).map fun _ => true
  | changeTable change _ _ => change.sql.map fun sql => sql ≠ ""
  | hasTable table _ _ => (Blueprint.quoteText table).map fun _ => true

/-- Contexts were added that have neither connection nor cursor, and nothing else was done. -/
def Session.OnlyAdds (s t : Session) : Prop :=
  ∃ unused, t = { s with contexts := s.contexts ++ unused } ∧
    ∀ c ∈ unused, c.opened = none ∧ c.cursor = none

theorem Session.OnlyAdds.refl (s : Session) : s.OnlyAdds s :=
  ⟨[], by simp, by simp⟩

/-- Where contexts are only added, nothing has happened. -/
theorem Session.OnlyAdds.trace (h : s.OnlyAdds t) : t.trace = s.trace := by
  obtain ⟨_, rfl, -⟩ := h
  rfl

/-- Adding contexts does not change the registry. -/
theorem Session.OnlyAdds.transactions (h : s.OnlyAdds t) : t.transactions = s.transactions := by
  obtain ⟨_, rfl, -⟩ := h
  rfl

/-- A call on a server has failed before a context was used: with this error, unless no context is
given and none can be looked up or made for the server. -/
def Refused (server : Value) (given : Option ContextId) (e : Error) (s : Session)
    (r : Result Error Session α) : Prop :=
  ∃ e' t, r = .error e' t ∧ s.OnlyAdds t ∧
    ((given = none → server.key? ≠ none ∧ server ≠ .null) → e' = e)

/-- A failure at once is a refusal. -/
theorem refused_self (server : Value) (given : Option ContextId) (e : Error) (s : Session) :
    Refused server given e s (.error e s : Result Error Session α) :=
  ⟨e, s, rfl, .refl s, fun _ => rfl⟩

/-- An action that fails at once does so on whatever context it is run. -/
theorem refused_onServer {act : ContextId → Act α} (hact : ∀ c u, act c u = .error e u)
    (server : Value) (given : Option ContextId) (s : Session) :
    Refused server given e s (onServer server given act s) := by
  rcases onServer_cases server given act s with
    ⟨c, -, hrun⟩ | ⟨-, hrun⟩ | ⟨hgiven, hserver, e', hrun⟩
  -- on a context that is there the error is raised at once
  · rw [hrun, hact]
    exact refused_self server given e s
  · -- the new context has opened nothing, so that closing it changes nothing
    have hnew : ((s.withServer server).context ⟨s.contexts.length⟩).opened = none := by
      rw [context_withServer]
    rw [hrun, tryFinally_of_error (hact _ _) (close_of_unopened hnew)]
    exact ⟨e, _, rfl, ⟨_, rfl, by simp⟩, fun _ => rfl⟩
  · refine ⟨e', s, hrun, .refl s, fun hnamed => ?_⟩
    obtain ⟨hkey, hnull⟩ := hnamed hgiven
    exact (hserver.elim hkey hnull).elim

/-- What follows a refusal is not run. -/
theorem Refused.bind {r : Act α} (h : Refused server given e s (r s)) (f : α → Act β) :
    Refused server given e s ((r >>= f) s) := by
  obtain ⟨e', t, hr, hadds, herror⟩ := h
  exact ⟨e', t, bind_of_error hr _, hadds, herror⟩

/-- A terminal call is refused when its statement cannot be built. -/
theorem refused_terminal {call : Terminal} {b : Builder} (h : call.statement b = .error e)
    (s : Session) : Refused b.server b.context e s (call.run b s) := by
  rw [Terminal.run]
  refine Refused.bind (refused_onServer (fun c u => ?_) b.server b.context s) _
  rw [bind_of_error (ofExcept_of_error h u)]

/-- Every call whose statement cannot be built is refused. -/
theorem Statement.refused_of_built {statement : Statement} (h : statement.built = .error e)
    (s : Session) : Refused statement.server statement.given e s (statement.run s) := by
  cases statement with
  | query => cases h
  | terminal call b => exact refused_terminal (Except.map_eq_error_iff.1 h) s
  | insertRow table data server => exact refused_terminal (Except.map_eq_error_iff.1 h) s
  | replaceRow table data server => exact refused_terminal (Except.map_eq_error_iff.1 h) s
  | executeUpdate data b =>
    -- the data of the call are assigned by the terminal call itself
    have hrun : (executeUpdate data b).run s = (Terminal.update (.map data)).run b s :=
      runAll_finish b (.update (.map data)) s
    rw [hrun]
    exact refused_terminal (Except.map_eq_error_iff.1 h) s
  | deleteRows table conditions server =>
    have hbuild := Except.map_eq_error_iff.1 h
    -- the conditions are built first, and may be what fails
    cases hwheres : columnConditions conditions with
    | error e' =>
      rw [hwheres] at hbuild
      obtain rfl : e' = e := Except.error.inj hbuild
      exact ⟨e', s, bind_of_error (ofExcept_of_error hwheres s) _, .refl s, fun _ => rfl⟩
    | ok wheres =>
      have hstatement : Terminal.delete.statement { tableOf server table with wheres } =
          .error e := by
        rwa [hwheres] at hbuild
      have hrun : (deleteRows table conditions server).run s =
          Terminal.delete.run { tableOf server table with wheres } s :=
        bind_of_ok (ofExcept_of_ok hwheres s) _
      rw [hrun]
      exact refused_terminal hstatement s
  | changeTable change server given =>
    have hsql := Except.map_eq_error_iff.1 h
    exact ⟨e, s, bind_of_error (ofExcept_of_error hsql s) _, .refl s, fun _ => rfl⟩
  | hasTable table server given =>
    have hname := Except.map_eq_error_iff.1 h
    exact ⟨e, s, bind_of_error (ofExcept_of_error hname s) _, .refl s, fun _ => rfl⟩

/-- A call that finds nothing to run does nothing. Only a change of a table can be one. -/
theorem Statement.run_of_nothing_built {statement : Statement}
    (h : statement.built = .ok false) (s : Session) : statement.run s = .ok .nothing s := by
  cases statement with
  | changeTable change server given =>
    obtain ⟨sql, hsql, hempty⟩ := Except.map_eq_ok_iff.1 h
    obtain rfl : sql = "" := by simpa using hempty
    exact bind_of_ok (ofExcept_of_ok hsql s) _
  | query => cases h
  | terminal | insertRow | replaceRow | executeUpdate | deleteRows | hasTable =>
    obtain ⟨_, -, htrue⟩ := Except.map_eq_ok_iff.1 h
    cases htrue

/-- Whatever the session and whatever the call: without a statement to run, nothing happens on any
connection, and the registry stays as it is. When the statement cannot be built the call fails,
with the error of its building unless the context was wanting already; when it comes to nothing
the call succeeds. -/
theorem Statement.untouched_of_not_built {statement : Statement}
    (h : statement.built ≠ .ok true) (s : Session) :
    (statement.run s).state.trace = s.trace ∧
      (statement.run s).state.transactions = s.transactions ∧
      s.OnlyAdds (statement.run s).state ∧
      (∀ e, statement.built = .error e → ∃ e' t, statement.run s = .error e' t ∧
        ((statement.given = none → statement.server.key? ≠ none ∧ statement.server ≠ .null) →
          e' = e)) ∧
      (statement.built = .ok false → statement.run s = .ok .nothing s) := by
  -- a statement that comes to nothing is no error
  have hnothing : statement.built = .ok false → statement.run s = .ok .nothing s :=
    fun hbuilt => run_of_nothing_built hbuilt s
  -- an empty text runs nothing, and an error is raised before anything is sent
  have hadds : s.OnlyAdds (statement.run s).state := by
    cases hbuilt : statement.built with
    | ok runs =>
      cases runs with
      | true => exact absurd hbuilt h
      | false =>
        rw [hnothing hbuilt]
        exact .refl s
    | error e =>
      obtain ⟨_, _, hrun, hadds, -⟩ := refused_of_built hbuilt s
      rwa [hrun]
  refine ⟨hadds.trace, hadds.transactions, hadds, fun e hbuilt => ?_, hnothing⟩
  obtain ⟨e', t, hrun, -, herror⟩ := refused_of_built hbuilt s
  exact ⟨e', t, hrun, herror⟩

/-- A row that is none, on a server that has no transaction, and a blueprint that defines nothing,
on one that has. -/
theorem Statement.untouched_of_not_built_sideBySide :
    let row : Statement := terminal (.insert (.list [.int 5])) (tableOf (.str "b") (.str "t"))
    let blueprint : Statement := changeTable (.extend (.str "t") []) (.str "a") none
    row.built ≠ .ok true ∧ blueprint.built ≠ .ok true ∧
      (row.run sideBySide).state.trace = sideBySide.trace ∧
      (row.run sideBySide).state.transactions = sideBySide.transactions ∧
      (∃ e t, row.run sideBySide = .error e t) ∧
      blueprint.run sideBySide = .ok .nothing sideBySide := by
  intro row blueprint
  -- a row that is no mapping, and a blueprint without definitions
  have hrow : row.built ≠ .ok true := nofun
  have hblueprint : blueprint.built ≠ .ok true := nofun
  obtain ⟨htrace, htransactions, -, hfails, -⟩ := untouched_of_not_built hrow sideBySide
  obtain ⟨-, -, -, -, hnothing⟩ := untouched_of_not_built hblueprint sideBySide
  obtain ⟨e, t, hrun, -⟩ := hfails _ rfl
  exact ⟨hrow, hblueprint, htrace, htransactions, ⟨e, t, hrun⟩, hnothing rfl⟩

end Querysmith
