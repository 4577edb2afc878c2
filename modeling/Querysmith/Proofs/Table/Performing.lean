import Querysmith.Blueprint.Writing
import Querysmith.Proofs.Outcome

/-!
# Calls of a caller on a blueprint

A caller's call is the call itself unless a number in it is too long to be written, and then it
changes nothing. What is known of a run of calls and of the statement after it therefore holds of
a caller's run that succeeds.

- `BlueprintCall.performAll_eq_or`: a caller's run is the run of the calls or stops at such a number
- `Blueprint.toSql_of_writtenSql`: a statement that is written is the statement of the blueprint
-/

namespace Querysmith

namespace Blueprint

/-- A statement that is written is the statement of the blueprint. -/
theorem toSql_of_writtenSql {b : Blueprint} {mode : Value} {sql : String}
    (h : b.writtenSql mode = .ok sql) : b.toSql mode = .ok sql := by
  obtain ⟨text, htext, h⟩ := Except.bind_eq_ok_iff.1 h
  split at h
  · split at h
    · cases h
    · cases h
      exact htext
  · cases h
    exact htext

/-- A statement of the blueprint is written, or a number in it is too long. -/
theorem writtenSql_eq_or (b : Blueprint) (mode : Value) :
    b.writtenSql mode = b.toSql mode ∨ b.writtenSql mode = .error .integerTooLong := by
  unfold writtenSql
  cases b.toSql mode with
  | error e => exact .inl rfl
  | ok sql =>
    rw [Except.ok_bind]
    -- only CREATE writes a number that may be too long
    split
    · split
      · exact .inr rfl
      · exact .inl rfl
    · exact .inl rfl

end Blueprint

namespace BlueprintCall

open Blueprint

/-- A caller's call is the call, or it is refused and changes nothing. -/
theorem perform_eq_or (call : BlueprintCall) (b : Blueprint) :
    call.perform b = call.run b ∨ call.perform b = .error .integerTooLong b := by
  rw [perform, EStateM.get_bind]
  split
  · exact .inr rfl
  · cases call with
    -- arguments are checked before, the options of the table when it is written
    | toSql mode =>
      obtain h | h := b.writtenSql_eq_or mode
      · refine .inl ?_
        simp only [h]
        rfl
      · refine .inr ?_
        simp only [h]
        rfl
    | _ => exact .inl rfl

/-- A caller's run is the run of the calls, or it stops at a number that is too long. -/
theorem performAll_eq_or (calls : List BlueprintCall) (b : Blueprint) :
    performAll calls b = runAll calls b ∨ ∃ c, performAll calls b = .error .integerTooLong c := by
  induction calls generalizing b with
  | nil => exact .inl rfl
  | cons call rest ih =>
    rw [performAll, runAll]
    -- the first call that is refused ends the run, up to then the runs agree
    obtain h | h := perform_eq_or call b
    · cases hrun : call.run b with
      | error e c =>
        rw [EStateM.bind_of_error (h.trans hrun), EStateM.bind_of_error hrun]
        exact .inl rfl
      | ok reply c =>
        rw [EStateM.bind_of_ok (h.trans hrun), EStateM.bind_of_ok hrun]
        exact ih c
    · exact .inr ⟨b, EStateM.bind_of_error h _⟩

/-- A caller's run that succeeds is the run of the calls. -/
theorem runAll_of_performAll {calls : List BlueprintCall} {b c : Blueprint}
    (h : performAll calls b = .ok () c) : runAll calls b = .ok () c := by
  obtain heq | ⟨d, herror⟩ := performAll_eq_or calls b
  · exact heq.symm.trans h
  · cases herror.symm.trans h

end BlueprintCall

end Querysmith
