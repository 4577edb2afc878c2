import Querysmith.Proofs.Session.Commands
import Querysmith.Proofs.Session.Sending
import Querysmith.Proofs.Statement.Retargeting

/-!
# Where statements without a context run

A statement that refers to no context runs on the context that is on record for its server, if there
is one. It does there exactly what it does when that context is given, and sends nothing elsewhere.

## Main definitions

- `Command.statement?`: the statement of a command that refers to no context
- `Command.RunsOn`: the statement runs on a context

## Key results

- `run_of_statement?`: a command that refers to no context is its statement with none given
- `runsOn_of_registered`: statements on a server run on the context on record for it
-/

namespace Querysmith

open Session EStateM

/-- The server of a command that runs a statement and refers to no context, and what the command
does when it may be given a context. -/
def Command.statement? : Command → Option (Value × (Option ContextId → Act Reply))
  -- only statements whose target names no context
  | .query sql values shape ⟨server, none, _⟩ =>
    some (server, Session.query sql values shape server)
  | .build table steps ⟨server, none, _⟩ =>
    some (server, fun context => Builder.runAll { server, context, table } steps)
  | .insertRow table data server =>
    some (server, fun context => (Terminal.insert data).run { server, context, table })
  | .replaceRow table data server =>
    some (server, fun context => (Terminal.replace data).run { server, context, table })
  | .updateRows table data calls ⟨server, none, _⟩ =>
    some (server, Session.updateRows table data calls server)
  | .deleteRows table conditions server => some (server, fun context => do
      let wheres ← ofExcept (columnConditions conditions)
      Terminal.delete.run { server, context, table, wheres })
  | .changeTable change ⟨server, none, _⟩ => some (server, Session.changeTable change server)
  | .hasTable table ⟨server, none, _⟩ => some (server, Session.hasTable table server)
  | _ => none

/-- The cursor that a statement was sent on. -/
def Event.sentOn? : Event → Option CursorId
  | .execute id .. | .executeMany id .. => some id
  | _ => none

/-- If the command runs a statement on the server and refers to no context, it does what it does
when the context is given, and sends statements on this cursor only. -/
def Command.RunsOn (server : Value) (c : ContextId) (k : CursorId) (t : Session)
    (command : Command) : Prop :=
  ∀ other act, command.statement? = some (other, act) → other.sameKey server = true →
    command.run t = act (some c) t ∧
      ∀ e ∈ since t (command.run t).state, ∀ id, e.sentOn? = some id → id = k

/-- A command that refers to no context is its statement with no context given. -/
theorem Command.run_of_statement? {command : Command} {server : Value}
    {act : Option ContextId → Act Reply} (h : command.statement? = some (server, act)) :
    command.run = act none := by
  unfold statement? at h
  -- one case for each kind of statement, in the order of the definition
  split at h <;> cases h
  case h_1 =>
    rw [Command.run, queryOn_eq]
    rfl
  case h_2 =>
    rw [Command.run, builderOn_eq]
    rfl
  all_goals
    rw [Command.run]
    rfl

/-! ## Statements on a context that is on record -/

variable {α : Type} {server : Value} {c : ContextId} {k : CursorId} {t : Session}

/-- With a registered context a server is served on that. -/
theorem onServer_of_registered (h : t.transactions.get? server = some c)
    (act : ContextId → Act α) : onServer server none act t = onServer server (some c) act t := by
  have hopen := openTransaction?_eq (Registry.key?_ne_none h) t
  rw [h] at hopen
  exact bind_of_ok hopen _

/-- What runs on the context that is given leaves the registry as it is. -/
private theorem serves_registered (server : Value) (c : ContextId) :
    Serves (fun t => t.transactions.get? server = some c) (some c) fun _ _ => True := by
  have hrides : Rides (fun t => t.transactions.get? server = some c) fun _ => True :=
    { quiet := fun ht h => by rw [ht.transactions, h]
      opens := fun _ ht h => by rw [ht.transactions, h]
      draws := fun _ ht h => by rw [ht.transactions, h] }
  exact serves_of_hosts (fun _ => hrides.hosts trivial _) fun _ => trivial

/-- A builder that names no context, and the same with the context on record for its server. -/
private def toRegistered (server : Value) (c : ContextId) : Turn := ⟨server, none, server, some c⟩

/-- A terminal call runs on the context on record, and leaves it on record. -/
private theorem mirrored_toRegistered (server : Value) (c : ContextId) :
    (toRegistered server c).Mirrored (fun t => t.transactions.get? server = some c)
      Terminal.run := by
  rintro call b t hserver hcontext ht
  have hsame : call.run (b.retarget server (some c)) t = call.run b t := by
    -- the statement does not depend on where it is sent
    have hstatement : call.statement (b.retarget server (some c)) = call.statement b := by
      cases call <;> rfl
    rw [Terminal.run, Terminal.run, hserver, hcontext, hstatement]
    refine Eq.symm (bind_congr_left (onServer_of_registered ht _) _)
  refine ⟨hsame, ?_⟩
  rw [← hsame]
  exact ((serves_registered server c).keeps_terminal call rfl).state ht

/-- Calls on a builder that names no context run on the context on record for its server. -/
theorem Builder.runAll_of_registered (h : t.transactions.get? server = some c) {b : Builder}
    (hserver : b.server = server) (hcontext : b.context = none) (steps : List (Step Terminal)) :
    b.runAll steps t = (b.retarget server (some c)).runAll steps t := by
  have hmirror := Step.runAll_mirrors (mirrored_toRegistered server c) steps
  have hbefore : (toRegistered server c).Before (fun t => t.transactions.get? server = some c)
      ⟨b, t⟩ := ⟨h, hserver, hcontext⟩
  have happly : (toRegistered server c).apply ⟨b, t⟩ = ⟨b.retarget server (some c), t⟩ := rfl
  -- both runs stop alike, with the same reply, in the same session
  rcases hmirror.outcome hbefore with ⟨r, r', u, hrun, hrun', hreply, -⟩ | ⟨e, u, hrun, hrun', -⟩
  · cases hreply rfl
    rw [happly] at hrun'
    rw [runAll, runAll, hrun, hrun']
    rfl
  · rw [happly] at hrun'
    rw [runAll, runAll, hrun, hrun']
    rfl

/-- What is known before a statement goes on with it. -/
private theorem ofExcept_bind_congr {β : Type} {x : Except Error β} {f g : β → Act α}
    (h : ∀ a, f a t = g a t) : (ofExcept x >>= f) t = (ofExcept x >>= g) t := by
  cases x with
  | error e => rfl
  | ok a => exact h a

/-- A statement with no context given runs on the context on record for its server. -/
theorem Command.statement?_of_registered {command : Command} {act : Option ContextId → Act Reply}
    (hact : command.statement? = some (server, act)) (h : t.transactions.get? server = some c) :
    act none t = act (some c) t := by
  have hserver := onServer_of_registered h (α := Reply)
  unfold statement? at hact
  split at hact <;> cases hact
  case h_1 => exact hserver _
  case h_2 => exact Builder.runAll_of_registered h rfl rfl _
  case h_3 => exact bind_congr_left (hserver _) _
  case h_4 => exact bind_congr_left (hserver _) _
  case h_5 => exact ofExcept_bind_congr fun _ => Builder.runAll_of_registered h rfl rfl _
  case h_6 => exact ofExcept_bind_congr fun _ => bind_congr_left (hserver _) _
  case h_7 =>
    refine ofExcept_bind_congr fun sql => ?_
    -- nothing is sent for an empty statement
    split
    · rfl
    · exact hserver _
  case h_8 => exact ofExcept_bind_congr fun _ => hserver _

/-! ## Where statements are sent -/

/-- A statement on a context that is given keeps what statements on that context keep. -/
theorem Command.keeps_statement? {J : Session → Prop} {given : Option ContextId} {command : Command}
    {act : Option ContextId → Act Reply} (h : Serves J given fun _ _ => True)
    (hact : command.statement? = some (server, act)) : Keeps J (act given) := by
  unfold statement? at hact
  -- one case for each kind of statement, in the order of the definition
  split at hact <;> cases hact
  case h_1 => exact h.keeps_query trivial _ _
  case h_2 => exact h.keeps_runAll rfl _
  case h_3 => exact h.keeps_terminal _ rfl
  case h_4 => exact h.keeps_terminal _ rfl
  case h_5 => exact h.keeps_updateRows _ _ _ _
  case h_6 => exact (keeps_ofExcept _).bind fun _ => h.keeps_terminal _ rfl
  case h_7 => exact h.keeps_changeTable _ _
  case h_8 => exact h.keeps_hasTable _ _

/-- The context has the cursor, and statements have been sent on no other one. -/
private structure SendsOn (c : ContextId) (k : CursorId) (s t : Session) : Prop where
  cursor : (t.context c).cursor = some (.handle k)
  trace : s.trace <:+ t.trace
  sent : ∀ e ∈ since s t, ∀ id, e.sentOn? = some id → id = k

/-- A quiet stretch that sends to no other cursor may follow. -/
private theorem SendsOn.quiet {s u : Session} (h : SendsOn c k s t) (hu : Quiet t u)
    (hsent : ∀ e ∈ since t u, ∀ id, e.sentOn? = some id → id = k) : SendsOn c k s u where
  cursor := by rw [cursor_congr hu.contexts, h.cursor]
  trace := h.trace.trans hu.trace
  sent := by
    rw [since_trans h.trace hu.trace]
    exact fun e he => (List.mem_append.1 he).elim (hsent e) (h.sent e)

/-- Where the context has the cursor, statements on it are sent on this cursor. -/
private theorem hosts_sendsOn (c : ContextId) (k : CursorId) (s : Session) :
    Hosts (SendsOn c k s) (fun _ => True) c where
  calm := fun {t u} hu h => h.quiet hu.toQuiet fun e he id hid => by
    -- a calm stretch sends nothing, so nothing on another cursor either
    have hnone : (since t u).filter Event.isStatement = [] := sent_since hu.trace hu.sent
    have hstatement : e.isStatement = true := by
      cases e <;> simp_all [Event.sentOn?, Event.isStatement]
    exact absurd hstatement (List.filter_eq_nil_iff.1 hnone e he)
  run := fun {sql} bindings _ => keeps_run_of_cursor SendsOn.cursor (fun values u hu => by
    -- the one statement is added, and it is on the cursor
    have hadded : ∀ {v failure}, Quiet u v → v.trace = .execute k sql values failure :: u.trace →
        SendsOn c k s v := fun hv htrace => hu.quiet hv fun e he id hid => by
      obtain rfl : e = .execute k sql values _ := by simpa [since, htrace] using he
      exact (Option.some.inj hid).symm
    refine (execute_outcome k sql values u).mono (fun _ v hv => ⟨hadded hv.1 hv.2, trivial⟩) ?_
    rintro v ⟨hv, reason, htrace⟩
    exact hadded hv htrace) bindings

/-- Statements that refer to no context run on the context on record for their server. -/
theorem runsOn_of_registered (h : t.transactions.get? server = some c)
    (hcursor : (t.context c).cursor = some (.handle k)) (command : Command) :
    command.RunsOn server c k t := by
  intro other act hact hother
  have hget : t.transactions.get? other = some c := by
    rw [Registry.get?_congr hother, h]
  -- without a context the statement is the one on the context of the transaction
  have hgiven := Command.statement?_of_registered hact hget
  rw [Command.run_of_statement? hact]
  refine ⟨hgiven, ?_⟩
  -- nothing has been sent yet
  have hstart : SendsOn c k t t := ⟨hcursor, List.suffix_rfl, by simp [since]⟩
  have hserves := serves_of_hosts (fun _ => hosts_sendsOn c k t) fun {_ _} _ => trivial
  rw [hgiven]
  exact ((Command.keeps_statement? hserves hact).state hstart).sent

end Querysmith
