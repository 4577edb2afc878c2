import Querysmith.Session.Command

/-!
# What commands may do

The terms of a run say which contexts its commands may refer to, on which servers they may begin and
end transactions, which statements of their own they may send on a server, and for which connections
they may make contexts. Whether a command obeys them depends on the session in which the run comes
to it, since a name stands for the context that was kept under it last.

## Main definitions

- `Terms`, `Command.Obeys`: what a run may do, and whether a command does no more
- `Reaches`: the commands that a run comes to, each with the session that it finds
-/

namespace Querysmith

open Session

/-- What the commands of a run may do. -/
structure Terms where
  /-- The contexts that they may refer to. -/
  context : ContextId → Prop
  /-- The servers on which they may begin and end transactions. -/
  server : Value → Prop
  /-- The statements in their own words that they may run on a server. -/
  sql : Value → Value → Prop
  /-- The connections for which they may make contexts. -/
  link : LinkId → Prop

/-- Anything may be done. -/
def Terms.any : Terms := ⟨fun _ => True, fun _ => True, fun _ _ => True, fun _ => True⟩

variable (terms : Terms)

/-- The context that is referred to, if it has been made, is one that may be. -/
def ContextRef.Obeys (s : Session) : ContextRef → Prop
  | .named name => ∀ id, Session.named s.contextNames name = .ok id → terms.context id
  | .inPlace _ => True

/-- The context of a target, if it has one, may be referred to. -/
def Target.Obeys (s : Session) (target : Target) : Prop :=
  ∀ ref, target.context = some ref → ref.Obeys terms s

/-- The command itself, apart from the commands inside of it, does no more than it may in this
session. A statement in the caller's own words is free on a context that is referred to. -/
def Command.Obeys (s : Session) : Command → Prop
  | .makeContext _ _ link _ _ => ∀ l, link = some l → terms.link l
  | .askContext name _ => (ContextRef.named name).Obeys terms s
  | .withContext name _ => (ContextRef.named name).Obeys terms s
  | .query sql _ _ target =>
    target.Obeys terms s ∧ (target.context = none → terms.sql target.server sql)
  | .build _ _ target => target.Obeys terms s
  | .updateRows _ _ _ target => target.Obeys terms s
  | .changeTable _ target => target.Obeys terms s
  | .hasTable _ target => target.Obeys terms s
  | .beginTransaction _ target => target.Obeys terms s ∧ terms.server target.server
  | .inTransaction _ target => target.Obeys terms s ∧ terms.server target.server
  | .commitTransaction server => terms.server server
  | .rollbackTransaction server => terms.server server
  | .execute _ place _ _ _ _ => place.Obeys terms s
  | .value _ | .fail .. | .configure .. | .showServer _ | .openServers => True
  | .insertRow .. | .replaceRow .. | .deleteRows .. => True
  | .askResult .. | .askRegistry .. => True

/-- On these terms every command obeys. -/
theorem Command.obeys_any (s : Session) (command : Command) : command.Obeys .any s := by
  -- a context may be referred to in any way
  have href : ∀ ref : ContextRef, ref.Obeys .any s := by
    intro ref
    cases ref with
    | named name => exact fun _ _ => trivial
    | inPlace v => exact trivial
  cases command with
  | makeContext => exact fun _ _ => trivial
  | askContext name question => exact href (.named name)
  | withContext name body => exact href (.named name)
  | query => exact ⟨fun ref _ => href ref, fun _ => trivial⟩
  | build => exact fun ref _ => href ref
  | updateRows => exact fun ref _ => href ref
  | changeTable => exact fun ref _ => href ref
  | hasTable => exact fun ref _ => href ref
  | beginTransaction => exact ⟨fun ref _ => href ref, trivial⟩
  | inTransaction => exact ⟨fun ref _ => href ref, trivial⟩
  | execute => exact href _
  -- the other commands have no terms
  | _ => exact trivial

/-- A run of the commands from the first session comes to the command in the second session: to one
of the list, after those before it have succeeded, or to one inside of such a command. -/
inductive Reaches : List Command → Session → Command → Session → Prop where
  | head {command rest s} : Reaches (command :: rest) s command s
  | tail {command rest s reply u reached t} :
      command.run s = .ok reply u → Reaches rest u reached t → Reaches (command :: rest) s reached t
  | within {name body rest s id u reached t} :
      contextNamed name s = .ok id u → Reaches body u reached t →
      Reaches (.withContext name body :: rest) s reached t
  | inside {body target rest s given u id v reached t} :
      givenContext target s = .ok given u →
      beginTransaction target.server given u = .ok id v → Reaches body v reached t →
      Reaches (.inTransaction body target :: rest) s reached t

/-- What a single command comes to, it comes to as the first one of more. -/
theorem Reaches.append {command reached : Command} {s t : Session}
    (h : Reaches [command] s reached t) (rest : List Command) :
    Reaches (command :: rest) s reached t := by
  cases h with
  | head => exact .head
  | tail _ h => exact nomatch h
  | within hname h => exact .within hname h
  | inside hgiven hbegin h => exact .inside hgiven hbegin h

end Querysmith
