import Querysmith.Call.Signature
import Querysmith.Connection.Handle

/-!
# Calls on a registry, as they are written

The first argument of every call is a server, and all others are contexts.
-/

namespace Querysmith

open Signature Form

/-- A call on a registry. -/
inductive RegistryCall where
  | get (server : Value)
  /-- Records a context and gives the one that was recorded before. -/
  | insert (server : Value) (context : ContextId)
  /-- Takes a server out and gives its context. -/
  | erase (server : Value)
  | servers

/-- An argument of a call on a registry. -/
inductive RegistryArgument where
  | server (name : Value)
  | context (id : ContextId)

namespace RegistryCall

/-- The form of a call that takes a server only. -/
def ofServer (make : Value → RegistryCall) : Form RegistryArgument RegistryCall :=
  plain [required "server"] fun
    | [.server name] => some (make name)
    | _ => none

/-- The call that a written call makes. -/
def ofCall (call : Call RegistryArgument) : Except Error RegistryCall :=
  let read (form : Form RegistryArgument RegistryCall) : Except Error RegistryCall :=
    form.read ("TransactionRegistry." ++ call.name) .server call
  match call.name with
  | "get" => read (ofServer .get)
  | "open" => read (plain [required "server", required "context"] fun
      | [.server name, .context id] => some (.insert name id)
      | _ => none)
  | "pop" => read (ofServer .erase)
  | "servers" => read (bare .servers)
  | name => .error (.noOperation "TransactionRegistry" name)

end RegistryCall

end Querysmith
