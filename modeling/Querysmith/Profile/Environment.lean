import Querysmith.Profile.FileTree

/-!
# The environment of a process

The files, variables and stored passwords that profiles and credentials are taken from.
-/

namespace Querysmith

/-- A stored password. -/
structure StoredPassword where
  service : String
  user : String
  password : String

/-- What the process finds around it. -/
structure Environment where
  files : FileTree := {}
  /-- Variables and their values. -/
  assignments : List (String × String) := []
  /-- The home directories of other users. -/
  homes : List (String × String) := []
  keyring : List StoredPassword := []
  /-- Why the loader of private keys does not take a text with a passphrase, if it does not. -/
  refuseKey : String → Option String → Option Error := fun _ _ => none

namespace Environment

/-- The value of a variable. -/
def variableNamed (env : Environment) (name : String) : Option String :=
  (env.assignments.find? fun v => v.1 = name).map Prod.snd

/-- The value of a variable that is set and not empty. -/
def nonEmptyVariable (env : Environment) (name : String) : Option String :=
  (env.variableNamed name).filter fun s => s ≠ ""

/-- The home directory of a user, of the one at hand under an empty name. -/
def homeOf (env : Environment) (user : String) : Option String :=
  if user = "" then env.variableNamed "HOME"
  else (env.homes.find? fun h => h.1 = user).map Prod.snd

/-- A path with its leading `~` replaced. Nobody is looked up under a name with a null
character. -/
def expandHome (env : Environment) (p : Path) : Except Error Path :=
  if p.user?.any (·.toList.contains '\x00') then .error .nullInUser
  else match p.expandHome? env.homeOf with
    | some path => .ok path
    | none => .error .noHome

/-- The stored password of a user. -/
def password? (env : Environment) (service user : Value) : Option String :=
  match service, user with
  | .str service, .str user =>
    (env.keyring.find? fun p => p.service = service && p.user = user).map StoredPassword.password
  | _, _ => none

end Environment

end Querysmith
