import Querysmith.Profile.Environment
import Querysmith.Profile.Toml

/-!
# Server profiles

A profile is the settings of a server. Profiles registered at run time come first, in the
order of their registration; a file of profiles is read for the others. The first
registration of a name stays until the name is taken out.
-/

namespace Querysmith

/-- The profiles registered at run time. -/
structure ProfileBook where
  profiles : List (Value × Entries) := []

namespace ProfileBook

/-- The registered profile of a server. -/
def get? (book : ProfileBook) (server : Value) : Option Entries :=
  (book.profiles.find? fun p => p.1.sameKey server).map Prod.snd

/-- Whether a server is registered. -/
def contains (book : ProfileBook) (server : Value) : Bool := (book.get? server).isSome

/-- The registered servers in the order of registration. -/
def servers (book : ProfileBook) : List Value := book.profiles.map Prod.fst

/-- Registers a server behind the others. -/
def add (book : ProfileBook) (server : Value) (profile : Entries) : ProfileBook :=
  ⟨book.profiles ++ [(server, profile)]⟩

/-- Registers a server unless its name is taken; tells whether it was. -/
def register (server config : Value) : EStateM Error ProfileBook Bool := do
  let server ← ofExcept server.asKey
  if (← get).contains server then return false
  let profile ← ofExcept (Entries.ofValue config)
  modify (·.add server profile)
  return true

/-- Takes a server out. -/
def remove (book : ProfileBook) (server : Value) : ProfileBook :=
  ⟨book.profiles.filter fun p => !p.1.sameKey server⟩

/-- Takes a server out, whose name has to be one that can be registered. Nothing is looked up
in an empty book, so that any value will do for a name there. -/
def unregister (server : Value) : EStateM Error ProfileBook Unit := do
  if (← get).profiles.isEmpty then return
  let server ← ofExcept server.asKey
  modify (·.remove server)

/-- Registers a server, whose name must not be taken. -/
def configure (server config : Value) : EStateM Error ProfileBook Unit := do
  let entries ← ofExcept (Entries.ofValue config)
  if !(← register server (.map entries)) then throw (.duplicateServer server)

end ProfileBook

namespace Environment

/-- The directory of the profile file: the one that the environment names, else one in the
home directory. -/
def configDirectory (env : Environment) : Except Error Path :=
  match env.nonEmptyVariable "SQLFLUENT_CONFIG_DIR" with
  | some directory => .ok (Path.ofString directory)
  | none => do
    let home ← env.expandHome (Path.ofString "~")
    pure (home.entry ".sqlfluent")

/-- The profile file of the configuration directory. -/
def defaultProfiles (env : Environment) : Except Error Path := do
  let path := (← env.configDirectory).entry "servers.toml"
  if ← env.files.contains path then pure path else throw (.noDefaultProfiles path.text)

/-- The profile file that a caller names, or the default one. -/
def resolveProfiles (env : Environment) (path : Value) : Except Error Path :=
  if path.isTrue then
    match path with
    | .str s => .ok (Path.ofString s)
    | v => .error (.notPath v)
  else env.defaultProfiles

/-- The profiles of a file. -/
def readProfiles (env : Environment) (path : Path) : Except Error Entries := do
  match ← env.files.read? path with
  | none => .error (.noProfiles path.text)
  | some text => Toml.parse text

/-- The names of a file's profiles. -/
def profileNames (entries : Entries) : List String := entries.map fun e => e.1.text

/-- The profile of a server: the registered one, else the one in the file. -/
def load (env : Environment) (book : ProfileBook) (server : Value) (path : Value := .null) :
    Except Error Entries := do
  let server ← server.asKey
  match book.get? server with
  | some profile => pure profile
  | none =>
    let path ← env.resolveProfiles path
    if !(← env.files.contains path) then throw (.noProfiles path.text)
    let all ← env.readProfiles path
    match all.get? server with
    | some profile => Entries.ofValue profile
    | none => throw (.unknownServer server path.text (profileNames all))

/-- The names of all servers, the registered ones first. A missing default file counts as
empty, and so does a missing file that the caller named. -/
def listServers (env : Environment) (book : ProfileBook) (path : Value := .null) :
    Except Error (List Value) :=
  match env.resolveProfiles path with
  | .error (.noDefaultProfiles _) => .ok book.servers
  | .error e => .error e
  | .ok path => do
    if !(← env.files.contains path) then return book.servers
    let all ← env.readProfiles path
    pure (book.servers ++ (all.map Prod.fst).filter fun name => !book.contains name)

end Environment

end Querysmith
