import Querysmith.Session.Driver
import Querysmith.Text.LetterCase
import Querysmith.Value.Integer

/-!
# Connectors

A connector holds the settings of a server, which are those of its profile with overrides on
top, and the credential that goes with them: a private key when the settings ask for key pair
authentication, and otherwise a password, taken from the settings, from the environment, or
from the keyring, whichever has one first.
-/

namespace Querysmith

open Session

/-- What a connection is authenticated with. -/
inductive Credential where
  | absent
  | password (text : String)
  | key (key : PrivateKey)

/-- A connector. -/
structure Connector where
  server : Value
  settings : Entries
  credential : Credential
  /-- The connection that it has opened and not closed. -/
  opened : Option OpenLink := none

/-- Settings that tell where credentials are found and are not meant for the driver. -/
def localSettings : List String :=
  ["password_env", "use_keyring", "keyring_service", "keyring_username",
   "private_key_passphrase_env", "private_key_file"]

namespace Entries

/-- The value of a setting. -/
def setting? (settings : Entries) (name : String) : Option Value := settings.get? (.str name)

/-- The value of a setting, null when it is absent. -/
def setting (settings : Entries) (name : String) : Value := (settings.setting? name).getD .null

end Entries

namespace Credential

/-- Whether the settings ask for key pair authentication. -/
def usesKeyPair (settings : Entries) : Except Error Bool :=
  match settings.setting? "authenticator" with
  | none => .ok false
  | some (.str s) => .ok (Text.spellsInCapitals "SNOWFLAKE_JWT" s)
  | some (.bytes _) => .ok false
  | some v => .error (.noOperation v.kindName "upper")

/-- The value of the environment variable that a setting names, if it has one that is not
empty. -/
def fromVariable (env : Environment) (name : Value) : Except Error (Option String) :=
  if name.isTrue then
    match name with
    | .str name => .ok (env.nonEmptyVariable name)
    | v => .error (.notVariableName v.shortKindName)
  else .ok none

/-- The password in the keyring. An empty one counts as none. -/
def fromKeyring (server : Value) (settings : Entries) : Act Credential := do
  let service := (settings.setting? "keyring_service").getD (.str ("sqlfluent." ++ server.text))
  let user := (settings.setting? "keyring_username").getD (settings.setting "user")
  if !user.isTrue then throw .noKeyringUser
  emit (.keyring service user)
  match ((← get).environment.password? service user).filter fun s => s ≠ "" with
  | some secret => return .password secret
  | none => return .absent

/-- The password, and the settings without it. -/
def findPassword (server : Value) (settings : Entries) : Act (Credential × Entries) := do
  match settings.setting? "password" with
  | some v => return (.password (← ofExcept v.writtenText), settings.erase (.str "password"))
  | none =>
    match ← ofExcept (fromVariable (← get).environment (settings.setting "password_env")) with
    | some secret => return (.password secret, settings)
    | none =>
      if (settings.setting "use_keyring").isTrue then
        return (← fromKeyring server settings, settings)
      else return (.absent, settings)

/-- The path of the private key, which has to start at the root or in the home directory and
has to exist. -/
def keyPath (env : Environment) (settings : Entries) : Except Error Path := do
  let given := settings.setting "private_key_file"
  if !given.isTrue then throw .noKeyFile
  match given with
  | .str s =>
    let path ← env.expandHome (Path.ofString s)
    if !path.isAbsolute then throw (.relativeKeyFile s)
    if !(← env.files.contains path) then throw (.missingKeyFile path.text)
    pure path
  | v => throw (.notPath v)

/-- Reads a private key, which the loader may refuse. -/
def loadKey (path : Path) (passphrase : Option String) : Act PrivateKey := do
  let env := (← get).environment
  match ← ofExcept (env.files.read? path) with
  | none => throw (.missingKeyFile path.text)
  | some text =>
    emit (.loadKey text passphrase)
    match env.refuseKey text passphrase with
    | some e => throw e
    | none => return ⟨text, passphrase⟩

/-- The private key that the settings name. -/
def findKey (settings : Entries) : Act Credential := do
  let env := (← get).environment
  let path ← ofExcept (keyPath env settings)
  let passphrase ← ofExcept (fromVariable env (settings.setting "private_key_passphrase_env"))
  try
    pure (.key (← loadKey path passphrase))
  catch e => throw (.unreadableKey path.text e)

end Credential

namespace Connector

/-- The connector of a server: its profile with overrides on top, and the credential. -/
def ofServer (server : Value) (overrides : Entries) : Act Connector := do
  let s ← get
  let profile ← ofExcept (s.environment.load s.profiles server)
  let settings := profile.update overrides
  if ← ofExcept (Credential.usesKeyPair settings) then
    return { server, settings, credential := ← Credential.findKey settings }
  else
    let (credential, settings) ← Credential.findPassword server settings
    return { server, settings, credential }

/-- Whether a setting is meant for the driver. -/
def isForwarded (name : Value) : Bool :=
  match name with
  | .str s => !localSettings.contains s
  | _ => true

/-- Sets a parameter: in its place when it is there, else at the end. -/
def setParameter (ps : Settings) (name : String) (s : Setting) : Settings :=
  if ps.any fun p => p.1.sameKey (.str name) then
    ps.map fun p => if p.1.sameKey (.str name) then (p.1, s) else p
  else ps ++ [(.str name, s)]

/-- The parameters of the connector's connections: the settings meant for the driver, and the
credential. -/
def parameters (c : Connector) : Settings :=
  let forwarded :=
    (c.settings.filter fun e => isForwarded e.1).map fun e => (e.1, Setting.value e.2)
  match c.credential with
  | .absent => forwarded
  | .password text => setParameter forwarded "password" (.value (.str text))
  | .key key => setParameter forwarded "private_key" (.key key)

/-- The parameters with the style of placeholders, unless the settings name one. -/
def connectParameters (c : Connector) : Settings :=
  let ps := c.parameters
  if ps.any fun p => p.1.sameKey (.str "paramstyle") then ps
  else ps ++ [(.str "paramstyle", .value (.str "qmark"))]

/-- Whether every parameter has a text for a name. -/
def areNamed (ps : Settings) : Bool := ps.all fun p => p.1.str?.isSome

/-- Opens a connection and makes a cursor on it. -/
def openLink (c : Connector) : Act OpenLink := do
  let ps := c.connectParameters
  if !areNamed ps then throw .unnamedParameter
  let link ← LinkId.connect ps
  let cursor ← link.makeCursor
  return ⟨link, cursor⟩

/-- The connection of the connector, opened unless it is open. -/
def connect (c : Connector) : Act (Connector × OpenLink) := do
  match c.opened with
  | some o => return (c, o)
  | none =>
    let o ← c.openLink
    return ({ c with opened := some o }, o)

/-- Closes the connection, if there is one. -/
def close (c : Connector) : Act Connector := do
  match c.opened with
  | some o =>
    o.close
    return { c with opened := none }
  | none => return c

/-- Runs an action with the connection of the connector, which is closed afterwards; gives
what came of the action. -/
def within {α : Type} (c : Connector) (act : OpenLink → Act α) :
    Act (Connector × Except Error α) := do
  let (c, o) ← c.connect
  let outcome ← try
      pure (Except.ok (← act o))
    catch e => pure (Except.error e)
  let c ← c.close
  return (c, outcome)

/-- The password of the connector. -/
def password? (c : Connector) : Option String :=
  match c.credential with
  | .password text => some text
  | _ => none

/-- Whether the connector has a private key. -/
def hasKey (c : Connector) : Bool :=
  match c.credential with
  | .key _ => true
  | _ => false

/-- The connector in a message. -/
def shown (c : Connector) : String :=
  "SnowflakeConnector(server='" ++ c.server.text ++ "', " ++
    (if c.opened.isSome then "connected" else "not connected") ++ ")"

end Connector

end Querysmith
