import Querysmith.Connection.Handle
import Querysmith.Value.Basic

/-!
# Events

Everything that happens outside the library: look-ups of secrets, connections opened and
closed, statements run and rows fetched, and messages to the log.
-/

namespace Querysmith

/-- A private key, as it was read. -/
structure PrivateKey where
  text : String
  passphrase : Option String
  deriving DecidableEq, Repr

/-- A connection parameter. -/
inductive Setting where
  | value (v : Value)
  | key (k : PrivateKey)

/-- Connection parameters by name. -/
abbrev Settings := List (Value × Setting)

/-- How important a message is. -/
inductive Level where
  | info
  | warning
  | error
  deriving DecidableEq, Repr

/-- Something that happened. -/
inductive Event where
  /-- The password of a user was looked up. -/
  | keyring (service user : Value)
  /-- A private key was read. -/
  | loadKey (text : String) (passphrase : Option String)
  /-- A connection was opened. -/
  | connect (link : LinkId) (settings : Settings)
  /-- A connection was refused. -/
  | refuse (link : LinkId) (settings : Settings)
  /-- A cursor was made. -/
  | cursor (id : CursorId)
  /-- A statement was sent, with values when there are any to bind. It failed when there is a
  reason for it. -/
  | execute (id : CursorId) (sql : Value) (bindings : Option (List Value))
      (failure : Option String)
  /-- A statement was sent for every row. -/
  | executeMany (id : CursorId) (sql : Value) (rows : List (List Value))
      (failure : Option String)
  | fetchOne (id : CursorId)
  | fetchAll (id : CursorId)
  | fetchFrame (id : CursorId)
  | closeCursor (id : CursorId)
  | closeLink (id : LinkId)
  /-- A message was logged. -/
  | message (level : Level) (text : String)

/-- A statement that begins or ends a transaction. -/
inductive Control where
  | begin
  | commit
  | rollback
  deriving DecidableEq, Repr

/-- The text of the statement. -/
def Control.text : Control → String
  | .begin => "BEGIN"
  | .commit => "COMMIT"
  | .rollback => "ROLLBACK"

end Querysmith
