import Querysmith.Connection.Handle
import Querysmith.Query.Fragment

/-!
# Replies

What a call gives back.
-/

namespace Querysmith

/-- A table of result rows under column names. -/
structure Frame where
  columns : List Value
  rows : List (List Value)

/-- What a call gives back. -/
inductive Reply where
  /-- The object that the call was made on, so that calls chain. -/
  | itself
  | value (v : Value)
  | statement (f : Fragment)
  | frame (f : Frame)
  | link (id : LinkId)
  | cursor (id : CursorId)
  | context (id : ContextId)
  /-- The result of a statement, read from its cursor. -/
  | result (id : CursorId)
  deriving Inhabited

namespace Reply

/-- No value. -/
def nothing : Reply := .value .null

/-- A text. -/
def text (s : String) : Reply := .value (.str s)

end Reply

end Querysmith
