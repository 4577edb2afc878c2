import Querysmith.Value.Basic

/-!
# Handles

Connections, cursors and contexts are shared, so they are referred to by their position in
the store that holds them.
-/

namespace Querysmith

/-- A connection of the database driver. -/
structure LinkId where
  index : Nat
  deriving DecidableEq, Repr, Inhabited

/-- A cursor: its connection, and its position among the cursors made from it. -/
structure CursorId where
  link : LinkId
  index : Nat
  deriving DecidableEq, Repr, Inhabited

/-- A connection context. -/
structure ContextId where
  index : Nat
  deriving DecidableEq, Repr, Inhabited

/-- What a caller lends where a connection or a cursor is expected. -/
inductive Lent (α : Type) where
  | handle (id : α)
  /-- A value, which can do nothing that a connection or a cursor can. -/
  | value (v : Value)

end Querysmith
