import Querysmith.Connection.Handle
import Querysmith.Value.Key

/-!
# Registries of open transactions

A registry maps a server to the context that holds its open transaction. Servers are listed
in the order in which their transactions were opened; a transaction opened over another one
takes its place.

* `get?_insert`, `get?_erase`   recording and forgetting change one server only
-/

namespace Querysmith

/-- The contexts that hold open transactions, by server. -/
structure Registry where
  active : List (Value × ContextId) := []

namespace Registry

/-- The context of a server's open transaction. -/
def get? (r : Registry) (server : Value) : Option ContextId :=
  (r.active.find? fun e => e.1.sameKey server).map Prod.snd

/-- Sets the context of a server. -/
def insertInto (server : Value) (context : ContextId) :
    List (Value × ContextId) → List (Value × ContextId)
  | [] => [(server, context)]
  | e :: rest =>
    if e.1.sameKey server then (e.1, context) :: rest
    else e :: insertInto server context rest

/-- Records an open transaction. -/
def insert (r : Registry) (server : Value) (context : ContextId) : Registry :=
  ⟨insertInto server context r.active⟩

/-- Takes a server out. -/
def erase (r : Registry) (server : Value) : Registry :=
  ⟨r.active.filter fun e => !e.1.sameKey server⟩

/-- Takes a server out and gives the context that it had. Nothing is looked up in an empty
registry, so that any value will do for a server there. -/
def take (r : Registry) (server : Value) : Except Error (Option ContextId × Registry) :=
  if r.active.isEmpty then .ok (none, r)
  else do
    let server ← server.asKey
    pure (r.get? server, r.erase server)

/-- The servers with an open transaction. -/
def servers (r : Registry) : List Value := r.active.map Prod.fst

/-- An open transaction is found under every name that is the same key, and every other
server is as before. -/
theorem get?_insert (r : Registry) (server : Value) (context : ContextId) (s : Value) :
    (r.insert server context).get? s =
      if server.sameKey s then some context else r.get? s := by
  obtain ⟨active⟩ := r
  simp only [insert, get?]
  induction active with
  | nil => by_cases h : server.sameKey s <;> simp [insertInto, h]
  | cons e rest ih =>
    by_cases he : e.1.sameKey server
    · have := Value.sameKey_trans (c := s) he
      by_cases hs : server.sameKey s <;> simp_all [insertInto]
    · by_cases hes : e.1.sameKey s
      · have hne : server.sameKey s = false := by
          rw [Value.sameKey_comm] at hes
          have := Value.sameKey_trans (c := server) hes
          rw [Value.sameKey_comm server s, this]
          simpa using he
        simp [insertInto, he, hes, hne]
      · simp_all [insertInto]

/-- A server that was taken out is not found, and every other server is as before. -/
theorem get?_erase (r : Registry) (server s : Value) :
    (r.erase server).get? s = if server.sameKey s then none else r.get? s := by
  obtain ⟨active⟩ := r
  simp only [erase, get?]
  induction active with
  | nil => simp
  | cons e rest ih =>
    -- the entry in front is taken out, or it is the one that is found, or neither
    by_cases he : e.1.sameKey server
    · rw [List.filter_cons_of_neg (by simpa using he), ih]
      have := Value.sameKey_trans (c := s) he
      by_cases hs : server.sameKey s <;> simp_all
    · by_cases hes : e.1.sameKey s
      · have hne : server.sameKey s = false := by
          rw [Value.sameKey_comm] at hes
          have := Value.sameKey_trans (c := server) hes
          rw [Value.sameKey_comm server s, this]
          simpa using he
        simp [he, hes, hne]
      · simp_all

end Registry

end Querysmith
