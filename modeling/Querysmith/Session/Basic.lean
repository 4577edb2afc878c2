import Querysmith.Connection.Context
import Querysmith.Connection.Event
import Querysmith.Connection.Link
import Querysmith.Database.Registry
import Querysmith.Profile.Book

/-!
# Sessions

A session is the state that all calls of a process share: the profiles, the connections, the
contexts, the open transactions, and the names under which a caller keeps what calls gave.
Everything that happens outside is recorded in its trace.

An action changes the session and gives a value or fails; a failure keeps what was changed
before it.
-/

namespace Querysmith

/-- The state that calls share. -/
structure Session where
  environment : Environment := {}
  profiles : ProfileBook := {}
  /-- The connections, those of the caller first. -/
  links : List Link := []
  /-- The connections that can still be opened, in order. -/
  supply : List LinkSpec := []
  contexts : List Context := []
  transactions : Registry := {}
  /-- What happened, latest first. -/
  trace : List Event := []
  /-- The statements that began and ended transactions and did not fail, latest first. -/
  controls : List (CursorId × Control) := []
  /-- The contexts that the caller named, in the order in which the names were first used. -/
  contextNames : List (String × ContextId) := []
  /-- The results that the caller named. -/
  resultNames : List (String × CursorId) := []
  /-- Registries of the caller's own, by name. -/
  registries : List (String × Registry) := []

/-- A change of the session that gives a value or fails. -/
abbrev Act := EStateM Error Session

namespace Session

/-- Records an event. -/
def emit (e : Event) : Act Unit := modify fun s => { s with trace := e :: s.trace }

/-- Writes a message to the log. -/
def note (level : Level) (text : String) : Act Unit := emit (.message level text)

/-- What happened, in order. -/
def events (s : Session) : List Event := s.trace.reverse

/-- A connection. -/
def link (s : Session) (id : LinkId) : Link := (s.links[id.index]?).getD {}

/-- Replaces a connection. -/
def setLink (s : Session) (id : LinkId) (l : Link) : Session :=
  { s with links := s.links.set id.index l }

/-- A cursor. -/
def cursor (s : Session) (id : CursorId) : Cursor := (s.link id.link).cursor id.index

/-- A context; one that was never made stands for a connection that does not exist. -/
def context (s : Session) (id : ContextId) : Context :=
  (s.contexts[id.index]?).getD { source := .caller (.handle ⟨s.links.length⟩) }

/-- Replaces a context. -/
def setContext (s : Session) (id : ContextId) (c : Context) : Session :=
  { s with contexts := s.contexts.set id.index c }

/-- Adds a context. -/
def addContext (c : Context) : Act ContextId := do
  let id : ContextId := ⟨(← get).contexts.length⟩
  modify fun s => { s with contexts := s.contexts ++ [c] }
  return id

/-- Adds a context for a server, which has to be named. -/
def addServerContext (server : Value) (overrides : Entries := []) : Act ContextId := do
  let source ← ofExcept (ContextSource.choose server none overrides)
  addContext { source }

/-- Lets the profiles change. -/
def onProfiles {α : Type} (act : EStateM Error ProfileBook α) : Act α := fun s =>
  match act s.profiles with
  | .ok a book => .ok a { s with profiles := book }
  | .error e book => .error e { s with profiles := book }

end Session

end Querysmith
