import Querysmith.Session.Basic

/-!
# Names

What a caller keeps under a name: contexts, results, and registries of its own. A name used
again stands for what was kept last, and keeps its place among the names.
-/

namespace Querysmith.Session

/-- The entry of a name. -/
def named? {α : Type} (entries : List (String × α)) (name : String) : Option α :=
  (entries.find? fun e => e.1 = name).map Prod.snd

/-- The entry of a name that has to be there; only texts are names. -/
def named {α : Type} (entries : List (String × α)) (name : Value) : Except Error α := do
  let name ← name.asKey
  match name.str?.bind (named? entries) with
  | some a => pure a
  | none => throw (.unknownName name)

/-- Keeps an entry under a name. -/
def keep {α : Type} (name : String) (a : α) : List (String × α) → List (String × α)
  | [] => [(name, a)]
  | e :: rest => if e.1 = name then (name, a) :: rest else e :: keep name a rest

/-- The context of a name. -/
def contextNamed (name : Value) : Act ContextId := do ofExcept (named (← get).contextNames name)

/-- Keeps a context under a name. -/
def keepContext (name : String) (id : ContextId) : Act Unit :=
  modify fun s => { s with contextNames := keep name id s.contextNames }

/-- The first name of a context. -/
def nameOf? (s : Session) (id : ContextId) : Option String :=
  (s.contextNames.find? fun e => e.2 = id).map Prod.fst

/-- The result of a name. -/
def resultNamed (name : Value) : Act CursorId := do ofExcept (named (← get).resultNames name)

/-- Keeps a result under a name. -/
def keepResult (name : String) (id : CursorId) : Act Unit :=
  modify fun s => { s with resultNames := keep name id s.resultNames }

/-- The registry of a name, empty at first. -/
def registryNamed (s : Session) (name : String) : Registry := (named? s.registries name).getD {}

/-- Keeps a registry under a name. -/
def keepRegistry (name : String) (r : Registry) : Act Unit :=
  modify fun s => { s with registries := keep name r s.registries }

end Querysmith.Session
