import Querysmith.Call.Inquiring
import Querysmith.Call.Registering
import Querysmith.Connection.Request
import Querysmith.Database.Schema
import Querysmith.Database.Transaction
import Querysmith.Database.Update
import Querysmith.Session.Naming

/-!
# Commands

Everything that a caller can ask of a session, as data. A transaction and a `with` block take
a list of commands of their own. Contexts, results and registries are referred to by name.
-/

namespace Querysmith

open Session

/-- How a caller refers to the context of a statement: by the name under which it is kept, or
by a value in its place. A text in its place stands for a new context for the server of that
name. -/
inductive ContextRef where
  | named (name : Value)
  | inPlace (v : Value)

/-- Where a command runs: on a server, or on a context of the caller. -/
structure Target where
  server : Value := defaultServer
  context : Option ContextRef := none
  /-- Statements and builders are asked for through the entry points of the server. -/
  chained : Bool := false

/-- How a statement runs. Values and rows may be left out. -/
inductive RunMode where
  | single (values : Option Value)
  /-- Once for every row. -/
  | batch (rows : Option Value)
  /-- In one call, whose values can be among the overrides. -/
  | direct (values : Option Value)
  /-- In one call, and the result is read into a frame. -/
  | frame (values : Option Value)

/-- Something that a caller asks of a session. -/
inductive Command where
  | value (v : Value)
  /-- Raises an error, once the context that it comes after has been found. -/
  | fail (cause : Error) (context : Option ContextRef := none)
  /-- Makes a context and keeps it under `name`. -/
  | makeContext (name : String) (server : Option Value) (link : Option LinkId)
      (withCursor : Bool) (overrides : Entries)
  /-- A question about a context, by name. -/
  | askContext (name : Value) (question : String)
  /-- Runs commands and closes the context afterwards. -/
  | withContext (name : Value) (body : List Command)
  /-- Registers the profile of a server. -/
  | configure (server config : Value)
  | showServer (server : Value)
  /-- The servers with an open transaction. -/
  | openServers
  | query (sql : Value) (values : Option Value) (shape : ReturnShape) (target : Target)
  /-- Runs calls on a builder. -/
  | build (table : Value) (steps : List (Step Terminal)) (target : Target)
  | insertRow (table data server : Value)
  | replaceRow (table data server : Value)
  | updateRows (table data : Value) (calls : List UpdateCall) (target : Target)
  | deleteRows (table conditions server : Value)
  | changeTable (change : TableChange) (target : Target)
  | hasTable (table : Value) (target : Target)
  /-- Begins a transaction and keeps its context under `name`. -/
  | beginTransaction (name : Option String) (target : Target)
  | commitTransaction (server : Value)
  | rollbackTransaction (server : Value)
  /-- Runs commands inside a transaction. -/
  | inTransaction (body : List Command) (target : Target)
  /-- Runs a statement and keeps its result under `name`. -/
  | execute (name : String) (place : ContextRef) (overrides : Entries) (sql : Value)
      (mode : RunMode) (closing : Bool)
  | askResult (name : Value) (question : Call Value)
  /-- A call on a registry of the caller's own, in which contexts go by name. -/
  | askRegistry (name : String) (call : Call Value)

instance : Inhabited Command := ⟨.openServers⟩

namespace Session

/-- What a caller refers to as a context. -/
def refer : ContextRef → Act (Lent ContextId)
  | .named name => do return .handle (← contextNamed name)
  | .inPlace v => return .value v

/-- The context that statements run on. A text is the name of a server, whose profile is
changed by overrides; any other value stands for itself, and no statement runs on it. -/
def contextOf (target : Lent ContextId) (overrides : Entries := []) : Act ContextId := do
  ofExcept (ContextRequest.refuseRepeated "Executor.__init__" "argument" ["self", "context"]
    overrides)
  match target with
  | .handle id => return id
  | .value (.str name) =>
    let request : ContextRequest := { server := some (.str name), overrides }
    addContext (← ofExcept request.context)
  | .value v => addContext { source := .caller (.value v) }

/-- The context that a target gives. -/
def givenContext (target : Target) : Act (Option ContextId) := do
  match target.context with
  | some ref => return some (← contextOf (← refer ref))
  | none => return none

/-- Runs a statement on a target, through the entry points of its server if it is chained. -/
def queryOn (target : Target) (sql : Value) (values : Option Value) (shape : ReturnShape)
    (given : Option ContextId) : Act Reply :=
  if target.chained then ServerChain.query { server := target.server, context := given } sql
    values shape
  else query sql values shape target.server given

/-- A builder for a table on a target. -/
def builderOn (target : Target) (table : Value) (given : Option ContextId) : Builder :=
  if target.chained then ServerChain.table { server := target.server, context := given } table
  else tableOf target.server table given

/-- The entry points of a server do what is done on the server directly. -/
theorem queryOn_eq (target : Target) (sql : Value) (values : Option Value) (shape : ReturnShape) :
    queryOn target sql values shape = query sql values shape target.server := by
  funext given
  rw [queryOn]
  split <;> rfl

theorem builderOn_eq (target : Target) (table : Value) :
    builderOn target table = fun given => tableOf target.server table given := by
  funext given
  rw [builderOn]
  split <;> rfl

/-- A cursor for a context to start with, when one is asked for and there is a connection to
make it from. -/
def firstCursor (withCursor : Bool) (link : Option LinkId) : Act (Option CursorId) := do
  match withCursor, link with
  | true, some link => return some (← link.makeCursor)
  | _, _ => return none

/-- Makes a context and keeps it under a name. -/
def makeContext (name : String) (server : Option Value) (link : Option LinkId)
    (withCursor : Bool) (overrides : Entries) : Act Reply := do
  let cursor ← firstCursor withCursor link
  let request : ContextRequest :=
    { server, connection := link.map .handle, cursor := cursor.map .handle, overrides }
  let id ← addContext (← ofExcept request.context)
  keepContext name id
  return .context id

/-- Answers a question about a context. -/
def askContext (id : ContextId) : ContextQuestion → Act Reply
  | .shown => do return .text ((← get).context id).shown
  | .close => do
    id.close
    return .nothing
  | .server => do return .value ((← get).context id).server
  | .ownsConnection => do return .value (.bool ((← get).context id).ownsConnection)
  | .connection => do
    match ← id.connection with
    | .handle link => return .link link
    | .value v => return .value v
  | .cursor => do
    match ← id.cursor with
    | .handle cursor => return .cursor cursor
    | .value v => return .value v

/-- Answers a question about a result. -/
def askResult (id : CursorId) : ResultQuestion → Act Reply
  | .queryId => do return .value ((← get).cursor id).response.queryId
  | .rowCount => id.rowCount
  | .lastRowId => id.lastRowId
  | .description => do return .value ((← get).cursor id).description
  | .columns => do return .value (.list (((← get).cursor id).columns.map .str))
  | .shown => do return .text ((← get).cursor id).shown
  | .fetchOne => do return .value (← id.fetchOne)
  | .fetchAll => id.allRows
  | .toFrame lowercase => do return .frame (← id.toFrame lowercase.isTrue)

/-- The reply for a context that may be there: the name that it is kept under now. -/
def replyForContext (id : Option ContextId) : Act Reply := do
  match id.bind (nameOf? (← get)) with
  | some name => return .text name
  | none => return .nothing

/-- The arguments of a call on a registry: a server, and contexts by name. -/
def registryArguments : List Value → Act (List RegistryArgument)
  | [] => return []
  | server :: names => do
    let ids ← names.mapM contextNamed
    return .server server :: ids.map .context

/-- Answers a call on a registry. -/
def askRegistry (name : String) (written : Call Value) : Act Reply := do
  let arguments ← registryArguments written.arguments
  let call ← ofExcept (RegistryCall.ofCall { name := written.name, arguments })
  let r := registryNamed (← get) name
  match call with
  | .get server =>
    let server ← ofExcept server.asKey
    replyForContext (r.get? server)
  | .insert server context =>
    let server ← ofExcept server.asKey
    keepRegistry name (r.insert server context)
    replyForContext (r.get? server)
  | .erase server =>
    let (context, others) ← ofExcept (r.take server)
    keepRegistry name others
    replyForContext context
  | .servers => return .value (.list r.servers)

/-- The values of a statement that runs in one call, and the overrides without them. -/
def takeValues (operation : String) (values : Option Value) (overrides : Entries) :
    Except Error (Option Value × Entries) := do
  let given := ["sql", "context"] ++ (values.map fun _ => "bindings").toList
  ContextRequest.refuseRepeated operation "argument" given overrides
  let named := overrides.get? (.str "bindings")
  pure (values <|> named, overrides.erase (.str "bindings"))

/-- Settles what a mode takes from the overrides. -/
def settle (overrides : Entries) : RunMode → Except Error (RunMode × Entries)
  | .direct values => do
    let (values, rest) ← takeValues "execute_sql" values overrides
    pure (.direct values, rest)
  | .frame values => do
    let (values, rest) ← takeValues "query" values overrides
    pure (.frame values, rest)
  | mode => .ok (mode, overrides)

/-- Runs a statement on a context and keeps the result. -/
def runKept (context : ContextId) (name : String) (sql : Value) (values : Option Value) :
    Act Reply := do
  let cursor ← context.run sql (values.filter fun v => !v.isNull)
  keepResult name cursor
  return .result cursor

/-- Runs a statement on a context. Only a frame is read; any other result is kept. -/
def runOn (context : ContextId) (name : String) (sql : Value) : RunMode → Act Reply
  | .single values => runKept context name sql values
  | .direct values => runKept context name sql values
  | .batch none =>
    throw (.badCall "Executor.run_many() missing 1 required positional argument: 'rows'")
  | .batch (some rows) => do
    let cursor ← context.runMany sql rows
    keepResult name cursor
    return .result cursor
  | .frame values => do
    let cursor ← context.run sql (values.filter fun v => !v.isNull)
    return .frame (← cursor.toFrame)

/-- Closes the context that a statement ran on; a value that stands for itself cannot be
closed. -/
def closeTarget (target : Lent ContextId) (context : ContextId) : Act Unit :=
  match target with
  | .handle _ => context.close
  | .value (.str _) => context.close
  | .value v => throw (.noOperation v.kindName "close")

/-- Runs a statement, and closes the context afterwards when that is asked for. -/
def executeAt (name : String) (place : ContextRef) (overrides : Entries) (sql : Value)
    (mode : RunMode) (closing : Bool) : Act Reply := do
  let target ← refer place
  let (mode, overrides) ← ofExcept (settle overrides mode)
  let context ← contextOf target overrides
  if closing then
    try runOn context name sql mode finally closeTarget target context
  else runOn context name sql mode

/-- Begins a transaction and keeps its context under a name. -/
def beginNamed (name : Option String) (server : Value) (given : Option ContextId) :
    Act Reply := do
  let context ← Session.beginTransaction server given
  match name with
  | some name => keepContext name context
  | none => pure ()
  return .context context

end Session

mutual
/-- Runs a command. -/
def Command.run : Command → Act Reply
  | .value v => return .value v
  | .fail cause context => do
    if let some ref := context then
      let _ ← refer ref
    throw cause
  | .makeContext name server link withCursor overrides =>
    Session.makeContext name server link withCursor overrides
  | .askContext name question => do
    let context ← contextNamed name
    Session.askContext context (← ofExcept (ContextQuestion.ofName question))
  | .withContext name body => do
    let context ← contextNamed name
    try Command.runAll body finally context.close
  | .configure server config => do
    onProfiles (ProfileBook.configure server config)
    return .nothing
  | .showServer server => return .text (ServerChain.mk server none).shown
  | .openServers => do return .value (.list (← get).transactions.servers)
  | .query sql values shape target => do
    queryOn target sql values shape (← givenContext target)
  | .build table steps target => do
    let context ← givenContext target
    (builderOn target table context).runAll steps
  | .insertRow table data server => Session.insertRow table data server
  | .replaceRow table data server => Session.replaceRow table data server
  | .updateRows table data calls target => do
    Session.updateRows table data calls target.server (← givenContext target)
  | .deleteRows table conditions server => Session.deleteRows table conditions server
  | .changeTable change target => do
    Session.changeTable change target.server (← givenContext target)
  | .hasTable table target => do
    Session.hasTable table target.server (← givenContext target)
  | .beginTransaction name target => do
    Session.beginNamed name target.server (← givenContext target)
  | .commitTransaction server => do
    Session.commitTransaction server
    return .nothing
  | .rollbackTransaction server => do
    Session.rollbackTransaction server
    return .nothing
  | .inTransaction body target => do
    let context ← givenContext target
    Session.inTransaction target.server context (Command.runAll body)
  | .execute name place overrides sql mode closing =>
    executeAt name place overrides sql mode closing
  | .askResult name question => do
    let cursor ← resultNamed name
    Session.askResult cursor (← ofExcept (ResultQuestion.ofCall question))
  | .askRegistry name call => Session.askRegistry name call

/-- Runs commands in order up to the first that fails; gives the reply of the last one. -/
def Command.runAll : List Command → Act Reply
  | [] => return .nothing
  | [command] => command.run
  | command :: rest => do
    let _ ← command.run
    Command.runAll rest
end

end Querysmith
