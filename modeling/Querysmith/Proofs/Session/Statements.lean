import Querysmith.Database.Schema
import Querysmith.Database.Update
import Querysmith.Proofs.Session.Access
import Querysmith.Proofs.Session.Building
import Querysmith.Proofs.Session.Keys
import Querysmith.Proofs.Statement.Opening

/-!
# What statements on a server keep

Every way to run a statement on a server comes down to one action on one context, which is chosen
in the same way for all of them. So it is enough to know that a property is kept when any such
action is run on a server. The property may depend on the texts that are sent; those that are not
in the caller's own words begin and end no transaction.

## Key results

- `onServer_cases`: the context on which an action on a server is run
- `Serves.keeps_terminal`, `Serves.keeps_runAll`: calls on a builder
- `Serves.keeps_query` and the like: statements of the facade
-/

namespace Querysmith

open Session EStateM

variable {α : Type} {J : Session → Prop} {given : Option ContextId}

/-! ## The context at hand -/

/-- The context that the registry has for a server; nothing changes. -/
theorem openTransaction?_outcome (server : Value) (s : Session) :
    (openTransaction? server s).Meets
      (fun context t => context = s.transactions.get? server ∧ t = s) (fun t => t = s) := by
  rw [openTransaction?]
  cases hkey : server.asKey with
  | error e => exact rfl
  | ok key =>
    obtain ⟨_, rfl⟩ := Value.asKey_eq_ok_iff.1 hkey
    exact ⟨rfl, rfl⟩

/-- For a server that has a key, the registry is looked up without fail. -/
theorem openTransaction?_eq {server : Value} (h : server.key? ≠ none) (s : Session) :
    openTransaction? server s = .ok (s.transactions.get? server) s := by
  rw [openTransaction?, Value.asKey_of_key? h]
  rfl

/-- A context for a server is added behind the others, or none is. -/
theorem addServerContext_outcome (server : Value) (overrides : Entries) (s : Session) :
    (addServerContext server overrides s).Meets
      (fun id t => id = ⟨s.contexts.length⟩ ∧
        t = { s with contexts := s.contexts ++ [{ source := .server server overrides }] })
      (fun t => t = s) := by
  rw [addServerContext]
  cases server with
  | null => exact rfl
  | _ => exact ⟨rfl, rfl⟩

/-- The session with a context for the server behind the others. -/
def Session.withServer (s : Session) (server : Value) : Session :=
  { s with contexts := s.contexts ++ [{ source := .server server [] }] }

/-- The context that is added is one for the server. -/
theorem context_withServer (s : Session) (server : Value) :
    (s.withServer server).context ⟨s.contexts.length⟩ = { source := .server server [] } := by
  simp [context, withServer]

/-- The contexts before it stay. -/
theorem context_withServer_of_lt {s : Session} {id : ContextId}
    (hid : id.index < s.contexts.length) (server : Value) :
    (s.withServer server).context id = s.context id := by
  simp [context, withServer, List.getElem?_append_left hid, hid]

/-- A context is added for every server that is named. -/
theorem addServerContext_eq {server : Value} (hserver : server ≠ .null) (s : Session) :
    addServerContext server [] s = .ok ⟨s.contexts.length⟩ (s.withServer server) := by
  cases server with
  | null => exact absurd rfl hserver
  | _ => rfl

/-- An action on a server is run on the context that is given or on record, or else on a new one,
which is closed after it. When no context is given, it may be that the server cannot be looked up,
or that there is none. -/
theorem onServer_cases (server : Value) (given : Option ContextId) (act : ContextId → Act α)
    (s : Session) :
    (∃ c, given.or (s.transactions.get? server) = some c ∧
      onServer server given act s = act c s) ∨
    (given.or (s.transactions.get? server) = none ∧
      onServer server given act s =
        tryFinally (act ⟨s.contexts.length⟩) (ContextId.close ⟨s.contexts.length⟩)
          (s.withServer server)) ∨
    given = none ∧ (server.key? = none ∨ server = .null) ∧
      ∃ e, onServer server given act s = .error e s := by
  cases given with
  | some c => exact .inl ⟨c, rfl, rfl⟩
  | none =>
    have hopen := openTransaction?_outcome server s
    cases hresult : openTransaction? server s with
    | error e t =>
      rw [hresult] at hopen
      -- a server that cannot be a key is not looked up
      obtain rfl : t = s := hopen
      have hkey : server.key? = none := Classical.byContradiction fun hkey =>
        nomatch (openTransaction?_eq hkey t).symm.trans hresult
      exact .inr (.inr ⟨rfl, .inl hkey, e, bind_of_error hresult _⟩)
    | ok context t =>
      rw [hresult] at hopen
      obtain ⟨rfl, rfl⟩ := hopen
      -- the context of the open transaction, or a new one for the server
      cases hget : t.transactions.get? server with
      | some c =>
        rw [hget] at hresult
        exact .inl ⟨c, rfl, bind_of_ok hresult _⟩
      | none =>
        rw [hget] at hresult
        by_cases hserver : server = .null
        -- a context needs a server
        · subst hserver
          exact .inr (.inr ⟨rfl, .inr rfl, _, bind_of_ok hresult _⟩)
        · exact .inr (.inl ⟨rfl, (bind_of_ok hresult _).trans
            (bind_of_ok (addServerContext_eq hserver t) _)⟩)

/-! ## Statements -/

/-- Statements with these texts on the context keep the property, and so does reading results. -/
structure Hosts (J : Session → Prop) (texts : Value → Prop) (c : ContextId) : Prop where
  calm : ∀ {s t}, Calm s t → J s → J t
  run : ∀ {sql} bindings, texts sql → Keeps J (c.run sql bindings)

/-- A context hosts what survives its access. -/
theorem Rides.hosts {free : ContextId → Prop} (h : Rides J free) {c : ContextId} (hc : free c)
    (texts : Value → Prop) : Hosts J texts c where
  calm := fun ht => h.quiet ht.toQuiet
  run := fun bindings _ => h.keeps_run hc _ bindings

theorem Hosts.keeps_calm {texts : Value → Prop} {c : ContextId} (h : Hosts J texts c) {x : Act α}
    (hx : IsCalm x) : Keeps J x := hx.keeps h.calm

/-- On a context, the action does nothing but run statements with these texts and read their
results. -/
def IsStatement (texts : Value → Prop) (act : ContextId → Act α) : Prop :=
  ∀ {J : Session → Prop} {c}, Hosts J texts c → Keeps J (act c)

/-- Statements on servers keep the property, as long as their texts are allowed there. -/
structure Serves (J : Session → Prop) (given : Option ContextId) (texts : Value → Value → Prop) :
    Prop where
  plain : ∀ {server sql}, sql.IsPlain → texts server sql
  keeps : ∀ {α : Type} (server : Value) {act : ContextId → Act α},
    IsStatement (texts server) act → Keeps J (onServer server given act)

/-- Statements on a context that is given. -/
theorem serves_of_hosts {texts : Value → Value → Prop} {c : ContextId}
    (h : ∀ server, Hosts J (texts server) c)
    (hplain : ∀ {server sql : Value}, sql.IsPlain → texts server sql) :
    Serves J (some c) texts where
  plain := hplain
  keeps := fun server _ hact => hact (h server)

/-! ## Builders -/

/-- Reading the result of a terminal call is calm. -/
theorem isCalm_terminalRead (cursor : CursorId) (t : Terminal) : IsCalm (t.read cursor) := by
  cases t with
  | get => exact isCalm_allRows cursor
  | toFrame lowercase => exact (isCalm_toFrame cursor _).bind fun _ => isCalm_pure _
  | insert rows => exact isCalm_lastRowId cursor
  | replace rows => exact isCalm_lastRowId cursor
  | update data => exact isCalm_rowCount cursor
  | delete => exact isCalm_rowCount cursor
  | _ => exact (isCalm_fetchOne cursor).bind fun _ => isCalm_pure _

/-- What is known of a value goes on with it. -/
theorem keeps_ofExcept_bind {β : Type} {x : Except Error α} {f : α → Act β}
    (hf : ∀ a, x = .ok a → Keeps J (f a)) : Keeps J (ofExcept x >>= f) := by
  cases x with
  | error e => exact gives_throw e
  | ok a => exact hf a rfl

/-- A terminal call is a statement of a text that it compiles. -/
theorem isStatement_terminal {texts : Value → Prop}
    (hplain : ∀ {sql : Value}, sql.IsPlain → texts sql) (t : Terminal) (b : Builder) :
    IsStatement texts (fun context => do
      let statement ← ofExcept (t.statement b)
      let cursor ← context.runStatement statement
      t.read cursor) :=
  fun h => keeps_ofExcept_bind fun _ hf =>
    (h.run _ (hplain (Terminal.isPlain_statement hf))).bind fun cursor =>
      h.keeps_calm (isCalm_terminalRead cursor t)

namespace Serves

variable {texts : Value → Value → Prop}

/-- A terminal call of a builder. -/
theorem keeps_terminal (h : Serves J given texts) (t : Terminal) {b : Builder}
    (hb : b.context = given) :
    Keeps J (t.run b) := by
  rw [Terminal.run, hb]
  exact (h.keeps b.server (isStatement_terminal h.plain t b)).bind fun _ => keeps_ofExcept _

/-- Calls on a builder, with all that they run on the way. -/
theorem keeps_runAll (h : Serves J given texts) {b : Builder} (hb : b.context = given)
    (steps : List (Step Terminal)) : Keeps J (b.runAll steps) := by
  intro s hs
  have hrun := Step.keeps_runAll (fun t _ hb => h.keeps_terminal t hb) steps ⟨b, s⟩ ⟨hs, hb⟩
  rw [Builder.runAll]
  -- the builder and the session are taken apart again, on success as on failure
  split
  · rename_i t ht
    rw [ht] at hrun
    exact ⟨hrun.1.1, trivial⟩
  · rename_i t ht
    rw [ht] at hrun
    exact hrun.1

end Serves

/-! ## Statements of the facade -/

/-- Reading a result in any shape is calm. -/
theorem isCalm_shapeRead (cursor : CursorId) (shape : ReturnShape) :
    IsCalm (shape.read cursor) := by
  cases shape with
  | rows => exact isCalm_allRows cursor
  | first => exact (isCalm_fetchOne cursor).bind fun _ => isCalm_pure _
  | count => exact isCalm_rowCount cursor
  | frame => exact (isCalm_toFrame cursor _).bind fun _ => isCalm_pure _

namespace Serves

variable {texts : Value → Value → Prop}

/-- A query keeps what its server does. -/
theorem keeps_query (h : Serves J given texts) {sql server : Value} (hsql : texts server sql)
    (values : Option Value) (shape : ReturnShape) :
    Keeps J (query sql values shape server given) :=
  h.keeps server fun hhosts => (hhosts.run values hsql).bind fun cursor =>
    hhosts.keeps_calm (isCalm_shapeRead cursor shape)

/-- Inserting a row keeps what its server does. -/
theorem keeps_insertRow (h : Serves J none texts) (table data server : Value) :
    Keeps J (insertRow table data server) := h.keeps_terminal _ rfl

/-- Replacing a row keeps what its server does. -/
theorem keeps_replaceRow (h : Serves J none texts) (table data server : Value) :
    Keeps J (replaceRow table data server) := h.keeps_terminal _ rfl

/-- Deleting rows keeps what their server does. -/
theorem keeps_deleteRows (h : Serves J none texts) (table conditions server : Value) :
    Keeps J (deleteRows table conditions server) := by
  rw [deleteRows]
  exact (keeps_ofExcept _).bind fun _ => h.keeps_terminal _ rfl

/-- Changing rows keeps what their server does. -/
theorem keeps_updateRows (h : Serves J given texts) (table data : Value) (calls : List UpdateCall)
    (server : Value) : Keeps J (updateRows table data calls server given) := by
  rw [updateRows]
  exact (keeps_ofExcept _).bind fun _ => h.keeps_runAll rfl _

/-- Changing a table keeps what its server does. -/
theorem keeps_changeTable (h : Serves J given texts) (change : TableChange) (server : Value) :
    Keeps J (changeTable change server given) := by
  rw [changeTable]
  refine keeps_ofExcept_bind fun sql hsql => ?_
  split
  · exact keeps_pure _
  · rename_i hne
    exact h.keeps_query (h.plain (TableChange.isPlain_sql hsql hne)) _ _

/-- Asking for a table keeps what its server does. -/
theorem keeps_hasTable (h : Serves J given texts) (table server : Value) :
    Keeps J (hasTable table server given) := by
  rw [hasTable]
  refine (keeps_ofExcept _).bind fun name => h.keeps server fun hhosts => ?_
  have hopening : IsOpening "SHOW TABLES LIKE " := by decide
  have hsql : texts server (.str ("SHOW TABLES LIKE " ++ name)) :=
    h.plain (isPlain_of_opening hopening name)
  exact (hhosts.run none hsql).bind fun cursor =>
    (hhosts.keeps_calm (isCalm_fetchAll cursor)).bind fun _ => keeps_pure _

end Serves

end Querysmith
