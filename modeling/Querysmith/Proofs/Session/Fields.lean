import Mathlib.Data.List.Forall2
import Querysmith.Connection.Fields
import Querysmith.Proofs.Session.Apart
import Querysmith.Proofs.Session.Callback

/-!
# The fields of contexts

A session keeps a context as a `Context`, which says once what is open. The object behind it says it
in the fields of two objects. Here it is shown that nobody can tell: whatever a caller does with
contexts, and whatever else happens in between, comes to the same with the fields as without them.

The relation between the two is `ContextFields.Represents`. Each method keeps it, and a script of
uses is run on both sides by induction.

## Main definitions

- `ContextFields.Represents`: what the fields of a context stand for
- `Script`: a program that uses contexts and does anything else in between

## Key results

- `ConnectorFields.connect_ofConnector`, `ConnectorFields.close_ofConnector`: connectors
- `ContextFields.Represents.coherent`: the invariant over a context and its connector
- `Script.run_agrees`: scripts come to the same with the fields as without them
- `Script.run_statement`: a statement on a context is a script
-/

namespace EStateM

variable {ε σ τ α β : Type}

/-- Two computations came to the same, in states that correspond. -/
def Result.Agree (R : σ → τ → Prop) (r : Result ε σ α) (r' : Result ε τ α) : Prop :=
  r.outcome = r'.outcome ∧ R r.state r'.state

/-- Computations that came to the same have both succeeded or both failed. -/
theorem Result.Agree.cases {R : σ → τ → Prop} {r : Result ε σ α} {r' : Result ε τ α}
    (h : r.Agree R r') :
    (∃ a s t, r = .ok a s ∧ r' = .ok a t ∧ R s t) ∨
      ∃ e s t, r = .error e s ∧ r' = .error e t ∧ R s t := by
  obtain ⟨houtcome, hstate⟩ := h
  -- results of different kinds have different outcomes
  cases r with
  | ok a s =>
    cases r' with
    | ok b t =>
      cases houtcome
      exact .inl ⟨a, s, t, rfl, rfl, hstate⟩
    | error e t => cases houtcome
  | error e s =>
    cases r' with
    | ok b t => cases houtcome
    | error e' t =>
      cases houtcome
      exact .inr ⟨e, s, t, rfl, rfl, hstate⟩

/-- What came of a computation may be anything, as long as it agrees. -/
theorem Result.Agree.carryOn {R S : σ → τ → Prop} {x : EStateM ε σ α} {y : EStateM ε τ α}
    {f : Except ε α → EStateM ε σ β} {g : Except ε α → EStateM ε τ β} {s : σ} {t : τ}
    (h : (x s).Agree R (y t)) (hnext : ∀ r u v, R u v → (f r u).Agree S (g r v)) :
    (carryOn x f s).Agree S (carryOn y g t) := by
  unfold EStateM.carryOn
  rw [h.1]
  exact hnext _ _ _ h.2

end EStateM

namespace Querysmith

open EStateM Method Session

variable {α : Type}

/-! ## Connectors -/

namespace ConnectorFields

/-- The fields of a connector. -/
def ofConnector (c : Connector) : ConnectorFields where
  plan := { c with opened := none }
  connection := c.opened.map OpenLink.link
  cursor := c.opened.map OpenLink.cursor

/-- A connector with its connection. -/
def opened (plan : Connector) (o : OpenLink) : ConnectorFields where
  plan
  connection := some o.link
  cursor := some o.cursor

/-- A connector without a connection opens one, or is left as it is. -/
theorem openLink_of_closed (plan : Connector) (w : Session) :
    openLink ⟨{ plan }, w⟩ = match plan.openLink w with
      | .ok o t => .ok () ⟨opened plan o, t⟩
      | .error e t => .error e ⟨{ plan }, t⟩ := by
  unfold openLink Connector.openLink
  rw [get_bind]
  dsimp only
  cases hnamed : Connector.areNamed plan.connectParameters with
  | false => rfl
  | true =>
    -- connecting fails or not, and the cursor is made on what it gives
    cases hlink : LinkId.connect plan.connectParameters w with
    | error e t =>
      -- what the session does is done outside of the connector's fields
      have houtside : outside (LinkId.connect plan.connectParameters)
          (⟨{ plan }, w⟩ : Held ConnectorFields) = .error e ⟨{ plan }, t⟩ := by
        rw [outside, hlink]
      simp only [Bool.not_true, Bool.false_eq_true, ↓reduceIte, bind_of_error houtside,
        bind_of_error hlink]
    | ok link t =>
      have houtside : outside (LinkId.connect plan.connectParameters)
          (⟨{ plan }, w⟩ : Held ConnectorFields) = .ok link ⟨{ plan }, t⟩ := by
        rw [outside, hlink]
      simp only [Bool.not_true, Bool.false_eq_true, ↓reduceIte, bind_of_ok houtside,
        bind_of_ok hlink]
      rfl

/-- Connecting without a connection is opening one. -/
theorem connect_of_closed (plan : Connector) (w : Session) :
    connect ⟨{ plan }, w⟩ = match plan.openLink w with
      | .ok o t => .ok (some o.link, some o.cursor) ⟨opened plan o, t⟩
      | .error e t => .error e ⟨{ plan }, t⟩ := by
  have hopen := openLink_of_closed plan w
  unfold connect
  rw [get_bind]
  dsimp only
  -- nothing is open, so that connecting is opening
  cases hlink : plan.openLink w with
  | error e t =>
    rw [hlink] at hopen
    exact bind_of_error hopen _
  | ok o t =>
    rw [hlink] at hopen
    exact bind_of_ok hopen _

/-- Connecting does the same with the fields as without them. -/
theorem connect_ofConnector (c : Connector) (w : Session) :
    connect ⟨ofConnector c, w⟩ = match c.connect w with
      | .ok (c', o) t => .ok (some o.link, some o.cursor) ⟨ofConnector c', t⟩
      | .error e t => .error e ⟨ofConnector c, t⟩ := by
  obtain ⟨server, settings, credential, opened⟩ := c
  cases opened with
  -- an open connection is given back as it is
  | some o => rfl
  | none =>
    refine (connect_of_closed ⟨server, settings, credential, none⟩ w).trans ?_
    unfold Connector.connect
    dsimp only
    cases hlink : Connector.openLink ⟨server, settings, credential, none⟩ w with
    | error e t =>
      rw [bind_of_error hlink]
      rfl
    | ok o t =>
      rw [bind_of_ok hlink]
      rfl

/-- Closing does the same with the fields as without them. -/
theorem close_ofConnector (c : Connector) (w : Session) :
    close ⟨ofConnector c, w⟩ = match c.close w with
      | .ok c' t => .ok () ⟨ofConnector c', t⟩
      | .error e t => .error e ⟨ofConnector c, t⟩ := by
  obtain ⟨server, settings, credential, opened⟩ := c
  cases opened <;> rfl

end ConnectorFields

/-! ## Contexts -/

namespace ContextFields

/-- What the fields of a context stand for. -/
inductive Represents : ContextFields → Context → Prop where
  /-- The connection is the caller's, and there is no connector. -/
  | lent (connection : Lent LinkId) (cursor : Option (Lent CursorId)) (overrides : Entries) :
      Represents { server := .null, connection := some connection, cursor, overrides }
        { source := .caller connection, cursor }
  /-- Nothing is open: not yet, no longer, or because connecting has failed. A cursor is there only
  as long as nothing was ever opened. -/
  | closed {server : Value} (overrides : Entries) {cursor : Option (Lent CursorId)}
      {connector : Option ConnectorFields} {ownsConnector : Bool} (hserver : server.isNull = false)
      (hconnector : ∀ k ∈ connector, k.connection = none ∧ k.cursor = none)
      (hcursor : ownsConnector = true → cursor = none) :
      Represents { server, cursor, overrides, connector, ownsConnector }
        { source := .server server overrides, cursor }
  /-- The connector has a connection, of which the context has a copy. The cursor that the connector
  has made need not be the one that the context uses. -/
  | connected {server : Value} (overrides : Entries) (cursor : Option (Lent CursorId))
      (plan : Connector) (link : LinkId) (first : CursorId) (hserver : server.isNull = false) :
      Represents
        { server, connection := some (.handle link), cursor, overrides
          connector := some { plan, connection := some link, cursor := some first }
          ownsConnector := true }
        { source := .server server overrides, opened := some ⟨link, first⟩, cursor }

/-- The invariant over a context and its connector. -/
structure Coherent (c : ContextFields) : Prop where
  /-- A caller's connection is there, and no connector. -/
  lent : c.server.isNull = true → c.connection.isSome ∧ c.connector = none
  /-- The connection of a server is a copy of the connector's. -/
  copied : c.server.isNull = false →
    c.connection = (c.connector.bind ConnectorFields.connection).map .handle
  /-- A connector has a cursor along with its connection. -/
  paired : ∀ k ∈ c.connector, k.cursor.isSome = k.connection.isSome
  /-- The connector that has a connection is the context's own. -/
  owned : ∀ k ∈ c.connector, k.connection.isSome → c.ownsConnector = true
  /-- With the connection the cursor is gone. -/
  released : c.ownsConnector = true → c.connection = none → c.cursor = none

/-- Fields that stand for a context satisfy the invariant. -/
theorem Represents.coherent {f : ContextFields} {c : Context} (h : f.Represents c) :
    f.Coherent := by
  -- each of the three forms has its fields in order
  cases h with
  | lent connection cursor overrides =>
    exact ⟨fun _ => ⟨rfl, rfl⟩, nofun, nofun, nofun, nofun⟩
  | closed overrides hserver hconnector hcursor =>
    refine ⟨fun h => ?_, fun _ => ?_, fun k hk => ?_, fun k hk h => ?_, fun h _ => hcursor h⟩
    · rw [hserver] at h
      cases h
    -- a connector without a connection has none to copy
    · rename_i connector _ _
      cases connector with
      | none => rfl
      | some k => exact ((congrArg (Option.map Lent.handle)) (hconnector k rfl).1).symm
    · rw [(hconnector k hk).1, (hconnector k hk).2]
      rfl
    · rw [(hconnector k hk).1] at h
      cases h
  | connected overrides cursor plan link first hserver =>
    refine ⟨fun h => ?_, fun _ => rfl, fun k hk => ?_, fun _ _ _ => rfl, fun _ h => ?_⟩
    · rw [hserver] at h
      cases h
    · cases hk
      rfl
    · cases h

/-- A context is made with fields that stand for it, or is refused on both sides. -/
theorem make_eq (server : Value) (connection : Option (Lent LinkId))
    (cursor : Option (Lent CursorId)) (overrides : Entries) :
    (∃ e, make server connection cursor overrides = .error e ∧
      ContextSource.choose server connection overrides = .error e) ∨
    ∃ f source, make server connection cursor overrides = .ok f ∧
      ContextSource.choose server connection overrides = .ok source ∧
      f.Represents { source, cursor } := by
  -- without a server there must be a connection, with one there must be none
  by_cases hserver : server.isNull = true
  · obtain rfl : server = .null := by cases server <;> first | rfl | cases hserver
    cases connection with
    | none => exact .inl ⟨_, rfl, rfl⟩
    -- a request with both is refused
    | some connection => exact .inr ⟨_, _, rfl, rfl, .lent connection cursor overrides⟩
  · have hnull : server.isNull = false := by simpa using hserver
    have hmake : ∀ connection, make server connection cursor overrides =
        if connection.isSome then .error .twoConnectionSources
        else .ok { server, connection, cursor, overrides } := by
      intro connection
      simp [make, hnull]
    rw [hmake]
    cases connection with
    | none =>
      refine .inr ⟨_, .server server overrides, rfl, ?_, .closed overrides hnull nofun nofun⟩
      cases server <;> first | rfl | cases hnull
    | some connection =>
      refine .inl ⟨_, rfl, ?_⟩
      cases server <;> first | rfl | cases hnull

/-- What has become of the fields of one context stands for what has become of the context, and
nothing else is different. -/
def After (id : ContextId) (cs : List Context) (h : Held ContextFields) (s : Session) : Prop :=
  ∃ c, h.object.Represents c ∧ s = { h.session with contexts := cs.set id.index c }

/-- A context is where it is. -/
theorem set_context (s : Session) (id : ContextId) :
    s.contexts.set id.index (s.context id) = s.contexts := by
  by_cases h : id.index < s.contexts.length
  · simp [Session.context, h]
  · exact List.set_eq_of_length_le (Nat.le_of_not_lt h)

/-- Before anything was assigned, the fields stand for the context as it is. -/
theorem after_self {id : ContextId} {s : Session} {f : ContextFields}
    (hf : f.Represents (s.context id)) (w : Session) :
    After id s.contexts ⟨f, w⟩ { w with contexts := s.contexts } :=
  ⟨_, hf, by rw [set_context]⟩

/-- The fields stand for the context in a session that differs from theirs in the contexts alone. -/
theorem after_same {id : ContextId} {s w : Session} {f : ContextFields}
    (hf : f.Represents (s.context id)) (hs : s = { w with contexts := s.contexts }) :
    After id s.contexts ⟨f, w⟩ s := by
  have hself := after_self hf w
  rwa [← hs] at hself

/-- The fields once the connector has connected. -/
def connected (f : ContextFields) (plan : Connector) (o : OpenLink) : ContextFields :=
  { f with
    connection := some (.handle o.link)
    cursor := some (.handle o.cursor)
    connector := some (.opened plan o)
    ownsConnector := true }

/-- What connecting assigns: nothing when no connector can be made, and only the connector when that
one fails. -/
theorem connect_eq (f : ContextFields) (w : Session) :
    connect ⟨f, w⟩ = match Connector.ofServer f.server f.overrides w with
      | .error e t => .error e ⟨f, t⟩
      | .ok plan t => match plan.openLink t with
        | .error e u => .error e ⟨f.withConnector { plan }, u⟩
        | .ok o u => .ok () ⟨f.connected plan o, u⟩ := by
  unfold connect
  rw [get_bind]
  dsimp only
  cases hplan : Connector.ofServer f.server f.overrides w with
  | error e t =>
    -- the connector is made outside of the fields, which stay as they were until it is
    have hmade : outside (Connector.ofServer f.server f.overrides)
        (⟨f, w⟩ : Held ContextFields) = .error e ⟨f, t⟩ := by
      rw [outside, hplan]
    exact bind_of_error hmade _
  | ok plan t =>
    have hmade : outside (Connector.ofServer f.server f.overrides)
        (⟨f, w⟩ : Held ContextFields) = .ok plan ⟨f, t⟩ := by
      rw [outside, hplan]
    have hconnect := ConnectorFields.connect_of_closed plan t
    rw [bind_of_ok hmade]
    dsimp only
    -- the connector is stored whatever comes of connecting it
    have hpart : onPart (fun _ => { plan }) withConnector ConnectorFields.connect ⟨f, t⟩ =
        match plan.openLink t with
          | .ok o u => .ok (some o.link, some o.cursor) ⟨f.withConnector (.opened plan o), u⟩
          | .error e u => .error e ⟨f.withConnector { plan }, u⟩ := by
      rw [onPart, hconnect]
      cases plan.openLink t <;> rfl
    cases hlink : plan.openLink t with
    | error e u =>
      rw [hlink] at hpart
      exact bind_of_error hpart _
    | ok o u =>
      rw [hlink] at hpart
      rw [bind_of_ok hpart]
      rfl

/-- Reading the connection of a context that has none is connecting. -/
theorem readConnection_of_none {f : ContextFields} (hf : f.connection = none) (w : Session) :
    readConnection ⟨f, w⟩ = match connect ⟨f, w⟩ with
      | .ok _ h => .ok (h.object.connection.getD (.value .null)) h
      | .error e h => .error e h := by
  unfold readConnection
  rw [get_bind]
  simp only [hf, Option.isNone_none, ↓reduceIte]
  cases hconnect : connect ⟨f, w⟩ with
  | ok _ h => exact bind_of_ok hconnect _
  | error e h => exact bind_of_error hconnect _

/-- Reading the connection comes to the same. -/
theorem Represents.readConnection {id : ContextId} {s w : Session} {f : ContextFields}
    (hf : f.Represents (s.context id)) (hs : s = { w with contexts := s.contexts }) :
    (readConnection ⟨f, w⟩).Agree (After id s.contexts) (id.connection s) := by
  have hself : ∀ w', After id s.contexts ⟨f, w'⟩ { w' with contexts := s.contexts } :=
    after_self hf
  have hsame := after_same hf hs
  unfold ContextId.connection
  rw [get_bind]
  have hcontext := set_context s id
  generalize hc : s.context id = c at hf hcontext
  cases hf with
  | lent connection cursor overrides => exact ⟨rfl, hsame⟩
  | connected overrides cursor plan link first hserver => exact ⟨rfl, hsame⟩
  | @closed server overrides cursor connector owns hserver hconnector hcursor =>
    dsimp only
    rw [readConnection_of_none rfl, connect_eq]
    -- neither making the connector nor opening depends on the contexts
    have hmade := isApart_ofServer server overrides w s.contexts
    rw [← hs] at hmade
    dsimp only
    cases hplan : Connector.ofServer server overrides w with
    | error e t =>
      rw [hplan] at hmade
      rw [bind_of_error hmade]
      exact ⟨rfl, hself t⟩
    | ok plan t =>
      rw [hplan] at hmade
      rw [bind_of_ok hmade]
      have hopened := isApart_openLink plan t s.contexts
      dsimp only
      cases hlink : plan.openLink t with
      | error e u =>
        rw [hlink] at hopened
        rw [bind_of_error hopened]
        -- the connector is stored, but there is nothing in it
        refine ⟨rfl, _, .closed overrides hserver (fun k hk => ?_) hcursor, ?_⟩
        · cases hk
          exact ⟨rfl, rfl⟩
        · rw [hcontext]
          rfl
      | ok o u =>
        rw [hlink] at hopened
        rw [bind_of_ok hopened]
        exact ⟨rfl, _, .connected overrides _ plan o.link o.cursor hserver, rfl⟩

/-- Reading a connection that is there changes nothing. -/
theorem readConnection_of_some {f : ContextFields} {connection : Lent LinkId}
    (hf : f.connection = some connection) (w : Session) :
    readConnection ⟨f, w⟩ = .ok connection ⟨f, w⟩ := by
  unfold readConnection
  rw [get_bind]
  simp only [hf]
  show Result.ok (f.connection.getD _) _ = _
  rw [hf]
  rfl

/-- Where a connection was read there is one. -/
theorem isSome_of_readConnection {f : ContextFields} {w : Session} {link : Lent LinkId}
    {h : Held ContextFields} (hread : readConnection ⟨f, w⟩ = .ok link h) :
    h.object.connection.isSome = true := by
  cases hf : f.connection with
  | some connection =>
    cases (readConnection_of_some hf w).symm.trans hread
    exact hf ▸ rfl
  | none =>
    -- the connector has opened it, and the context keeps a copy
    rw [readConnection_of_none hf, connect_eq] at hread
    split at hread
    · rename_i hconnect
      split at hconnect
      · cases hconnect
      · split at hconnect
        · cases hconnect
        · cases hconnect
          cases hread
          rfl
    · cases hread

/-- The cursor is the one of the context. -/
theorem Represents.cursor_eq {f : ContextFields} {c : Context} (h : f.Represents c) :
    f.cursor = c.cursor := by
  cases h <;> rfl

/-- A context with a connection may have any cursor. -/
theorem Represents.withCursor {f : ContextFields} {c : Context} (h : f.Represents c)
    (hconnection : f.connection.isSome = true) (cursor : Option (Lent CursorId)) :
    Represents { f with cursor } { c with cursor } := by
  cases h with
  | lent connection _ overrides => exact .lent connection cursor overrides
  | closed => cases hconnection
  | connected overrides _ plan link first hserver =>
    exact .connected overrides cursor plan link first hserver

/-- Changing a context that was put in its place puts the changed one there. -/
theorem set_modify (cs : List Context) (i : Nat) (c d : Context) (g : Context → Context) :
    (cs.set i c).set i (g ((cs.set i c)[i]?.getD d)) = cs.set i (g c) := by
  rw [List.set_set]
  by_cases h : i < cs.length
  · simp [h]
  · have hle := Nat.le_of_not_lt h
    rw [List.set_eq_of_length_le hle, List.set_eq_of_length_le hle]

/-- Making a cursor reads the connection, asks it for a cursor and assigns that one. -/
theorem makeCursor_eq (f : ContextFields) (w : Session) :
    makeCursor ⟨f, w⟩ = match readConnection ⟨f, w⟩ with
      | .error e h => .error e h
      | .ok (.value v) h => .error (.noOperation v.kindName "cursor") h
      | .ok (.handle link) h => match link.makeCursor h.session with
        | .error e u => .error e ⟨h.object, u⟩
        | .ok cursor u => .ok () ⟨{ h.object with cursor := some (.handle cursor) }, u⟩ := by
  unfold makeCursor
  cases hread : readConnection ⟨f, w⟩ with
  | error e h => exact bind_of_error hread _
  | ok lent h =>
    rw [bind_of_ok hread]
    cases lent with
    | value v => rfl
    | handle link =>
      have hhandle : Lent.orRefuse "cursor" (.handle link) = .ok link := rfl
      rw [bind_of_ok (ofExcept_of_ok hhandle _)]
      rfl

/-- Reading a cursor that is there changes nothing. -/
theorem readCursor_of_some {f : ContextFields} {cursor : Lent CursorId}
    (hf : f.cursor = some cursor) (w : Session) : readCursor ⟨f, w⟩ = .ok cursor ⟨f, w⟩ := by
  unfold readCursor
  rw [get_bind]
  simp only [hf]
  show Result.ok (f.cursor.getD _) _ = _
  rw [hf]
  rfl

/-- Reading the cursor of a context that has none is making one. -/
theorem readCursor_of_none {f : ContextFields} (hf : f.cursor = none) (w : Session) :
    readCursor ⟨f, w⟩ = match makeCursor ⟨f, w⟩ with
      | .ok _ h => .ok (h.object.cursor.getD (.value .null)) h
      | .error e h => .error e h := by
  unfold readCursor
  rw [get_bind]
  simp only [hf, Option.isNone_none, ↓reduceIte]
  cases hmake : makeCursor ⟨f, w⟩ with
  | ok _ h => exact bind_of_ok hmake _
  | error e h => exact bind_of_error hmake _

/-- Reading the cursor comes to the same. -/
theorem Represents.readCursor {id : ContextId} {s w : Session} {f : ContextFields}
    (hf : f.Represents (s.context id)) (hs : s = { w with contexts := s.contexts }) :
    (readCursor ⟨f, w⟩).Agree (After id s.contexts) (id.cursor s) := by
  unfold ContextId.cursor
  rw [get_bind, ← hf.cursor_eq]
  cases hcursor : f.cursor with
  | some cursor =>
    -- a cursor that is there is given as it is
    rw [readCursor_of_some hcursor]
    exact ⟨rfl, after_same hf hs⟩
  | none =>
    rw [readCursor_of_none hcursor, makeCursor_eq]
    dsimp only
    -- first the connection is read, and both sides agree on it
    obtain ⟨lent, h, t, hread, hmodel, hafter⟩ | ⟨e, h, t, hread, hmodel, hafter⟩ :=
      (hf.readConnection hs).cases
    · have hconnection := isSome_of_readConnection hread
      obtain ⟨c, hc, rfl⟩ := hafter
      rw [bind_of_ok hmodel, hread]
      cases lent with
      | value v => exact ⟨rfl, c, hc, rfl⟩
      | handle link =>
        have hapart := isApart_makeCursor link h.session (s.contexts.set id.index c)
        have hhandle : Lent.orRefuse "cursor" (.handle link) = .ok link := rfl
        rw [bind_of_ok (ofExcept_of_ok hhandle _)]
        dsimp only
        cases hmade : link.makeCursor h.session with
        | error e u => cases hmade
        | ok cursor u =>
          rw [hmade] at hapart
          rw [bind_of_ok hapart]
          -- the cursor goes to the context whose connection was read
          have hset := set_modify s.contexts id.index c
            { source := .caller (.handle ⟨u.links.length⟩) }
            fun c => { c with cursor := some (.handle cursor) }
          exact ⟨rfl, _, hc.withCursor hconnection _,
            congrArg (fun cs => { u with contexts := cs }) hset⟩
    · rw [bind_of_error hmodel, hread]
      exact ⟨rfl, hafter⟩

/-- Closing comes to the same. -/
theorem Represents.close {id : ContextId} {s w : Session} {f : ContextFields}
    (hf : f.Represents (s.context id)) (hs : s = { w with contexts := s.contexts }) :
    (close ⟨f, w⟩).Agree (After id s.contexts) (id.close s) := by
  -- closing something that is not the context's own does nothing
  have hsame := after_same hf hs
  unfold ContextFields.close ContextId.close
  rw [get_bind, get_bind]
  have hcontext := set_context s id
  generalize hc : s.context id = c at hf hcontext
  cases hf with
  | lent connection cursor overrides => exact ⟨rfl, hsame⟩
  | @closed server overrides cursor connector owns hserver hconnector hcursor =>
    cases owns with
    | false => exact ⟨rfl, hsame⟩
    | true =>
      cases connector with
      | none => exact ⟨rfl, hsame⟩
      | some k =>
        obtain ⟨plan, connection, first⟩ := k
        obtain ⟨hconnection, hfirst⟩ := hconnector _ rfl
        dsimp only at hconnection hfirst
        subst hconnection hfirst
        -- a connector that never got a connection has nothing to close
        refine ⟨rfl, { source := .server server overrides }, ?_, ?_⟩
        · exact .closed overrides hserver nofun fun _ => rfl
        · obtain rfl := hcursor rfl
          rw [hcontext]
          exact hs
  -- the connection goes, and the cursor with it
  | connected overrides cursor plan link first hserver =>
    refine ⟨rfl, _, .closed overrides hserver nofun fun _ => rfl, ?_⟩
    rw [hs]
    rfl

/-- The server is the one of the context. -/
theorem Represents.server_eq {f : ContextFields} {c : Context} (h : f.Represents c) :
    f.server = c.server := by
  cases h <;> rfl

/-- Both say alike whether the connection is the context's own. -/
theorem Represents.ownsConnection_eq {f : ContextFields} {c : Context} (h : f.Represents c) :
    f.ownsConnection = c.ownsConnection := by
  cases h with
  | lent => rfl
  | closed overrides hserver => exact congrArg not hserver
  | connected overrides cursor plan link first hserver => exact congrArg not hserver

/-- Both look alike in a message. -/
theorem Represents.shown_eq {f : ContextFields} {c : Context} (h : f.Represents c) :
    f.shown = c.shown := by
  cases h <;> rfl

end ContextFields

/-! ## The contexts of a session -/

/-- Fields stand for the contexts of a session, and nothing else is different. -/
structure Mirrors (h : Held (List ContextFields)) (s : Session) : Prop where
  represents : List.Forall₂ ContextFields.Represents h.object s.contexts
  rest : s = { h.session with contexts := s.contexts }

/-- What holds of items side by side holds when one is replaced on each side. -/
theorem forall₂_set {γ δ : Type} {R : γ → δ → Prop} {as : List γ} {bs : List δ}
    (h : List.Forall₂ R as bs) {a : γ} {b : δ} (hab : R a b) (i : Nat) :
    List.Forall₂ R (as.set i a) (bs.set i b) := by
  induction h generalizing i with
  | nil => exact .nil
  | cons hcd hrest ih =>
    cases i with
    | zero => exact .cons hab hrest
    | succ i => exact .cons hcd (ih i)

namespace Mirrors

variable {h : Held (List ContextFields)} {s : Session}

/-- The fields of any context stand for it, also of one that was never made. -/
theorem fieldsOf (hm : Mirrors h s) (id : ContextId) :
    (ContextUse.fieldsOf id h).Represents (s.context id) := by
  have hlength := hm.represents.length_eq
  by_cases hid : id.index < s.contexts.length
  · have hid' : id.index < h.object.length := by omega
    have := hm.represents.get hid' hid
    simpa [ContextUse.fieldsOf, Session.context, hid, hid'] using this
  -- contexts that were never made read as lent ones on both sides
  · have hlinks : s.links = h.session.links := by rw [hm.rest]
    have hid' : h.object[id.index]? = none := by simp; omega
    have hid'' : s.contexts[id.index]? = none := by simp; omega
    rw [ContextUse.fieldsOf, Session.context, hid', hid'', hlinks]
    exact .lent _ _ _

/-- A method of one context that comes to the same leaves the others as they are. -/
theorem onContext (hm : Mirrors h s) {id : ContextId} {method : Method ContextFields α}
    {act : Act α} (hagree : (method ⟨ContextUse.fieldsOf id h, h.session⟩).Agree
      (ContextFields.After id s.contexts) (act s)) :
    (ContextUse.onContext id method h).Agree Mirrors (act s) := by
  unfold ContextUse.onContext onPart
  obtain ⟨a, t, v, hx, hy, c, hc, rfl⟩ | ⟨e, t, v, hx, hy, c, hc, rfl⟩ := hagree.cases
  · rw [hx, hy]
    exact ⟨rfl, forall₂_set hm.represents hc id.index, rfl⟩
  · rw [hx, hy]
    exact ⟨rfl, forall₂_set hm.represents hc id.index, rfl⟩

/-- Whatever is asked of a context, the answer is the same. -/
theorem run_agrees (hm : Mirrors h s) (use : ContextUse α) :
    (use.runOnFields h).Agree Mirrors (use.run s) := by
  cases use with
  -- a request is refused on both sides, or makes a context that the fields represent
  | make server connection cursor overrides =>
    dsimp only [ContextUse.runOnFields, ContextUse.run]
    obtain ⟨e, hfields, hsource⟩ | ⟨f, source, hfields, hsource, hf⟩ :=
      ContextFields.make_eq server connection cursor overrides
    · rw [bind_of_error (ofExcept_of_error hfields h), bind_of_error (ofExcept_of_error hsource s)]
      exact ⟨rfl, hm⟩
    · rw [bind_of_ok (ofExcept_of_ok hfields h), bind_of_ok (ofExcept_of_ok hsource s)]
      refine ⟨?_, List.rel_append hm.represents (.cons hf .nil), ?_⟩
      · exact congrArg (fun n => Except.ok (ContextId.mk n)) hm.represents.length_eq
      · exact congrArg (fun t : Session =>
          { t with contexts := s.contexts ++ [({ source, cursor } : Context)] }) hm.rest
  -- every other use is that of the fields of one context
  | readConnection id => exact hm.onContext ((hm.fieldsOf id).readConnection hm.rest)
  | readCursor id => exact hm.onContext ((hm.fieldsOf id).readCursor hm.rest)
  | close id => exact hm.onContext ((hm.fieldsOf id).close hm.rest)
  | readServer id => exact ⟨congrArg Except.ok (hm.fieldsOf id).server_eq, hm⟩
  | readOwnership id => exact ⟨congrArg Except.ok (hm.fieldsOf id).ownsConnection_eq, hm⟩
  | readText id => exact ⟨congrArg Except.ok (hm.fieldsOf id).shown_eq, hm⟩

/-- What is apart from contexts comes to the same. -/
theorem outside_agrees (hm : Mirrors h s) {act : Act α} (hact : IsApart act) :
    (outside act h).Agree Mirrors (act s) := by
  have hapart := hact h.session s.contexts
  rw [← hm.rest] at hapart
  rw [hapart]
  unfold outside
  cases act h.session with
  | ok a t => exact ⟨rfl, hm.represents, rfl⟩
  | error e t => exact ⟨rfl, hm.represents, rfl⟩

end Mirrors

/-! ## Scripts -/

/-- A program that uses contexts, does anything else in between, and goes on as it likes with what
came of either. -/
inductive Script : Type → Type 1 where
  | done {α : Type} (a : α) : Script α
  | raise {α : Type} (e : Error) : Script α
  | ask {α β : Type} (use : ContextUse β) (next : Except Error β → Script α) : Script α
  | other {α β : Type} (act : Act β) (next : Except Error β → Script α) : Script α

namespace Script

/-- Runs a script. -/
def run {α : Type} : Script α → Act α
  | .done a => pure a
  | .raise e => throw e
  | .ask use next => carryOn use.run fun r => (next r).run
  | .other act next => carryOn act fun r => (next r).run

/-- Runs a script on the fields of contexts. -/
def runOnFields {α : Type} : Script α → Method (List ContextFields) α
  | .done a => pure a
  | .raise e => throw e
  | .ask use next => carryOn use.runOnFields fun r => (next r).runOnFields
  | .other act next => carryOn (outside act) fun r => (next r).runOnFields

/-- What a script does in between has nothing to do with contexts. -/
def IsApartBetween {α : Type} : Script α → Prop
  | .done _ => True
  | .raise _ => True
  | .ask _ next => ∀ r, (next r).IsApartBetween
  | .other act next => IsApart act ∧ ∀ r, (next r).IsApartBetween

/-- A script comes to the same with the fields of contexts as without them. -/
theorem run_agrees (script : Script α) (hscript : script.IsApartBetween)
    {h : Held (List ContextFields)} {s : Session} (hm : Mirrors h s) :
    (script.runOnFields h).Agree Mirrors (script.run s) := by
  induction script generalizing h s with
  | done a => exact ⟨rfl, hm⟩
  | raise e => exact ⟨rfl, hm⟩
  | ask use next ih =>
    exact (hm.run_agrees use).carryOn fun r _ _ hm' => ih r (hscript r) hm'
  | other act next ih =>
    exact (hm.outside_agrees hscript.1).carryOn fun r _ _ hm' => ih r (hscript.2 r) hm'

/-- From a session without contexts on, a script comes to the same, and leaves every context in
accord with its connector. -/
theorem coherent_of_run (script : Script α) (hscript : script.IsApartBetween) {s : Session}
    (hs : s.contexts = []) :
    (script.runOnFields ⟨[], s⟩).outcome = (script.run s).outcome ∧
      Mirrors (script.runOnFields ⟨[], s⟩).state (script.run s).state ∧
      ∀ c ∈ (script.runOnFields ⟨[], s⟩).state.object, c.Coherent := by
  have hstart : Mirrors ⟨[], s⟩ s := ⟨hs ▸ .nil, rfl⟩
  obtain ⟨houtcome, hm⟩ := script.run_agrees hscript hstart
  have hboth := hm.represents.imp fun _ _ h => And.intro h.coherent h
  exact ⟨houtcome, hm, ((List.forall₂_and_left _ _).mp hboth).1⟩

/-- Ends with what has come of an action. -/
def finish {α : Type} : Except Error α → Script α
  | .ok a => .done a
  | .error e => .raise e

/-- An action as a script. -/
theorem run_other_finish (act : Act α) : (other act finish).run = act := by
  funext s
  cases h : act s with
  | ok a t => exact carryOn_of_ok h _
  | error e t => exact carryOn_of_error h _

/-- A statement on a context, which goes to its cursor. -/
def statement (id : ContextId) (sql : Value) (bindings : Option Value) : Script CursorId :=
  .ask (.readCursor id) fun
    | .error e => .raise e
    | .ok cursor => .other (do
        let values ← ofExcept (bindings.mapM Value.items)
        let cursor ← ofExcept (cursor.orRefuse "execute")
        cursor.execute sql values
        return cursor) finish

/-- Between the cursor and the end of a statement nobody looks at contexts. -/
theorem isApartBetween_statement (id : ContextId) (sql : Value) (bindings : Option Value) :
    (statement id sql bindings).IsApartBetween := by
  rintro (e | cursor)
  · trivial
  · refine ⟨?_, by rintro (e | cursor) <;> trivial⟩
    exact (isApart_ofExcept _).bind fun values => (isApart_ofExcept _).bind fun cursor =>
      (isApart_execute cursor sql values).bind fun _ => isApart_pure _

/-- The statements that a context runs are scripts. -/
theorem run_statement (id : ContextId) (sql : Value) (bindings : Option Value) :
    (statement id sql bindings).run = id.run sql bindings := by
  funext s
  unfold ContextId.run
  cases hcursor : id.cursor s with
  | error e t => exact (carryOn_of_error hcursor _).trans (bind_of_error hcursor _).symm
  | ok cursor t =>
    rw [bind_of_ok hcursor]
    exact (carryOn_of_ok hcursor _).trans (congrFun (run_other_finish _) t)

end Script

end Querysmith
