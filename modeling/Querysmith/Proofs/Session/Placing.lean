import Querysmith.Proofs.Session.Routing
import Querysmith.Proofs.Session.Wiring

/-!
# Statements run on the right connection

A statement on a server runs on the context that is given, else on the one that holds the open
transaction of the server, else on a connection that is opened for it and that nothing else knows.
Every call that runs a statement comes down to one statement on one context, and is calm otherwise;
so what is known of one statement on a context is known of all these calls.

## Main definitions

- `IsSingle`: an action on a context that runs one statement at most
- `OpenedFor`: a connection that was opened for a server
- `Statement`: the calls that run a statement on a server
- `Placed`: where a call has sent its statement, and what it has left alone

## Key results

- `Ran.touches`: what one statement on a context does
- `cursor_openedFor`: a context that is new makes its cursor on a connection opened for its server
- `placed_onServer`: single statements are sent to the right place
- `Statement.placed`: and so are those of all calls
-/

namespace Querysmith

open Session EStateM

/-! ## Calls -/

/-- The calls that run a statement on a server. The short forms for rows name no context. -/
inductive Statement where
  | query (sql : Value) (values : Option Value) (shape : ReturnShape) (server : Value)
      (given : Option ContextId)
  /-- A terminal call on a builder, whatever was called on it before. -/
  | terminal (call : Terminal) (b : Builder)
  | insertRow (table data server : Value)
  | replaceRow (table data server : Value)
  /-- Runs a pending update, whatever its conditions are. -/
  | executeUpdate (data : Entries) (b : Builder)
  | deleteRows (table conditions server : Value)
  | changeTable (change : TableChange) (server : Value) (given : Option ContextId)
  | hasTable (table server : Value) (given : Option ContextId)

namespace Statement

/-- The server that the call names, by its builder if it has one. -/
def server : Statement → Value
  | query _ _ _ server _ | insertRow _ _ server | replaceRow _ _ server | deleteRows _ _ server
  | changeTable _ server _ | hasTable _ server _ => server
  | terminal _ b | executeUpdate _ b => b.server

/-- The context that the call is given, by its builder if it has one. -/
def given : Statement → Option ContextId
  | query _ _ _ _ given | changeTable _ _ given | hasTable _ _ given => given
  | terminal _ b | executeUpdate _ b => b.context
  | insertRow .. | replaceRow .. | deleteRows .. => none

/-- Runs a call. -/
def run : Statement → Act Reply
  | query sql values shape server given => Session.query sql values shape server given
  | terminal call b => call.run b
  | insertRow table data server => Session.insertRow table data server
  | replaceRow table data server => Session.replaceRow table data server
  | executeUpdate data b => b.runAll [UpdateCall.execute.step data]
  | deleteRows table conditions server => Session.deleteRows table conditions server
  | changeTable change server given => Session.changeTable change server given
  | hasTable table server given => Session.hasTable table server given

end Statement

variable {α β : Type} {server : Value} {given : Option ContextId} {c : ContextId}
  {s t u : Session}

/-! ## One statement -/

/-- At most one context changes; no connection is closed, and one that the context had stays. -/
structure Confined (c : ContextId) (s t : Session) : Prop extends Advances s t where
  closed : closedLinks t.trace = closedLinks s.trace
  kept : ∀ {o}, (s.context c).opened = some o → (t.context c).opened = some o
  others : ∀ {id}, id ≠ c → s.Has id → t.context id = s.context id
  length : t.contexts.length = s.contexts.length

/-- Besides, at most one statement is sent, on the cursor of the context. -/
structure Touches (c : ContextId) (s t : Session) : Prop extends Confined c s t where
  sent : t.sent = s.sent ∨ ∃ e k, t.sent = e :: s.sent ∧ e.sentOn? = some k ∧
    (t.context c).cursor = some (.handle k)

theorem Confined.refl (c : ContextId) (s : Session) : Confined c s s :=
  ⟨Advances.refl s, rfl, id, fun _ _ => rfl, rfl⟩

/-- Two stretches that are confined to a context are confined to it. -/
theorem Confined.trans (h : Confined c s t) (h' : Confined c t u) : Confined c s u where
  toAdvances := h.toAdvances.trans h'.toAdvances
  closed := h'.closed.trans h.closed
  kept ho := h'.kept (h.kept ho)
  others {id} hne hid := by
    have hlt : t.Has id := by rwa [Has, h.length]
    rw [h'.others hne hlt, h.others hne hid]
  length := h'.length.trans h.length

/-- A quiet stretch is confined to any context. -/
theorem Session.Quiet.confined (h : Quiet s t) (c : ContextId) : Confined c s t where
  toAdvances := h.toAdvances
  closed := h.closed
  kept ho := (opened_congr h.contexts c).trans ho
  others _ hid := context_congr h.contexts hid
  length := by rw [h.contexts]

/-- Opening a connection is confined to its context. -/
theorem Session.Opens.confined {o : OpenLink} (h : Opens c o s t) : Confined c s t where
  toAdvances := h.toAdvances
  closed := h.closed
  kept ho := by simp [h.unopened] at ho
  others hne hid := context_of_set_ne h.contexts hid hne
  length := by rw [h.contexts, List.length_set]

/-- Making a cursor is confined to its context. -/
theorem Session.Draws.confined {k : CursorId} (h : Draws c k s t) : Confined c s t where
  toAdvances := h.toAdvances
  closed := h.closed
  kept {o} ho := by
    -- a context that does not exist is not set, so that it has no connection then and later
    rcases Nat.lt_or_ge c.index s.contexts.length with hlt | hge
    · rw [context_of_set h.contexts hlt]
      exact ho
    · have hsame := h.contexts
      rw [List.set_eq_of_length_le hge] at hsame
      rw [opened_congr hsame, ho]
  others hne hid := context_of_set_ne h.contexts hid hne
  length := by rw [h.contexts, List.length_set]

/-- Access to a context is confined to it. -/
theorem rides_confined (c : ContextId) (s : Session) : Rides (Confined c s) (· = c) where
  quiet ht h := h.trans (ht.confined c)
  opens hid ht h := h.trans (hid ▸ ht.confined)
  draws hid ht h := h.trans (hid ▸ ht.confined)

/-- What is calm sends nothing more. -/
theorem Touches.calm (h : Touches c s t) (hu : Calm t u) : Touches c s u where
  toConfined := h.toConfined.trans (hu.toQuiet.confined c)
  sent := by
    rw [hu.sent, cursor_congr hu.contexts]
    exact h.sent

/-- A stretch without statements touches its context only. -/
theorem Confined.touches (h : Confined c s t) (hsent : t.sent = s.sent) : Touches c s t :=
  ⟨h, .inl hsent⟩

/-- What is sent on a cursor is a statement. -/
theorem Event.isStatement_of_sentOn? (e : Event) {k : CursorId} (h : e.sentOn? = some k) :
    e.isStatement = true := by
  cases e with
  | execute | executeMany => rfl
  | _ => cases h

/-- What is left where a statement was to run on a context: its cursor was got at, and the statement
was sent on the cursor, unless it did not come to that. -/
def Ran (c : ContextId) (s t : Session) : Prop :=
  t = (c.cursor s).state ∨ ∃ k u e, c.cursor s = .ok (.handle k) u ∧ Quiet u t ∧
    e.sentOn? = some k ∧ t.trace = e :: u.trace

/-- Running a statement runs it on the cursor of the context. -/
theorem run_ran (c : ContextId) (sql : Value) (bindings : Option Value) (s : Session) :
    Ran c s (c.run sql bindings s).state := by
  -- the cursor first, then the values, then the statement
  have hread : c.run sql bindings s = (c.cursor >>= fun cursor => do
      let values ← ofExcept (bindings.mapM Value.items)
      let cursor ← ofExcept (cursor.orRefuse "execute")
      cursor.execute sql values
      return cursor) s := rfl
  cases hcursor : c.cursor s with
  | error e u =>
    rw [hread, bind_of_error hcursor]
    exact .inl (by rw [hcursor]; rfl)
  | ok lent u =>
    rw [hread, bind_of_ok hcursor]
    have hstop : Ran c s u := .inl (by rw [hcursor]; rfl)
    -- the values are read, and the cursor has to be one of the driver
    cases bindings.mapM Value.items with
    | error e => exact hstop
    | ok values =>
      cases lent with
      | value v => exact hstop
      | handle k =>
        show Ran c s ((do k.execute sql values; return k : Act CursorId) u).state
        have hsent := execute_outcome k sql values u
        -- a statement that fails was sent as well
        cases hexecute : k.execute sql values u with
        | ok _ t =>
          rw [hexecute] at hsent
          rw [bind_of_ok hexecute]
          exact .inr ⟨k, u, _, hcursor, hsent.1, rfl, hsent.2⟩
        | error e t =>
          rw [hexecute] at hsent
          obtain ⟨hquiet, reason, htrace⟩ := hsent
          rw [bind_of_error hexecute]
          exact .inr ⟨k, u, _, hcursor, hquiet, rfl, htrace⟩

/-- Getting at the cursor of a context is confined to it and sends nothing. -/
theorem cursor_confined (c : ContextId) (s : Session) :
    Confined c s (c.cursor s).state ∧ (c.cursor s).state.sent = s.sent :=
  ⟨((rides_confined c s).keeps_cursor rfl).state (Confined.refl c s),
    (keeps_sent_cursor c).state rfl⟩

/-- What was run is added to the trace. -/
theorem Ran.trace (h : Ran c s t) : s.trace <:+ t.trace := by
  obtain ⟨hconfined, -⟩ := cursor_confined c s
  rcases h with rfl | ⟨k, u, e, hcursor, hquiet, -⟩
  · exact hconfined.trace
  · rw [hcursor] at hconfined
    exact hconfined.trace.trans hquiet.trace

/-- A statement on a context is sent once, if it comes to that, on the cursor that the context has
got. -/
theorem Ran.touches (h : Ran c s t) (hc : s.Has c) : Touches c s t := by
  obtain ⟨hconfined, hsent⟩ := cursor_confined c s
  rcases h with rfl | ⟨k, u, e, hcursor, hquiet, hon, htrace⟩
  · exact hconfined.touches hsent
  · have hkept := cursor_kept hc
    rw [hcursor] at hconfined hsent hkept
    refine ⟨hconfined.trans (hquiet.confined c), .inr ⟨e, k, ?_, hon, ?_⟩⟩
    · rw [sent, htrace, List.filter_cons_of_pos (e.isStatement_of_sentOn? hon)]
      exact congrArg (e :: ·) hsent
    · rw [cursor_congr hquiet.contexts]
      exact hkept.1

/-! ## Connections opened for a server -/

/-- The connection was opened since, with the parameters of the connector that is built for the
server. -/
structure OpenedFor (server : Value) (l : LinkId) (s t : Session) : Prop where
  fresh : s.links.length ≤ l.index
  connected : ∃ connector u v, u.environment = s.environment ∧ u.profiles = s.profiles ∧
    Connector.ofServer server [] u = .ok connector v ∧
    .connect l connector.connectParameters ∈ since s t

/-- A connection that was opened for a server in a stretch was so in a longer one. -/
theorem OpenedFor.mono {l : LinkId} (h : OpenedFor server l s t) (ht : s.trace <:+ t.trace)
    (hu : t.trace <:+ u.trace) : OpenedFor server l s u where
  fresh := h.fresh
  connected := by
    obtain ⟨connector, v, w, henvironment, hprofiles, hconnector, hconnected⟩ := h.connected
    exact ⟨connector, v, w, henvironment, hprofiles, hconnector,
      mem_since_of_suffix ht hu hconnected⟩

/-- A context for a server that is not connected opens a connection for the server. -/
theorem connection_openedFor (hsource : (s.context c).source = .server server [])
    (hopened : (s.context c).opened = none) :
    (c.connection s).Meets
      (fun lent t => s.trace <:+ t.trace ∧ ∃ l, lent = .handle l ∧ OpenedFor server l s t)
      fun _ => True := by
  rw [connection_eq, hsource, hopened]
  refine meets_bind (P := fun connector t => Calm s t ∧
    Connector.ofServer server [] s = .ok connector t) ?_ ?_
  -- the connector is made of the profile, without opening anything
  · exact (((isCalm_ofServer server [] s).meets (Calm.refl s)).and (meets_self _ s)).mono_error
      fun _ _ => trivial
  · rintro connector t ⟨hcalm, hconnector⟩
    refine meets_bind (((openLink_outcome connector t).and
      (openLink_connects connector t)).mono_error fun _ _ => trivial) ?_
    rintro o u ⟨⟨hu, -⟩, hconnected⟩
    have hfresh : s.links.length ≤ o.link.index := Nat.le_trans hcalm.links hu.fresh
    refine ⟨hcalm.trace.trans hu.trace, o.link, rfl, hfresh, connector, s, t, rfl, rfl,
      hconnector, ?_⟩
    show _ ∈ since s u
    -- the event of connecting stands behind what making the connector has noted
    rw [since_trans hcalm.trace hu.trace]
    exact List.mem_append_left _ hconnected

/-- A context for a server that has neither connection nor cursor makes its cursor on a connection
that it opens for the server. -/
theorem cursor_openedFor (hsource : (s.context c).source = .server server [])
    (hopened : (s.context c).opened = none) (hcursor : (s.context c).cursor = none) :
    (c.cursor s).Meets
      (fun lent t => s.trace <:+ t.trace ∧ ∃ k, lent = .handle k ∧ OpenedFor server k.link s t)
      fun _ => True := by
  rw [cursor_eq, hcursor]
  -- first the connection, then a cursor on it
  refine meets_bind (connection_openedFor hsource hopened) ?_
  rintro _ t ⟨htrace, l, rfl, hl⟩
  refine meets_bind (P := fun link v => l = link ∧ t = v) ⟨rfl, rfl⟩ ?_
  rintro _ _ ⟨rfl, rfl⟩
  refine meets_bind ((makeCursor_outcome l t).mono_error fun _ hf => hf.elim) ?_
  rintro k u ⟨hu, hlink, -⟩
  have hsuffix : s.trace <:+ u.trace := htrace.trans hu.trace
  exact ⟨hsuffix, k, rfl, hlink ▸ hl.mono htrace hu.trace⟩

/-- A statement on the context is sent on a connection that was opened for its server. -/
theorem Ran.openedFor (h : Ran c s t) (hsource : (s.context c).source = .server server [])
    (hopened : (s.context c).opened = none) (hcursor : (s.context c).cursor = none)
    {e : Event} (he : e ∈ since s t) {k : CursorId} (hk : e.sentOn? = some k) :
    OpenedFor server k.link s t := by
  obtain ⟨hconfined, hsent⟩ := cursor_confined c s
  have hstatement := e.isStatement_of_sentOn? hk
  -- getting at the cursor has sent nothing
  have hnone : ∀ {u}, s.trace <:+ u.trace → u.sent = s.sent → e ∉ since s u := by
    intro u hu hsame hmem
    have := mem_since_of_sent_eq List.suffix_rfl hu hsame hmem hstatement
    simp [since] at this
  rcases h with rfl | ⟨k', u, e', hgot, hquiet, hon, htrace⟩
  · exact absurd he (hnone hconfined.trace hsent)
  · have hk' := cursor_openedFor hsource hopened hcursor
    rw [hgot] at hconfined hsent hk'
    obtain ⟨-, _, hsame, hlink⟩ := hk'
    cases hsame
    have htrace' : s.trace <:+ u.trace := hconfined.trace
    -- after the cursor is there, the statement is all that is sent
    have honly : since u t = [e'] := by simp [since, htrace]
    rw [since_trans htrace' hquiet.trace, honly] at he
    rcases List.mem_append.1 he with he | he
    · obtain rfl := List.mem_singleton.1 he
      obtain rfl : k' = k := Option.some.inj (hon.symm.trans hk)
      exact hlink.mono htrace' hquiet.trace
    · exact absurd he (hnone htrace' hsent)

/-! ## Calls that run one statement -/

/-- Besides one statement at most, the action is calm. -/
def IsSingle (act : ContextId → Act α) : Prop :=
  ∀ c s, Calm s (act c s).state ∨ ∃ u, Ran c s u ∧ Calm u (act c s).state

/-- A statement and what reads its result. -/
theorem isSingle_run {sql : Value} {bindings : Option Value} {read : CursorId → Act α}
    (hread : ∀ cursor, IsCalm (read cursor)) :
    IsSingle fun c => c.run sql bindings >>= read := by
  intro c s
  have hran := run_ran c sql bindings s
  refine .inr ⟨_, hran, ?_⟩
  show Calm _ ((c.run sql bindings >>= read) s).state
  -- what is read afterwards sends nothing
  cases hrun : c.run sql bindings s with
  | ok cursor u =>
    rw [bind_of_ok hrun]
    exact (hread cursor).state u
  | error e u =>
    rw [bind_of_error hrun]
    exact Calm.refl u

/-- A check before a single statement. -/
theorem isSingle_ofExcept {x : Except Error β} {act : β → ContextId → Act α}
    (h : ∀ b, IsSingle (act b)) : IsSingle fun c => ofExcept x >>= fun b => act b c := by
  intro c s
  cases x with
  | error e => exact .inl (Calm.refl s)
  | ok b => exact h b c s

/-- A terminal call runs a single statement. -/
theorem isSingle_terminal (t : Terminal) (b : Builder) :
    IsSingle (fun c => do
      let statement ← ofExcept (t.statement b)
      let cursor ← c.runStatement statement
      t.read cursor) :=
  isSingle_ofExcept fun _ => isSingle_run fun cursor => isCalm_terminalRead cursor t

/-- A single statement touches its context only. -/
theorem IsSingle.touches {act : ContextId → Act α} (h : IsSingle act) (hc : s.Has c) :
    Touches c s (act c s).state := by
  rcases h c s with hcalm | ⟨u, hran, hcalm⟩
  · exact ((hcalm.toQuiet.confined c).touches hcalm.sent)
  · exact (hran.touches hc).calm hcalm

/-- What is sent on a context for a server that is not connected is sent on a connection opened for
the server. -/
theorem IsSingle.openedFor {act : ContextId → Act α} (h : IsSingle act)
    (hsource : (s.context c).source = .server server []) (hopened : (s.context c).opened = none)
    (hcursor : (s.context c).cursor = none) {e : Event} (he : e ∈ since s (act c s).state)
    {k : CursorId} (hk : e.sentOn? = some k) : OpenedFor server k.link s (act c s).state := by
  have hstatement := e.isStatement_of_sentOn? hk
  rcases h c s with hcalm | ⟨u, hran, hcalm⟩
  · have := mem_since_of_sent_eq List.suffix_rfl hcalm.trace hcalm.sent he hstatement
    simp [since] at this
  · have he' := mem_since_of_sent_eq hran.trace hcalm.trace hcalm.sent he hstatement
    exact (hran.openedFor hsource hopened hcursor he' hk).mono hran.trace hcalm.trace

/-! ## Where statements are sent -/

/-- No context uses the connection, and none has a cursor on it. -/
def Session.Avoids (s : Session) (l : LinkId) : Prop :=
  ∀ c, s.Has c → ¬ (s.context c).Uses (.handle l) ∧
    ∀ k, (s.context c).cursor = some (.handle k) → k.link ≠ l

/-- A connection that is opened is not one that was there. -/
theorem OpenedFor.avoids {l : LinkId} (h : OpenedFor server l s t) (hs : s.Wired) : s.Avoids l := by
  have hnot := Nat.not_lt.2 h.fresh
  refine fun c hc => ⟨fun huses => hnot (hs.linked hc huses), ?_⟩
  rintro k hk rfl
  exact hnot (hs.cursors hk)

/-- Where a call on a server has sent its statement, one at most, and what it has left alone. On a
context that is given, or else on record for the server, it is sent on the cursor of this context,
which is not closed. Otherwise it is sent on a connection that was opened for the server, and which
no context knows that was there before. -/
structure Placed (server : Value) (given : Option ContextId) (s t : Session) : Prop where
  transactions : t.transactions = s.transactions
  once : ((since s t).filter Event.isStatement).length ≤ 1
  onContext : ∀ {c}, given.or (s.transactions.get? server) = some c →
    closedLinks t.trace = closedLinks s.trace ∧
    (∀ {o}, (s.context c).opened = some o → (t.context c).opened = some o) ∧
    ∀ e ∈ since s t, ∀ k, e.sentOn? = some k → (t.context c).cursor = some (.handle k)
  onNew : given.or (s.transactions.get? server) = none →
    (∀ c, s.Has c → t.context c = s.context c) ∧
    ∀ e ∈ since s t, ∀ k, e.sentOn? = some k → OpenedFor server k.link s t ∧ s.Avoids k.link

/-- Where nothing was sent, everything was placed. -/
theorem Placed.refl (server : Value) (given : Option ContextId) (s : Session) :
    Placed server given s s := by
  have hnothing : since s s = [] := by simp [since]
  refine ⟨rfl, by simp [hnothing], fun _ => ⟨rfl, id, ?_⟩, fun _ => ⟨fun _ _ => rfl, ?_⟩⟩
  · simp [hnothing]
  · simp [hnothing]

/-- The statements that were sent, one at most. -/
theorem Touches.statements (h : Touches c s t) :
    (since s t).filter Event.isStatement = [] ∨
      ∃ e k, (since s t).filter Event.isStatement = [e] ∧ e.sentOn? = some k ∧
        (t.context c).cursor = some (.handle k) :=
  h.sent.imp (sent_since h.trace) fun ⟨e, k, hsent, hk, hcursor⟩ =>
    ⟨e, k, sent_since h.trace hsent, hk, hcursor⟩

/-- At most one statement was sent. -/
theorem Touches.length_sent_le (h : Touches c s t) :
    ((since s t).filter Event.isStatement).length ≤ 1 := by
  rcases h.statements with hsent | ⟨e, k, hsent, -⟩ <;> simp [hsent]

/-- What was sent was sent on the cursor of the context. -/
theorem Touches.cursor_eq (h : Touches c s t) {e : Event} (he : e ∈ since s t) {k : CursorId}
    (hk : e.sentOn? = some k) : (t.context c).cursor = some (.handle k) := by
  have hmem : e ∈ (since s t).filter Event.isStatement :=
    List.mem_filter.2 ⟨he, e.isStatement_of_sentOn? hk⟩
  rcases h.statements with hsent | ⟨e', k', hsent, hk', hcursor⟩
  · rw [hsent] at hmem
    exact absurd hmem List.not_mem_nil
  · rw [hsent, List.mem_singleton] at hmem
    subst hmem
    obtain rfl : k' = k := Option.some.inj (hk'.symm.trans hk)
    exact hcursor

/-- A statement on the context that is given, or on record. -/
theorem Touches.placed (h : Touches c s t) (hc : given.or (s.transactions.get? server) = some c) :
    Placed server given s t where
  transactions := h.transactions
  once := h.length_sent_le
  onContext hc' := by
    cases hc.symm.trans hc'
    exact ⟨h.closed, h.kept, fun _ he _ hk => h.cursor_eq he hk⟩
  onNew hnone := by
    rw [hnone] at hc
    cases hc

/-- Nothing is sent, and at most one context changes. -/
private structure Settles (c : ContextId) (s t : Session) : Prop extends Advances s t where
  sent : t.sent = s.sent
  others : ∀ {id}, id ≠ c → s.Has id → t.context id = s.context id

private theorem close_settles (c : ContextId) (s : Session) :
    (c.close s).Meets (fun _ => Settles c s) fun _ => False := by
  refine ((close_outcome c s).and ((keeps_sent_close c).meets rfl)).mono ?_ fun _ hf => hf.1
  rintro _ t ⟨hclose, hsent⟩
  -- with nothing open the session stays as it is
  cases hopened : (s.context c).opened with
  | none =>
    rw [hopened] at hclose
    subst hclose
    exact ⟨Advances.refl t, rfl, fun _ _ => rfl⟩
  | some o =>
    rw [hopened] at hclose
    exact ⟨hclose.toAdvances, hsent, fun hne hid => context_of_set_ne hclose.contexts hid hne⟩

/-- A single statement on a context that is made for it, and closed afterwards. -/
private theorem placed_withServer {act : ContextId → Act α} (hact : IsSingle act) (hs : s.Wired)
    (ht : Settles ⟨s.contexts.length⟩ (act ⟨s.contexts.length⟩ (s.withServer server)).state t)
    (hnone : given.or (s.transactions.get? server) = none) : Placed server given s t := by
  have hnew := context_withServer s server
  have hhas : (s.withServer server).Has ⟨s.contexts.length⟩ := by simp [Has, withServer]
  have htouches := hact.touches hhas
  have hopened := fun {e} => hact.openedFor (e := e) (by rw [hnew]) (by rw [hnew]) (by rw [hnew])
  -- the state after the action is all that matters from here on
  generalize (act ⟨s.contexts.length⟩ (s.withServer server)).state = v at *
  have htrace : (s.withServer server).trace <:+ v.trace := htouches.trace
  -- closing sends no statement
  have hsent : (since s t).filter Event.isStatement =
      (since (s.withServer server) v).filter Event.isStatement := by
    refine sent_since (htouches.trace.trans ht.trace : s.trace <:+ t.trace) ?_
    rw [ht.sent, sent, ← since_append htrace, List.filter_append]
    rfl
  refine ⟨ht.transactions.trans htouches.transactions, ?_, fun hsome => ?_, fun _ => ⟨?_, ?_⟩⟩
  · rw [hsent]
    exact htouches.length_sent_le
  · rw [hnone] at hsome
    cases hsome
  · intro c hc
    -- a context that was there before is not the new one
    have hne : c ≠ ⟨s.contexts.length⟩ := by
      rintro rfl
      exact Nat.lt_irrefl _ hc
    have hc' : (s.withServer server).Has c := by
      have hlt : c.index < s.contexts.length := hc
      simp [Has, withServer]
      omega
    have hv : v.Has c := by rwa [Has, htouches.length]
    rw [ht.others hne hv, htouches.others hne hc', context_withServer_of_lt hc]
  · intro e he k hk
    have he' := mem_since_of_sent_eq htrace ht.trace ht.sent he (e.isStatement_of_sentOn? hk)
    have hlink := (hopened he' hk).mono htrace ht.trace
    have hlink' : OpenedFor server k.link s t := ⟨hlink.fresh, hlink.connected⟩
    exact ⟨hlink', hlink'.avoids hs⟩

/-- Single statements are sent to the right place. -/
theorem placed_onServer {act : ContextId → Act α} (hact : IsSingle act) (server : Value)
    (hs : s.Wired) (hgiven : ∀ c, given = some c → s.Has c) :
    Placed server given s (onServer server given act s).state := by
  rcases onServer_cases server given act s with ⟨c, hc, hrun⟩ | ⟨hnone, hrun⟩ | ⟨-, -, e, hrun⟩
  -- the context that was given, or the one of the open transaction
  · have hhas : s.Has c := by
      rcases Option.or_eq_some_iff.1 hc with hc | ⟨-, hc⟩
      · exact hgiven c hc
      · exact hs.registered hc
    rw [hrun]
    exact (hact.touches hhas).placed hc
  · rw [hrun]
    -- a context of its own, which is closed in any case
    refine placed_withServer hact hs (state_tryFinally ?_) hnone
    exact (close_settles _ _).mono_error fun _ hf => hf.elim
  · rw [hrun]
    -- no context could be made, and nothing has happened
    exact Placed.refl server given s

/-! ## Where calls send their statements -/

/-- A check that fails sends nothing. -/
theorem Placed.ofExcept_bind {x : Except Error β} {f : β → Act α}
    (h : ∀ b, Placed server given s (f b s).state) :
    Placed server given s ((ofExcept x >>= f) s).state := by
  cases x with
  | error e => exact Placed.refl server given s
  | ok b => exact h b

/-- A reply that is made from what was read leaves the session as it is. -/
theorem state_bind_ofExcept (x : Act α) (f : α → Except Error β) (s : Session) :
    ((x >>= fun a => ofExcept (f a)) s).state = (x s).state := by
  cases hx : x s with
  | error e t =>
    rw [bind_of_error hx]
    rfl
  | ok a t =>
    rw [bind_of_ok hx]
    cases f a with
    | error e => rfl
    | ok b => rfl

/-- A query is placed. -/
theorem placed_query (sql : Value) (values : Option Value) (shape : ReturnShape) (server : Value)
    (hs : s.Wired) (hgiven : ∀ c, given = some c → s.Has c) :
    Placed server given s (Session.query sql values shape server given s).state :=
  placed_onServer (isSingle_run fun cursor => isCalm_shapeRead cursor shape) server hs hgiven

/-- A terminal call is placed. -/
theorem placed_terminal (call : Terminal) (b : Builder) (hs : s.Wired)
    (hgiven : ∀ c, b.context = some c → s.Has c) :
    Placed b.server b.context s (call.run b s).state := by
  rw [Terminal.run, state_bind_ofExcept]
  exact placed_onServer (isSingle_terminal call b) b.server hs hgiven

/-- A terminal call is the last of the calls on a builder. -/
theorem runAll_finish (b : Builder) (call : Terminal) (s : Session) :
    b.runAll [.finish call] s = call.run b s := by
  have hstep : Step.runAll Terminal.run [.finish call] ⟨b, s⟩ =
      Edit.inWorld (call.run b) ⟨b, s⟩ := by
    rw [Step.runAll, Step.run]
    rfl
  rw [Builder.runAll, hstep, Edit.inWorld]
  cases call.run b s with
  | ok r t => rfl
  | error e t => rfl

/-- Every call sends its statement to the right place, whether it succeeds or fails. -/
theorem Statement.placed (statement : Statement) (hs : s.Wired)
    (hgiven : ∀ c, statement.given = some c → s.Has c) :
    Placed statement.server statement.given s (statement.run s).state := by
  -- most statements are terminal calls on some builder
  cases statement with
  | query sql values shape server given => exact placed_query sql values shape server hs hgiven
  | terminal call b => exact placed_terminal call b hs hgiven
  | insertRow table data server =>
    exact placed_terminal (.insert data) (tableOf server table) hs hgiven
  | replaceRow table data server =>
    exact placed_terminal (.replace data) (tableOf server table) hs hgiven
  | executeUpdate data b =>
    show Placed b.server b.context s (b.runAll [.finish (.update (.map data))] s).state
    rw [runAll_finish]
    exact placed_terminal _ b hs hgiven
  | deleteRows table conditions server =>
    exact Placed.ofExcept_bind fun wheres =>
      placed_terminal .delete { tableOf server table with wheres } hs hgiven
  | changeTable change server given =>
    refine Placed.ofExcept_bind fun sql => ?_
    -- a change that comes to nothing is not sent
    by_cases hempty : sql = ""
    · rw [if_pos hempty]
      exact Placed.refl server given s
    · rw [if_neg hempty]
      exact placed_query (.str sql) none .count server hs hgiven
  | hasTable table server given =>
    exact Placed.ofExcept_bind fun name => placed_onServer (isSingle_run fun cursor =>
      (isCalm_fetchAll cursor).bind fun _ => isCalm_pure _) server hs hgiven

/-- Two contexts on connections of the caller, the first of which holds an open transaction, and
one more connection that can be opened for another server. -/
def sideBySide : Session where
  profiles := (onProfiles
    (ProfileBook.configure (.str "b") (.map [(.str "account", .str "x")])) {}).state.profiles
  links := [{}, {}]
  supply := [{}]
  contexts := [{ source := .caller (.handle ⟨0⟩) }, { source := .caller (.handle ⟨1⟩) }]
  transactions := { active := [(.str "a", ⟨0⟩)] }

end Querysmith
