import Querysmith.Session.Basic

/-!
# Changes of a session

Whatever an action does to the connections and contexts of a session, it does in a few kinds of
changes: a connection is opened for a context, a cursor is made for a context, a connection of a
context is closed, or none of this happens. Each kind is a relation between the session before and
after, which tells what the change leaves alone as well.

## Main definitions

- `Context.Uses`: the connection on which a context makes its cursors
- `openedLinks`, `closedLinks`: the connections that a trace opens and closes
- `Session.since`: what happened from one session to a later one
- `Session.sent`: the statements among what happened
- `Session.Advances`: what no access to a connection changes
- `Session.Quiet`, `Session.Calm`, `Session.Connects`, `Session.Opens`, `Session.Draws`,
  `Session.Lends`, `Session.Closes`: the kinds of changes
-/

namespace Querysmith

/-! ## Connections of contexts -/

/-- A context for a server makes its cursors on the connection that it has opened, and any other
context makes them on the connection of the caller. -/
def Context.Uses (c : Context) (link : Lent LinkId) : Prop :=
  match c.source with
  | .caller l => link = l
  | .server .. => ∃ o, c.opened = some o ∧ link = .handle o.link

/-- A context that uses a connection of its own has opened it. -/
theorem Context.Uses.opened {c : Context} {l : LinkId} (h : c.Uses (.handle l))
    (howns : c.ownsConnection = true) : ∃ o, c.opened = some o ∧ l = o.link := by
  cases hsource : c.source with
  | caller => simp [ownsConnection, hsource] at howns
  | server name overrides =>
    obtain ⟨o, ho, hlink⟩ : ∃ o, c.opened = some o ∧ Lent.handle l = .handle o.link := by
      simpa [Uses, hsource] using h
    cases hlink
    exact ⟨o, ho, rfl⟩

/-! ## Traffic -/

/-- The connection that an event opens. -/
def Event.opened? : Event → Option LinkId
  | .connect link _ => some link
  | _ => none

/-- The connection that an event closes. -/
def Event.closed? : Event → Option LinkId
  | .closeLink link => some link
  | _ => none

/-- A statement that was sent, once or for every row. -/
def Event.isStatement : Event → Bool
  | .execute .. | .executeMany .. => true
  | _ => false

/-- The connections that a trace opens, in its order. -/
def openedLinks (trace : List Event) : List LinkId := trace.filterMap Event.opened?

/-- The connections that a trace closes, in its order. -/
def closedLinks (trace : List Event) : List LinkId := trace.filterMap Event.closed?

namespace Session

/-- What happened from one session to a later one, latest first. -/
def since (s t : Session) : List Event := t.trace.take (t.trace.length - s.trace.length)

/-- What has happened since is in front of what had happened. -/
theorem since_append {s t : Session} (h : s.trace <:+ t.trace) :
    since s t ++ s.trace = t.trace := by
  obtain ⟨new, hnew⟩ := h
  simp [since, ← hnew]

/-- What has happened since is what has happened in two stretches. -/
theorem since_trans {s t u : Session} (h : s.trace <:+ t.trace) (h' : t.trace <:+ u.trace) :
    since s u = since t u ++ since s t := by
  refine List.append_cancel_right (?_ : _ ++ s.trace = _ ++ s.trace)
  rw [since_append (h.trans h'), List.append_assoc, since_append h, since_append h']

/-- What a longer trace tells more is what has happened since. -/
theorem filterMap_since {α : Type} {f : Event → Option α} {new : List α} {s t : Session}
    (h : s.trace <:+ t.trace) (hnew : t.trace.filterMap f = new ++ s.trace.filterMap f) :
    (since s t).filterMap f = new := by
  rw [← since_append h, List.filterMap_append] at hnew
  exact List.append_cancel_right hnew

/-- What stands behind a trace in a longer one has happened since. -/
theorem mem_since {s t : Session} {e : Event} (h : e :: s.trace <:+ t.trace) : e ∈ since s t := by
  obtain ⟨new, hnew⟩ := h
  have hall : since s t ++ s.trace = (new ++ [e]) ++ s.trace := by
    rw [since_append ((List.suffix_cons e s.trace).trans ⟨new, hnew⟩), ← hnew, List.append_assoc,
      List.singleton_append]
  rw [List.append_cancel_right hall]
  exact List.mem_append_right new (List.mem_singleton_self e)

/-- What has happened in the later stretch has happened in both. -/
theorem mem_since_of_suffix {s t u : Session} (h : s.trace <:+ t.trace) (h' : t.trace <:+ u.trace)
    {e : Event} (he : e ∈ since s t) : e ∈ since s u := by
  rw [since_trans h h']
  exact List.mem_append_right _ he

/-- The statements that were sent, latest first. -/
def sent (s : Session) : List Event := s.trace.filter Event.isStatement

/-- What no access to a connection changes: the registry, the names of contexts and the account of
transactions stay, and the trace, the connections and their cursors only grow. -/
structure Advances (s t : Session) : Prop where
  transactions : t.transactions = s.transactions
  contextNames : t.contextNames = s.contextNames
  controls : t.controls = s.controls
  trace : s.trace <:+ t.trace
  links : s.links.length ≤ t.links.length
  cursors : ∀ id : LinkId, id.index < s.links.length →
    (s.link id).cursors.length ≤ (t.link id).cursors.length

theorem Advances.refl (s : Session) : Advances s s :=
  ⟨rfl, rfl, rfl, List.suffix_rfl, Nat.le_refl _, fun _ _ => Nat.le_refl _⟩

theorem Advances.trans {s t u : Session} (h : Advances s t) (h' : Advances t u) : Advances s u where
  transactions := h'.transactions.trans h.transactions
  contextNames := h'.contextNames.trans h.contextNames
  controls := h'.controls.trans h.controls
  trace := h.trace.trans h'.trace
  links := Nat.le_trans h.links h'.links
  cursors := fun id hid =>
    Nat.le_trans (h.cursors id hid) (h'.cursors id (Nat.lt_of_lt_of_le hid h.links))

/-- No connection is opened or closed, and no context changes. -/
structure Quiet (s t : Session) : Prop extends Advances s t where
  contexts : t.contexts = s.contexts
  opened : openedLinks t.trace = openedLinks s.trace
  closed : closedLinks t.trace = closedLinks s.trace

theorem Quiet.refl (s : Session) : Quiet s s := ⟨Advances.refl s, rfl, rfl, rfl⟩

/-- Two quiet stretches are one. -/
theorem Quiet.trans {s t u : Session} (h : Quiet s t) (h' : Quiet t u) : Quiet s u :=
  ⟨h.toAdvances.trans h'.toAdvances, h'.contexts.trans h.contexts, h'.opened.trans h.opened,
    h'.closed.trans h.closed⟩

/-- Besides, no statement is sent. -/
structure Calm (s t : Session) : Prop extends Quiet s t where
  sent : t.sent = s.sent

theorem Calm.refl (s : Session) : Calm s s := ⟨Quiet.refl s, rfl⟩

/-- Two calm stretches are one. -/
theorem Calm.trans {s t u : Session} (h : Calm s t) (h' : Calm t u) : Calm s u :=
  ⟨h.toQuiet.trans h'.toQuiet, h'.sent.trans h.sent⟩

/-- A connection is opened. It comes with a cursor. -/
structure Connects (o : OpenLink) (s t : Session) : Prop extends Advances s t where
  opened : openedLinks t.trace = o.link :: openedLinks s.trace
  closed : closedLinks t.trace = closedLinks s.trace
  fresh : s.links.length ≤ o.link.index
  made : o.link.index < t.links.length
  cursor_link : o.cursor.link = o.link
  cursor_made : o.cursor.index < (t.link o.link).cursors.length

/-- A connection is opened for a context that has none. -/
structure Opens (id : ContextId) (o : OpenLink) (s t : Session) : Prop extends Connects o s t where
  owns : (s.context id).ownsConnection = true
  unopened : (s.context id).opened = none
  contexts : t.contexts = s.contexts.set id.index ((s.context id).withOpened o)

/-- A cursor is made for a context that has none of its own. -/
structure Draws (id : ContextId) (k : CursorId) (s t : Session) : Prop extends Advances s t where
  idle : (s.context id).cursor = none ∨
    ∃ o, (s.context id).opened = some o ∧ (s.context id).cursor = some (.handle o.cursor)
  contexts : t.contexts = s.contexts.set id.index
    { s.context id with cursor := some (.handle k) }
  opened : openedLinks t.trace = openedLinks s.trace
  closed : closedLinks t.trace = closedLinks s.trace
  fresh : (s.link k.link).cursors.length ≤ k.index
  made : k.link.index < s.links.length → k.index < (t.link k.link).cursors.length
  uses : (s.context id).Uses (.handle k.link)

/-- A cursor may be made for a caller, on a connection of the caller. -/
structure Lends (link : Option LinkId) (cursor : Option CursorId) (s t : Session) : Prop
    extends Calm s t where
  link_eq : ∀ {k}, cursor = some k → link = some k.link
  fresh : ∀ {k}, cursor = some k → (s.link k.link).cursors.length ≤ k.index
  made : ∀ {k}, cursor = some k → k.link.index < s.links.length →
    k.index < (t.link k.link).cursors.length

theorem Lends.nothing (link : Option LinkId) (s : Session) : Lends link none s s :=
  ⟨Calm.refl s, nofun, nofun, nofun⟩

/-- The connection of a context is closed. -/
structure Closes (id : ContextId) (o : OpenLink) (s t : Session) : Prop extends Advances s t where
  held : (s.context id).opened = some o
  contexts : t.contexts = s.contexts.set id.index (s.context id).withoutOpened
  opened : openedLinks t.trace = openedLinks s.trace
  closed : closedLinks t.trace = o.link :: closedLinks s.trace

/-! ## Changes one after the other -/

/-- What was quiet before a connection was opened belongs to opening it. -/
theorem Connects.before {s t u : Session} {o : OpenLink} (h : Quiet s t) (h' : Connects o t u) :
    Connects o s u where
  toAdvances := h.toAdvances.trans h'.toAdvances
  opened := by rw [h'.opened, h.opened]
  closed := by rw [h'.closed, h.closed]
  fresh := Nat.le_trans h.links h'.fresh
  made := h'.made
  cursor_link := h'.cursor_link
  cursor_made := h'.cursor_made

/-! ## Contexts -/

/-- A context that was never made opens no connection. -/
theorem lt_of_ownsConnection {s : Session} {id : ContextId}
    (h : (s.context id).ownsConnection = true) : id.index < s.contexts.length := by
  rcases Nat.lt_or_ge id.index s.contexts.length with hid | hid
  · exact hid
  · have hnone : s.contexts[id.index]? = none := List.getElem?_eq_none hid
    simp [context, hnone, Context.ownsConnection] at h

/-- A context that is there is read off the contexts alone. -/
theorem context_congr {s t : Session} (h : t.contexts = s.contexts) {id : ContextId}
    (hid : id.index < s.contexts.length) : t.context id = s.context id := by
  simp [context, h, hid]

/-- The same contexts hold the same connections and cursors, also those that were never made. -/
theorem opened_congr {s t : Session} (h : t.contexts = s.contexts) (id : ContextId) :
    (t.context id).opened = (s.context id).opened := by
  rw [context, context, h]
  cases s.contexts[id.index]? <;> rfl

/-- The same contexts hold the same cursors. -/
theorem cursor_congr {s t : Session} (h : t.contexts = s.contexts) (id : ContextId) :
    (t.context id).cursor = (s.context id).cursor := by
  rw [context, context, h]
  cases s.contexts[id.index]? <;> rfl

/-- The same contexts own the same connections. -/
theorem ownsConnection_congr {s t : Session} (h : t.contexts = s.contexts) (id : ContextId) :
    (t.context id).ownsConnection = (s.context id).ownsConnection := by
  rw [context, context, h]
  cases s.contexts[id.index]? <;> rfl

/-- A context is the one that was put in its place last. -/
theorem context_of_set {s t : Session} {id : ContextId} {c : Context}
    (h : t.contexts = s.contexts.set id.index c) (hid : id.index < s.contexts.length) :
    t.context id = c := by
  simp [context, h, hid]

/-- Other contexts stay as they are. -/
theorem context_of_set_ne {s t : Session} {id other : ContextId} {c : Context}
    (h : t.contexts = s.contexts.set id.index c) (hlt : other.index < s.contexts.length)
    (hne : other ≠ id) : t.context other = s.context other := by
  have hindex : id.index ≠ other.index := by
    intro heq
    exact hne (by cases id; cases other; cases heq; rfl)
  simp [context, h, hindex, hlt]

end Session

end Querysmith
