import Querysmith.Proofs.Session.Quiet

/-!
# Access to contexts as changes of the session

A context opens its connection and makes its cursor when they are first needed. However an access
ends, what it has done is a quiet change, perhaps after a connection was opened and a cursor was
made for this context. A property that survives these changes is kept by every statement.

## Key results

- `connection_outcome`, `cursor_outcome`: what an access does
- `Rides.keeps_run`, `Rides.keeps_runMany`: statements keep what survives the changes
- `keeps_close`: closing a context is one change or none
-/

namespace Querysmith

open Session EStateM

/-! ## Opening connections -/

/-- The session with one connection more, after an event that tells how that went. -/
private def withLink (s : Session) (e : Event) : Session :=
  { s with
    supply := s.supply.drop 1
    links := s.links ++ [Link.ofSpec (s.supply.head?.getD {})]
    trace := e :: s.trace }

private theorem advances_withLink (s : Session) (e : Event) : Advances s (withLink s e) where
  transactions := rfl
  contextNames := rfl
  controls := rfl
  trace := List.suffix_cons e s.trace
  links := by simp [withLink]
  cursors := fun id hid => by simp [withLink, link, List.getElem?_append_left hid]

/-- The next connection is opened or refused. -/
private theorem connect_eq (settings : Settings) (s : Session) :
    LinkId.connect settings s =
      match (s.supply.head?.getD {}).refusal with
      | some reason => .error (.driver reason) (withLink s (.refuse ⟨s.links.length⟩ settings))
      | none => .ok ⟨s.links.length⟩ (withLink s (.connect ⟨s.links.length⟩ settings)) := by
  -- the connection is added to the record before it is known whether it is refused
  have hread : LinkId.connect settings s =
      (match (s.supply.head?.getD {}).refusal with
      | some reason => do
        emit (.refuse ⟨s.links.length⟩ settings)
        throw (.driver reason)
      | none => do
        emit (.connect ⟨s.links.length⟩ settings)
        return ⟨s.links.length⟩ : Act LinkId)
        { s with
          supply := s.supply.drop 1
          links := s.links ++ [Link.ofSpec (s.supply.head?.getD {})] } := rfl
  rw [hread]
  cases (s.supply.head?.getD {}).refusal <;> rfl

/-- A connection is opened, or nothing is. -/
theorem openLink_outcome (c : Connector) (s : Session) :
    (c.openLink s).Meets (fun o t => Connects o s t ∧ t.contexts = s.contexts) (Quiet s) := by
  have hconnect := connect_eq c.connectParameters s
  simp only [Connector.openLink]
  split
  · exact Quiet.refl s
  · cases hrefusal : (s.supply.head?.getD {}).refusal with
    | some reason =>
      -- a driver that refuses is on the trace too, with no connection behind it
      rw [hrefusal] at hconnect
      rw [bind_of_error hconnect]
      exact ⟨advances_withLink s _, rfl, rfl, rfl⟩
    | none =>
      rw [hrefusal] at hconnect
      rw [bind_of_ok hconnect]
      -- a connection comes with its first cursor
      refine meets_bind ((makeCursor_outcome _ _).mono_error fun _ hf => hf.elim) ?_
      rintro cursor t ⟨ht, hlink, _, hmade⟩
      have hlength : s.links.length <
          (withLink s (.connect ⟨s.links.length⟩ c.connectParameters)).links.length := by
        simp [withLink]
      refine ⟨⟨(advances_withLink s _).trans ht.toAdvances, ht.opened, ht.closed, Nat.le_refl _,
        Nat.lt_of_lt_of_le hlength ht.links, hlink, hmade hlength⟩, ht.contexts⟩

/-- Opening a connection tells just that, and the cursor that is made on it. -/
theorem openLink_trace (c : Connector) (s : Session) :
    (c.openLink s).Meets
      (fun o t => o = ⟨⟨s.links.length⟩, ⟨⟨s.links.length⟩, 0⟩⟩ ∧
        (t.link o.link).cursors.length = 1 ∧
        t.trace = .cursor o.cursor :: .connect o.link c.connectParameters :: s.trace)
      fun t => t.trace = s.trace ∨ ∃ l settings, t.trace = .refuse l settings :: s.trace := by
  have hconnect := connect_eq c.connectParameters s
  simp only [Connector.openLink]
  split
  · exact .inl rfl
  -- what the driver has in store decides whether it refuses
  · cases hrefusal : (s.supply.head?.getD {}).refusal with
    | some reason =>
      rw [hrefusal] at hconnect
      rw [bind_of_error hconnect]
      exact .inr ⟨_, _, rfl⟩
    | none =>
      rw [hrefusal] at hconnect
      rw [bind_of_ok hconnect, bind_of_ok (makeCursor_eq _ _)]
      -- a new connection has no cursors before
      have hnew : (withLink s (.connect ⟨s.links.length⟩ c.connectParameters)).link
          ⟨s.links.length⟩ = Link.ofSpec (s.supply.head?.getD {}) := by
        simp [withLink, link]
      rw [hnew]
      exact ⟨rfl, by simp [link, setLink, withLink, Link.addCursor, Link.ofSpec], rfl⟩

/-- The connection is opened with the parameters of the connector. -/
theorem openLink_connects (c : Connector) (s : Session) :
    (c.openLink s).Meets (fun o t => .connect o.link c.connectParameters ∈ since s t)
      fun _ => True := by
  refine (openLink_trace c s).mono (fun o t ht => ?_) fun _ _ => trivial
  obtain ⟨-, -, htrace⟩ := ht
  exact mem_since (htrace ▸ List.suffix_cons _ _)

/-! ## Connections of contexts -/

/-- The connection of a context depends on what the context has. -/
theorem connection_eq (id : ContextId) (s : Session) :
    id.connection s = (match (s.context id).source, (s.context id).opened with
      | .caller link, _ => return link
      | .server .., some o => return .handle o.link
      | .server name overrides, none => do
        let connector ← Connector.ofServer name overrides
        let o ← connector.openLink
        modify fun t => t.setContext id ((s.context id).withOpened o)
        return .handle o.link : Act (Lent LinkId)) s := rfl

/-- A connection is opened for the context, or nothing is. The context makes its cursors on the
connection that was given. -/
theorem connection_outcome (id : ContextId) (s : Session) :
    (id.connection s).Meets
      (fun link t => (Quiet s t ∨ ∃ o, Opens id o s t) ∧ (t.context id).Uses link) (Quiet s) := by
  rw [connection_eq]
  cases hsource : (s.context id).source with
  | caller link =>
    -- a connection of the caller is used as it is
    refine ⟨.inl (Quiet.refl s), ?_⟩
    simp [Context.Uses, hsource]
  | server name overrides =>
    have howns : (s.context id).ownsConnection = true := by
      simp [Context.ownsConnection, hsource]
    cases hopened : (s.context id).opened with
    | some o =>
      -- the connection was opened before
      refine ⟨.inl (Quiet.refl s), ?_⟩
      simp [Context.Uses, hsource, hopened]
    | none =>
      -- finding the connector, opening the connection, and keeping it in the context
      refine meets_bind (P := fun _ => Quiet s) ?_ fun connector t hst => ?_
      · exact ((isCalm_ofServer name overrides).isQuiet s s (Quiet.refl s)).mono (fun _ _ h => h.1)
          fun _ h => h
      · refine meets_bind (P := fun o u => Connects o s u ∧ u.contexts = s.contexts) ?_ ?_
        · refine (openLink_outcome connector t).mono ?_ fun u hu => hst.trans hu
          intro o u hu
          exact ⟨hu.1.before hst, hu.2.trans hst.contexts⟩
        · intro o u hu
          have hid := lt_of_ownsConnection howns
          have hset : (u.setContext id ((s.context id).withOpened o)).contexts =
              s.contexts.set id.index ((s.context id).withOpened o) := by
            rw [setContext, hu.2]
          refine ⟨.inr ⟨o, ⟨⟨hu.1.transactions, hu.1.contextNames, hu.1.controls, hu.1.trace,
            hu.1.links, hu.1.cursors⟩, hu.1.opened, hu.1.closed, hu.1.fresh, hu.1.made,
            hu.1.cursor_link, hu.1.cursor_made⟩, howns, hopened, hset⟩, ?_⟩
          rw [context_of_set hset hid]
          simp [Context.Uses, Context.withOpened, hsource]

/-! ## Cursors of contexts -/

/-- The cursor of a context depends on whether it has one. -/
theorem cursor_eq (id : ContextId) (s : Session) :
    id.cursor s = (match (s.context id).cursor with
      | some cursor => return cursor
      | none => id.connection >>= fun link => do
        let link ← ofExcept (link.orRefuse "cursor")
        let cursor ← link.makeCursor
        modify fun s => s.setContext id { s.context id with cursor := some (.handle cursor) }
        return .handle cursor : Act (Lent CursorId)) s := rfl

/-- A cursor that a context has is given as it is. -/
theorem cursor_of_some {id : ContextId} {s : Session} {k : Lent CursorId}
    (h : (s.context id).cursor = some k) : id.cursor s = .ok k s := by
  rw [cursor_eq, h]
  rfl

/-- A cursor is made on the connection of a context that has no cursor of its own. -/
theorem draw_outcome {id : ContextId} {link : LinkId} {s : Session}
    (hidle : (s.context id).cursor = none ∨
      ∃ o, (s.context id).opened = some o ∧ (s.context id).cursor = some (.handle o.cursor))
    (huses : (s.context id).Uses (.handle link)) :
    ((do
      let cursor ← link.makeCursor
      modify fun s => s.setContext id { s.context id with cursor := some (.handle cursor) }
      return .handle cursor : Act (Lent CursorId)) s).Meets
      (fun k t => ∃ cursor, Draws id cursor s t ∧ k = .handle cursor) fun _ => False := by
  refine meets_bind (makeCursor_outcome _ _) ?_
  -- the driver makes the cursor, and then the context keeps it
  rintro cursor t ⟨ht, hlink, hindex, hmade⟩
  refine ⟨cursor, ⟨⟨ht.transactions, ht.contextNames, ht.controls, ht.trace, ht.links,
    ht.cursors⟩, hidle, ?_, ht.opened, ht.closed, ?_, ?_, ?_⟩, rfl⟩
  · show t.contexts.set id.index _ = _
    rw [ht.contexts]
    -- a context that does not exist is not set
    rcases Nat.lt_or_ge id.index s.contexts.length with hid | hid
    · rw [context_congr ht.contexts hid]
    · rw [List.set_eq_of_length_le hid, List.set_eq_of_length_le hid]
  · exact Nat.le_of_eq (by rw [hlink, hindex])
  · exact fun hmade' => hlink ▸ hmade (hlink ▸ hmade')
  · exact hlink ▸ huses

/-- An opened connection leaves the context without a cursor of its own. -/
theorem Session.Opens.idle {id : ContextId} {o : OpenLink} {s t : Session} (h : Opens id o s t) :
    ∃ o, (t.context id).opened = some o ∧ (t.context id).cursor = some (.handle o.cursor) := by
  have hcontext := context_of_set h.contexts (lt_of_ownsConnection h.owns)
  exact ⟨o, by rw [hcontext]; rfl, by rw [hcontext]; rfl⟩

/-- A context that has no cursor gets one, after its connection was opened if need be. -/
theorem cursor_outcome {id : ContextId} {s : Session} (h : (s.context id).cursor = none) :
    (id.cursor s).Meets
      (fun k t => ∃ u cursor, (Quiet s u ∨ ∃ o, Opens id o s u) ∧ Draws id cursor u t ∧
        k = .handle cursor)
      (fun t => Quiet s t ∨ ∃ o, Opens id o s t) := by
  rw [cursor_eq, h]
  refine meets_bind ((connection_outcome id s).mono_error fun t ht => .inl ht) ?_
  rintro link u ⟨hu, huses⟩
  -- a context may have been given anything as a connection, only a handle has cursors
  cases link with
  | value v => exact hu
  | handle link =>
    refine meets_bind (P := fun l v => link = l ∧ u = v) ⟨rfl, rfl⟩ ?_
    rintro _ _ ⟨rfl, rfl⟩
    -- a connection that was opened just now came with a cursor of its own
    have hidle : (u.context id).cursor = none ∨
        ∃ o, (u.context id).opened = some o ∧ (u.context id).cursor = some (.handle o.cursor) := by
      rcases hu with hu | ⟨o, hu⟩
      · exact .inl ((cursor_congr hu.contexts id).trans h)
      · exact .inr hu.idle
    refine (draw_outcome hidle huses).mono ?_ fun _ hf => hf.elim
    rintro k t ⟨cursor, ht, rfl⟩
    exact ⟨u, cursor, hu, ht, rfl⟩

/-- A cursor is made after the connection of the context was opened. -/
theorem cursor_of_opens {id : ContextId} {o : OpenLink} {s u : Session} {link : LinkId}
    (h : (s.context id).cursor = none) (hconnection : id.connection s = .ok (.handle link) u)
    (hu : Opens id o s u) (huses : (u.context id).Uses (.handle link)) :
    ∃ cursor t, id.cursor s = .ok (.handle cursor) t ∧ Draws id cursor u t := by
  have hdraw := draw_outcome (.inr hu.idle) huses
  -- the connection has been opened, and what is left is to make a cursor on it
  have hread : id.cursor s = (do
      let cursor ← link.makeCursor
      modify fun s => s.setContext id { s.context id with cursor := some (.handle cursor) }
      return .handle cursor : Act (Lent CursorId)) u := by
    rw [cursor_eq, h]
    dsimp only
    rw [bind_of_ok hconnection]
    rfl
  rw [← hread] at hdraw
  cases hresult : id.cursor s with
  | ok k t =>
    rw [hresult] at hdraw
    obtain ⟨cursor, ht, rfl⟩ := hdraw
    exact ⟨cursor, t, rfl, ht⟩
  | error e t =>
    rw [hresult] at hdraw
    exact hdraw.elim

/-- However a context comes to its cursor, it keeps it. -/
theorem cursor_kept {id : ContextId} {s : Session} (hid : id.index < s.contexts.length) :
    (id.cursor s).Meets (fun k t => (t.context id).cursor = some k ∧ s.trace <:+ t.trace)
      fun _ => True := by
  cases hcursor : (s.context id).cursor with
  | some k =>
    rw [cursor_of_some hcursor]
    exact ⟨hcursor, List.suffix_rfl⟩
  | none =>
    refine (cursor_outcome hcursor).mono (fun k t ht => ?_) fun _ _ => trivial
    -- first the connection is opened, if there is none, and then the cursor is made on it
    obtain ⟨u, cursor, hu, ht, rfl⟩ := ht
    have hlength : u.contexts.length = s.contexts.length := by
      rcases hu with hu | ⟨o, hu⟩ <;> simp [hu.contexts]
    have htrace : s.trace <:+ u.trace := by
      rcases hu with hu | ⟨o, hu⟩ <;> exact hu.trace
    rw [context_of_set ht.contexts (hlength ▸ hid)]
    exact ⟨rfl, htrace.trans ht.trace⟩

/-- A statement runs on the cursor that the context has from then on. -/
theorem runText_outcome {id : ContextId} {s : Session} (hid : id.index < s.contexts.length)
    (sql : String) :
    (id.runText sql s).Meets
      (fun cursor t => (t.context id).cursor = some (.handle cursor) ∧
        ∃ before, t.trace = .execute cursor (.str sql) none none :: before ∧ s.trace <:+ before)
      fun _ => True := by
  refine meets_bind (cursor_kept hid) ?_
  rintro (cursor | v) t ⟨hcursor, htrace⟩
  · show ((do cursor.execute (.str sql) none; return cursor : Act CursorId) t).Meets _ _
    refine meets_bind ((execute_outcome cursor (.str sql) none t).mono_error fun _ _ => trivial) ?_
    rintro _ u ⟨hu, hexecute⟩
    exact ⟨by rw [cursor_congr hu.contexts, hcursor], t.trace, hexecute, htrace⟩
  -- what is no cursor runs nothing
  · exact trivial

/-- A statement on a context that has a cursor is sent to it, and that is all. -/
theorem runText_of_cursor {id : ContextId} {s : Session} {cursor : CursorId}
    (h : (s.context id).cursor = some (.handle cursor)) (sql : String) :
    (id.runText sql s).Meets
      (fun k t => k = cursor ∧ Quiet s t ∧
        t.trace = .execute cursor (.str sql) none none :: s.trace)
      fun t => Quiet s t ∧
        ∃ reason, t.trace = .execute cursor (.str sql) none (some reason) :: s.trace := by
  -- the cursor is at hand, so that only the statement is left
  have hread : id.runText sql s =
      (do cursor.execute (.str sql) none; return cursor : Act CursorId) s := by
    show (id.cursor >>= _) s = _
    rw [bind_of_ok (cursor_of_some h)]
    rfl
  rw [hread]
  exact meets_bind (execute_outcome cursor (.str sql) none s) fun _ t ht => ⟨rfl, ht⟩

/-! ## Statements on contexts -/

/-- The property survives quiet changes, and connections and cursors of contexts in `free`. -/
structure Rides (J : Session → Prop) (free : ContextId → Prop) : Prop where
  quiet : ∀ {s t}, Quiet s t → J s → J t
  opens : ∀ {id o s t}, free id → Opens id o s t → J s → J t
  draws : ∀ {id k s t}, free id → Draws id k s t → J s → J t

/-- What no access to a connection changes stays in any case. -/
theorem rides_advances (s : Session) (free : ContextId → Prop) : Rides (Advances s) free where
  quiet := fun ht h => h.trans ht.toAdvances
  opens := fun _ ht h => h.trans ht.toAdvances
  draws := fun _ ht h => h.trans ht.toAdvances

/-- Two conditions that survive are survived by both. -/
theorem Rides.and {J K : Session → Prop} {free : ContextId → Prop} (hJ : Rides J free)
    (hK : Rides K free) : Rides (fun s => J s ∧ K s) free where
  quiet := fun ht h => ⟨hJ.quiet ht h.1, hK.quiet ht h.2⟩
  opens := fun hid ht h => ⟨hJ.opens hid ht h.1, hK.opens hid ht h.2⟩
  draws := fun hid ht h => ⟨hJ.draws hid ht h.1, hK.draws hid ht h.2⟩

namespace Rides

variable {J : Session → Prop} {free : ContextId → Prop} {id : ContextId}

/-- What is quiet keeps a condition that survives. -/
theorem keeps_quiet {α : Type} (h : Rides J free) {x : Act α} (hx : IsQuiet x) : Keeps J x :=
  hx.keeps h.quiet

private theorem opened (h : Rides J free) (hid : free id) {s t : Session}
    (ht : Quiet s t ∨ ∃ o, Opens id o s t) (hs : J s) : J t := by
  rcases ht with ht | ⟨o, ht⟩
  · exact h.quiet ht hs
  · exact h.opens hid ht hs

/-- Reading the connection keeps a condition that survives opening. -/
theorem keeps_connection (h : Rides J free) (hid : free id) : Keeps J id.connection := by
  intro s hs
  refine (connection_outcome id s).mono (fun link t ht => ?_) fun t ht => h.quiet ht hs
  exact ⟨h.opened hid ht.1 hs, trivial⟩

/-- Reading the cursor keeps a condition that survives opening. -/
theorem keeps_cursor (h : Rides J free) (hid : free id) : Keeps J id.cursor := by
  intro s hs
  cases hcursor : (s.context id).cursor with
  | some k =>
    rw [cursor_of_some hcursor]
    exact ⟨hs, trivial⟩
  | none =>
    refine (cursor_outcome hcursor).mono (fun k t ht => ?_) fun t ht => h.opened hid ht hs
    obtain ⟨u, cursor, hu, ht, _⟩ := ht
    exact ⟨h.draws hid ht (h.opened hid hu hs), trivial⟩

/-- Statements keep what survives the access to their context. -/
theorem keeps_run (h : Rides J free) (hid : free id) (sql : Value) (bindings : Option Value) :
    Keeps J (id.run sql bindings) := by
  rw [ContextId.run]
  exact (h.keeps_cursor hid).bind fun cursor =>
    (keeps_ofExcept _).bind fun values =>
    (keeps_ofExcept _).bind fun cursor =>
    (h.keeps_quiet (isQuiet_execute cursor sql values)).bind fun _ => keeps_pure cursor

/-- Running a statement for many rows keeps a condition that survives opening. -/
theorem keeps_runMany (h : Rides J free) (hid : free id) (sql rows : Value) :
    Keeps J (id.runMany sql rows) := by
  rw [ContextId.runMany]
  exact (h.keeps_cursor hid).bind fun cursor =>
    (keeps_ofExcept _).bind fun values =>
    (keeps_ofExcept _).bind fun cursor =>
    (keeps_ofExcept _).bind fun rows =>
    (h.keeps_quiet (isQuiet_executeMany cursor sql rows)).bind fun _ => keeps_pure cursor

end Rides

/-- On a context that has a cursor, a statement keeps what this cursor keeps. -/
theorem keeps_run_of_cursor {J : Session → Prop} {c : ContextId} {k : CursorId} {sql : Value}
    (hcursor : ∀ {s}, J s → (s.context c).cursor = some (.handle k))
    (hexecute : ∀ values, Keeps J (k.execute sql values)) (bindings : Option Value) :
    Keeps J (c.run sql bindings) := by
  intro s hs
  have hrest : Keeps J (do
      let values ← ofExcept (bindings.mapM Value.items)
      k.execute sql values
      return k : Act CursorId) :=
    (keeps_ofExcept _).bind fun values => (hexecute values).bind fun _ => keeps_pure k
  rw [ContextId.run, bind_of_ok (cursor_of_some (hcursor hs))]
  exact hrest s hs

/-! ## Closing contexts -/

/-- What closing a context does depends on what the context has. -/
theorem close_eq (id : ContextId) (s : Session) :
    id.close s = (match (s.context id).opened with
      | some o => do
        o.close
        modify fun t => t.setContext id (s.context id).withoutOpened
      | none => return : Act Unit) s := rfl

/-- A context that has opened nothing is closed without doing anything. -/
theorem close_of_unopened {id : ContextId} {s : Session} (h : (s.context id).opened = none) :
    id.close s = .ok () s := by
  rw [close_eq, h]
  rfl

/-- Otherwise the cursor that came with the connection is closed, and the connection. -/
theorem close_of_opened {id : ContextId} {s : Session} {o : OpenLink}
    (h : (s.context id).opened = some o) :
    ∃ t, id.close s = .ok () t ∧
      t.contexts = s.contexts.set id.index (s.context id).withoutOpened ∧ t.links = s.links ∧
      t.trace = .closeLink o.link :: .closeCursor o.cursor :: s.trace := by
  rw [close_eq, h]
  exact ⟨_, rfl, rfl, rfl, rfl⟩

/-- Closing a context closes the connection that it has, if there is one, and never fails. -/
theorem close_outcome (id : ContextId) (s : Session) :
    (id.close s).Meets
      (fun _ t => match (s.context id).opened with
        | some o => Closes id o s t
        | none => t = s) fun _ => False := by
  rw [close_eq]
  cases hopened : (s.context id).opened with
  | some o =>
    have hs := Advances.refl s
    refine ⟨⟨rfl, rfl, rfl, ?_, hs.links, hs.cursors⟩, hopened, rfl, rfl, rfl⟩
    exact (List.suffix_cons _ _).trans (List.suffix_cons _ _)
  | none => exact rfl

/-- Closing keeps what survives it. -/
theorem keeps_close {J : Session → Prop} {id : ContextId}
    (h : ∀ {o s t}, Closes id o s t → J s → J t) : Keeps J id.close := by
  intro s hs
  refine (close_outcome id s).mono (fun _ t ht => ?_) fun _ hf => hf.elim
  cases hopened : (s.context id).opened with
  | some o =>
    rw [hopened] at ht
    exact ⟨h ht hs, trivial⟩
  | none =>
    rw [hopened] at ht
    exact ⟨ht ▸ hs, trivial⟩

end Querysmith
