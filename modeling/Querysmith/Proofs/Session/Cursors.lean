import Querysmith.Proofs.Session.Lives

/-!
# Cursors of contexts for servers

A context for a server hands out the cursor that comes with its connection if the connection was
read first, and one that it makes besides if the cursor was asked for first. However the context is
used, each of its connections is opened, used and closed in one of these two ways, and only the
first leaves no cursor open.

## Main definitions

- `Still`: a quiet change that does nothing to connections and cursors
- `Starts`: a new connection with one cursor on it
- `Context.Working`, `Stays`: a context for a server, with what it has
- `Delivers`: one statement at most is sent on a cursor
- `Done`: what a use of a context for a server has done
- `Logs`: a row of uses, with other things in between, and what each of them did

## Key results

- `attempt_outcome`: an attempt to open a connection
- `Stays.done`: what each use of a context does
- `Stays.orderly`: every row of uses is orderly
- `tidy_iff_connection_read`: which connections are left without an open cursor
-/

namespace Querysmith

open Session EStateM

variable {α β : Type} {id : ContextId} {name : Value} {overrides : Entries} {s t u : Session}

/-! ## Changes -/

/-- A quiet change that does nothing to connections and cursors. -/
structure Still (s t : Session) : Prop extends Quiet s t where
  deeds : deeds s t = []

theorem Still.refl (s : Session) : Still s s := ⟨Quiet.refl s, deeds_self s⟩

/-- Two still stretches are one. -/
theorem Still.trans (h : Still s t) (h' : Still t u) : Still s u where
  toQuiet := h.toQuiet.trans h'.toQuiet
  deeds := by rw [deeds_trans h.trace h'.trace, h.deeds, h'.deeds, List.nil_append]

/-- An event that is no deed. -/
theorem still_event {e : Event} (h : e.deed? = none) :
    Still s { s with trace := e :: s.trace } := by
  -- opening and closing connections are deeds
  have hnone : e.opened? = none ∧ e.closed? = none := by
    cases e with
    | connect | closeLink => cases h
    | _ => exact ⟨rfl, rfl⟩
  refine ⟨(isQuiet_emit hnone.1 hnone.2).state s, ?_⟩
  rw [deeds_of_trace (List.singleton_append (x := e) (l := s.trace)).symm]
  simp [h]

/-- Making a connector does nothing to connections and cursors. -/
theorem ofServer_still (name : Value) (overrides : Entries) (s : Session) :
    (Connector.ofServer name overrides s).Meets (fun _ => Still s) (Still s) := by
  have hsurvives : SurvivesLookups (Still s) :=
    { keyring := fun _ _ h => h.trans (still_event rfl)
      loadKey := fun _ _ h => h.trans (still_event rfl) }
  exact (hsurvives.keeps_ofServer name overrides).meets (Still.refl s)

/-- A connection is opened. It has one cursor. -/
structure Starts (o : OpenLink) (s t : Session) : Prop extends Advances s t where
  contexts : t.contexts = s.contexts
  fresh : s.links.length ≤ o.link.index
  made : o.link.index < t.links.length
  first : o.cursor = ⟨o.link, 0⟩
  single : (t.link o.link).cursors.length = 1
  deeds : deeds s t = [.opens o.link, .makes ⟨o.link, 0⟩]

/-- An attempt opens a connection with one cursor, or does nothing. -/
theorem attempt_outcome (name : Value) (overrides : Entries) (s : Session) :
    (attempt name overrides s).Meets (fun o t => Starts o s t) (Still s) := by
  refine meets_bind (ofServer_still name overrides s) fun connector t ht => ?_
  -- what was looked up for the connector is no deed, so the deeds are those of opening it
  refine ((openLink_outcome connector t).and (openLink_trace connector t)).mono ?_ ?_
  · rintro o u ⟨⟨hconnects, hcontexts⟩, rfl, hsingle, htrace⟩
    have hdeeds := deeds_of_trace
      (show u.trace = [Event.cursor _, .connect _ _] ++ t.trace from htrace)
    refine ⟨ht.toAdvances.trans hconnects.toAdvances, hcontexts.trans ht.contexts,
      Nat.le_trans ht.links hconnects.fresh, hconnects.made, rfl, hsingle, ?_⟩
    rw [deeds_trans ht.trace hconnects.trace, ht.deeds, hdeeds]
    rfl
  · rintro u ⟨hquiet, htrace⟩
    refine ht.trans ⟨hquiet, ?_⟩
    rcases htrace with htrace | ⟨l, settings, htrace⟩
    · exact deeds_of_trace (htrace.trans (List.nil_append _).symm)
    · exact deeds_of_trace (show u.trace = [.refuse l settings] ++ t.trace from htrace)

/-- A cursor is made on a connection and becomes the one of a context. -/
theorem draw_eq (l : LinkId) (hid : id.index < s.contexts.length) :
    ∃ t, (do
      let cursor ← l.makeCursor
      modify fun s => s.setContext id { s.context id with cursor := some (.handle cursor) }
      return .handle cursor : Act (Lent CursorId)) s =
        .ok (.handle ⟨l, (s.link l).cursors.length⟩) t ∧
      t.contexts = s.contexts.set id.index
        { s.context id with cursor := some (.handle ⟨l, (s.link l).cursors.length⟩) } ∧
      t.links.length = s.links.length ∧
      t.trace = .cursor ⟨l, (s.link l).cursors.length⟩ :: s.trace := by
  -- making the cursor leaves the contexts alone
  obtain ⟨t, hmake, hcontexts, hlinks, htrace⟩ : ∃ t,
      l.makeCursor s = .ok ⟨l, (s.link l).cursors.length⟩ t ∧ t.contexts = s.contexts ∧
      t.links.length = s.links.length ∧
      t.trace = .cursor ⟨l, (s.link l).cursors.length⟩ :: s.trace :=
    ⟨_, makeCursor_eq l s, rfl, by simp [setLink], rfl⟩
  rw [bind_of_ok hmake]
  refine ⟨_, rfl, ?_, hlinks, htrace⟩
  show t.contexts.set id.index { t.context id with cursor := some _ } = _
  rw [context_congr hcontexts hid, hcontexts]

/-! ## What a context has -/

/-- A context for a server has nothing, or the connection that a use has opened, and then the cursor
that is used since. -/
def Context.Working (c : Context) : Option (Use × LinkId) → Prop
  | none => c.opened = none ∧ c.cursor = none
  | some (use, l) => c.opened = some ⟨l, ⟨l, 0⟩⟩ ∧ c.cursor = some (.handle (use.cursorOn l))

/-- A context for a server, with what it has. -/
structure Stays (id : ContextId) (name : Value) (overrides : Entries)
    (held : Option (Use × LinkId)) (s : Session) : Prop where
  made : id.index < s.contexts.length
  source : (s.context id).source = .server name overrides
  working : (s.context id).Working held
  known : ∀ use l, held = some (use, l) → l.index < s.links.length

namespace Stays

variable {held : Option (Use × LinkId)} {use : Use} {l : LinkId} {o : OpenLink}

/-- A use stays what it was while its context is not touched. -/
theorem unchanged (h : Stays id name overrides held s)
    (hcontext : t.contexts[id.index]? = s.contexts[id.index]?)
    (hlinks : s.links.length ≤ t.links.length) : Stays id name overrides held t := by
  obtain ⟨hmade, hsame⟩ := kept_of_getElem? hcontext h.made
  refine ⟨hmade, ?_, ?_, fun use l hheld => Nat.lt_of_lt_of_le (h.known use l hheld) hlinks⟩
  · rw [hsame, h.source]
  · rw [hsame]
    exact h.working

/-- The context was changed last. -/
theorem of_set {c : Context} (h : Stays id name overrides held s)
    (hset : t.contexts = s.contexts.set id.index c) (hsource : c.source = (s.context id).source)
    {held' : Option (Use × LinkId)} (hworking : c.Working held')
    (hknown : ∀ use l, held' = some (use, l) → l.index < t.links.length) :
    Stays id name overrides held' t := by
  refine ⟨by simpa [hset] using h.made, ?_, ?_, hknown⟩
  · rw [context_of_set hset h.made, hsource, h.source]
  · rwa [context_of_set hset h.made]

/-- A quiet stretch does not touch it. -/
theorem quiet (h : Stays id name overrides held s) (ht : Quiet s t) :
    Stays id name overrides held t := h.unchanged (by rw [ht.contexts]) ht.links

/-- What is held is what the record of the use says. -/
theorem held_eq (h : Stays id name overrides held s) : s.held id = held.map Prod.snd := by
  have hworking := h.working
  cases held with
  | none => rw [Session.held, hworking.1]; rfl
  | some opening => rw [Session.held, hworking.1]; rfl

/-- The connection is opened by an attempt. -/
theorem connection_eq_attempt (h : Stays id name overrides none s) :
    id.connection s = (attempt name overrides >>= fun o => do
      modify fun t => t.setContext id ((s.context id).withOpened o)
      return .handle o.link : Act (Lent LinkId)) s := by
  rw [connection_eq, h.source, h.working.1, attempt, bind_assoc]

end Stays

/-- A use has opened a connection for the context and made its cursors. -/
structure Opening (id : ContextId) (name : Value) (overrides : Entries) (use : Use) (l : LinkId)
    (s t : Session) : Prop where
  stays : Stays id name overrides (some (use, l)) t
  trace : s.trace <:+ t.trace
  fresh : s.links.length ≤ l.index
  deeds : deeds s t = life use l 0 false

namespace Stays

variable {held : Option (Use × LinkId)} {use : Use} {l : LinkId} {o : OpenLink}

/-- Where the attempt fails, neither connection nor cursor is had. -/
theorem fails_of_attempt (h : Stays id name overrides none s) {e : Error}
    (hattempt : attempt name overrides s = .error e t) :
    id.connection s = .error e t ∧ id.cursor s = .error e t ∧ Still s t := by
  have hstill := attempt_outcome name overrides s
  rw [hattempt] at hstill
  have hconnection : id.connection s = .error e t := by
    rw [h.connection_eq_attempt]
    exact bind_of_error hattempt _
  refine ⟨hconnection, ?_, hstill⟩
  rw [cursor_eq, h.working.2]
  exact bind_of_error hconnection _

/-- Reading the connection opens it, with the cursor that comes with it. -/
theorem connection_of_attempt (h : Stays id name overrides none s)
    (hattempt : attempt name overrides s = .ok o t) :
    ∃ u, id.connection s = .ok (.handle o.link) u ∧
      Opening id name overrides .connection o.link s u ∧ (u.link o.link).cursors.length = 1 := by
  have hstarts := attempt_outcome name overrides s
  rw [hattempt] at hstarts
  have hstarts : Starts o s t := hstarts
  -- the connection that was attempted is kept in the context
  refine ⟨t.setContext id ((s.context id).withOpened o), ?_, ⟨?_, hstarts.trace, hstarts.fresh,
    hstarts.deeds⟩, hstarts.single⟩
  · rw [h.connection_eq_attempt, bind_of_ok hattempt]
    rfl
  · have hset : (t.setContext id ((s.context id).withOpened o)).contexts =
        s.contexts.set id.index ((s.context id).withOpened o) := by
      rw [setContext, hstarts.contexts]
    -- the context takes the first cursor over as its own
    have hopen : o = ⟨o.link, ⟨o.link, 0⟩⟩ := by
      rw [← hstarts.first]
    refine h.of_set hset rfl ⟨congrArg some hopen, ?_⟩ ?_
    · rw [Context.withOpened, hstarts.first]
      rfl
    · rintro _ _ ⟨⟩
      exact hstarts.made

/-- Asking for the cursor opens the connection too, and makes one more cursor. -/
theorem cursor_of_attempt (h : Stays id name overrides none s)
    (hattempt : attempt name overrides s = .ok o t) (huse : use.readsConnection = false) :
    ∃ u, id.cursor s = .ok (.handle ⟨o.link, 1⟩) u ∧
      Opening id name overrides use o.link s u := by
  obtain ⟨v, hconnection, hopening, hsingle⟩ := h.connection_of_attempt hattempt
  have hstays := hopening.stays
  -- one cursor came with the connection, so the one that is asked for is the second
  obtain ⟨u, hdraw, hset, hlinks, htrace⟩ := draw_eq o.link hstays.made
  rw [hsingle] at hdraw hset htrace
  have hcursor : id.cursor s = .ok (.handle ⟨o.link, 1⟩) u := by
    rw [← hdraw, cursor_eq, h.working.2]
    dsimp only
    rw [bind_of_ok hconnection]
    rfl
  have hsecond : use.cursorOn o.link = ⟨o.link, 1⟩ := by simp [Use.cursorOn, huse]
  have hsuffix : v.trace <:+ u.trace := htrace ▸ List.suffix_cons _ _
  refine ⟨u, hcursor, hstays.of_set hset rfl ⟨hstays.working.1, by rw [hsecond]⟩ ?_,
    hopening.trace.trans hsuffix, hopening.fresh, ?_⟩
  · rintro _ _ ⟨⟩
    rw [hlinks]
    exact hstays.known _ _ rfl
  · -- the first cursor came with the connection, and the second one comes behind it
    have hmakes : Session.deeds v u = [.makes ⟨o.link, 1⟩] :=
      deeds_of_trace (show u.trace = [.cursor ⟨o.link, 1⟩] ++ v.trace from htrace)
    have hfirst : Use.connection.drawn o.link = [⟨o.link, 0⟩] := rfl
    have hboth : use.drawn o.link = [⟨o.link, 0⟩, ⟨o.link, 1⟩] := by simp [Use.drawn, huse]
    rw [deeds_trans hopening.trace hsuffix, hopening.deeds, hmakes]
    simp [life, hfirst, hboth]

end Stays

/-! ## Uses -/

/-- One statement is sent at most, on this cursor. -/
def Delivers (k : CursorId) (x : Act α) : Prop :=
  ∀ s, Quiet s (x s).state ∧
    (deeds s (x s).state = [] ∨ deeds s (x s).state = [.sends k])

section Delivers

variable {k : CursorId}

/-- What does nothing sends nothing to the cursor. -/
theorem delivers_pure (k : CursorId) (a : α) : Delivers k (pure a : Act α) :=
  fun s => ⟨Quiet.refl s, .inl (deeds_self s)⟩

/-- A check before a statement sends nothing. -/
theorem delivers_ofExcept_bind {x : Except Error β} {f : β → Act α}
    (h : ∀ b, x = .ok b → Delivers k (f b)) : Delivers k (ofExcept x >>= f) := by
  intro s
  cases x with
  | error e => exact delivers_pure k () s
  | ok b => exact h b rfl s

/-- What was sent stays so when a value is given. -/
theorem Delivers.bind_pure {x : Act α} (h : Delivers k x) (b : β) :
    Delivers k (x >>= fun _ => pure b) := by
  intro s
  rw [state_bind_pure]
  exact h s

/-- A quiet action that records a statement on a cursor delivers it there. -/
theorem delivers_of_sent {x : Act α} (hquiet : IsQuiet x)
    (htrace : ∀ s, ∃ e : Event, e.deed? = some (.sends k) ∧ (x s).state.trace = e :: s.trace) :
    Delivers k x := by
  intro s
  obtain ⟨e, he, htrace⟩ := htrace s
  refine ⟨hquiet.state s, .inr ?_⟩
  rw [deeds_of_trace (show _ = [e] ++ s.trace from htrace)]
  simp [he]

/-- Raising a failure changes nothing. -/
theorem state_raise (failure : Option String) (s : Session) :
    (CursorId.raise failure s).state = s := by
  cases failure <;> rfl

/-- A statement is sent to its cursor. -/
theorem delivers_execute (k : CursorId) (sql : Value) (bindings : Option (List Value)) :
    Delivers k (k.execute sql bindings) :=
  delivers_of_sent (isQuiet_execute k sql bindings) fun _ =>
    ⟨.execute k sql bindings _, rfl, congrArg trace (state_raise _ _)⟩

/-- A statement for many rows is sent to its cursor. -/
theorem delivers_executeMany (k : CursorId) (sql : Value) (rows : List (List Value)) :
    Delivers k (k.executeMany sql rows) :=
  delivers_of_sent (isQuiet_executeMany k sql rows) fun _ =>
    ⟨.executeMany k sql rows _, rfl, congrArg trace (state_raise _ _)⟩

end Delivers

/-- Every access but reading the connection comes to a cursor and sends one statement on it at
most. -/
theorem Use.exists_delivers {use : Use} (h : use.isAccess = true)
    (hreads : use.readsConnection = false) (id : ContextId) :
    ∃ rest : Lent CursorId → Act Unit, (∀ k, Delivers k (rest (.handle k))) ∧
      use.act id = id.cursor >>= rest := by
  cases use with
  | connection => cases hreads
  | cursor => exact ⟨fun _ => pure (), fun k => delivers_pure k (), by rw [act]⟩
  | run sql bindings =>
    refine ⟨_, fun k => ?_, by rw [act, ContextId.run, bind_assoc]⟩
    refine Delivers.bind_pure (delivers_ofExcept_bind fun values _ =>
      delivers_ofExcept_bind fun cursor hcursor => ?_) ()
    -- the handle of a cursor is not refused
    obtain rfl : k = cursor := Except.ok.inj hcursor
    exact (delivers_execute k sql values).bind_pure k
  | runMany sql rows =>
    refine ⟨_, fun k => ?_, by rw [act, ContextId.runMany, bind_assoc]⟩
    refine Delivers.bind_pure (delivers_ofExcept_bind fun _ _ =>
      delivers_ofExcept_bind fun cursor hcursor => delivers_ofExcept_bind fun rows _ => ?_) ()
    obtain rfl : k = cursor := Except.ok.inj hcursor
    exact (delivers_executeMany k sql rows).bind_pure k
  | close => cases h
  | within => cases h

/-- What a use of a context for a server has done. -/
structure Done (id : ContextId) (name : Value) (overrides : Entries)
    (held : Option (Use × LinkId)) (use : Use) (s t : Session) (held' : Option (Use × LinkId)) :
    Prop where
  does : Does held use (deeds s t) held'
  stays : Stays id name overrides held' t
  links : s.links.length ≤ t.links.length
  fresh : ∀ l, .opens l ∈ deeds s t → s.links.length ≤ l.index

section Done

variable {held : Option (Use × LinkId)} {use opener : Use} {l : LinkId}

/-- A use that does nothing leaves what is held. -/
theorem Stays.done_nothing (h : Stays id name overrides held s)
    (hclose : use = .close → held = none) (ht : Still s t) :
    Done id name overrides held use s t held :=
  ⟨ht.deeds ▸ .nothing hclose, h.quiet ht.toQuiet, ht.links, by simp [ht.deeds]⟩

/-- A connection was opened, and a statement may have been sent then. -/
theorem Opening.done (h : Opening id name overrides use l s t) (huse : use.isAccess = true)
    (hquiet : Quiet t u)
    (hsent : Session.deeds t u = [] ∨ Session.deeds t u = [.sends (use.cursorOn l)]) :
    Done id name overrides none use s u (some (use, l)) := by
  -- the deeds are the opening, and at most one statement on the cursor
  obtain ⟨n, hn, hdeeds⟩ : ∃ n ≤ 1, Session.deeds s u = life use l n false := by
    rw [deeds_trans h.trace hquiet.trace, h.deeds]
    rcases hsent with hsent | hsent
    · exact ⟨0, Nat.zero_le 1, by rw [hsent, List.append_nil]⟩
    · exact ⟨1, Nat.le_refl 1, by rw [hsent, life_append_sends]⟩
  have hlinks : s.links.length ≤ t.links.length :=
    Nat.le_trans h.fresh (Nat.le_of_lt (h.stays.known use l rfl))
  -- connections that were opened here are newer than any before
  refine ⟨hdeeds ▸ .opens huse hn, h.stays.quiet hquiet, Nat.le_trans hlinks hquiet.links,
    fun l' hl' => ?_⟩
  rw [hdeeds] at hl'
  obtain rfl : l' = l := link_of_mem_life hl'
  exact h.fresh

/-- Where the context has a connection, an access opens no other one. -/
theorem Stays.done_of_some (h : Stays id name overrides (some (opener, l)) s)
    (huse : use.isAccess = true) :
    Done id name overrides (some (opener, l)) use s (use.act id s).state
      (some (opener, l)) := by
  -- an access is no closing
  have hclose : use = .close → some (opener, l) = none := by
    rintro rfl
    cases huse
  cases hreads : use.readsConnection with
  | true =>
    obtain rfl := Use.readsConnection_iff.1 hreads
    have hconnection : id.connection s = .ok (.handle l) s := by
      rw [connection_eq, h.source, h.working.1]
      rfl
    rw [Use.act, bind_of_ok hconnection]
    exact h.done_nothing hclose (.refl s)
  | false =>
    obtain ⟨rest, hrest, hact⟩ := Use.exists_delivers huse hreads id
    rw [hact, bind_of_ok (cursor_of_some h.working.2)]
    obtain ⟨hquiet, hsent | hsent⟩ := hrest (opener.cursorOn l) s
    · exact h.done_nothing hclose ⟨hquiet, hsent⟩
    · exact ⟨hsent ▸ .sends huse, h.quiet hquiet, hquiet.links, by simp [hsent]⟩

/-- Where it has none, an access opens one or fails. -/
theorem Stays.done_of_none (h : Stays id name overrides none s) (huse : use.isAccess = true) :
    ∃ held', Done id name overrides none use s (use.act id s).state held' := by
  cases hattempt : attempt name overrides s with
  | error e t =>
    obtain ⟨hconnection, -, hstill⟩ := h.fails_of_attempt hattempt
    rw [use.act_of_error huse h.working.2 hconnection]
    exact ⟨none, h.done_nothing (fun _ => rfl) hstill⟩
  | ok o t =>
    refine ⟨some (use, o.link), ?_⟩
    -- reading the connection takes its first cursor; any other access draws one more
    cases hreads : use.readsConnection with
    | true =>
      obtain rfl := Use.readsConnection_iff.1 hreads
      obtain ⟨u, hconnection, hopening, -⟩ := h.connection_of_attempt hattempt
      rw [Use.act, bind_of_ok hconnection]
      exact hopening.done huse (.refl u) (.inl (deeds_self u))
    | false =>
      obtain ⟨u, hcursor, hopening⟩ := h.cursor_of_attempt hattempt hreads
      obtain ⟨rest, hrest, hact⟩ := Use.exists_delivers huse hreads id
      have hmore : use.cursorOn o.link = ⟨o.link, 1⟩ := by simp [Use.cursorOn, hreads]
      rw [hact, bind_of_ok hcursor, ← hmore]
      obtain ⟨hquiet, hsent⟩ := hrest (use.cursorOn o.link) u
      exact hopening.done huse hquiet hsent

/-- Closing the context closes the connection that it has and the first cursor on it. -/
theorem Stays.done_close (h : Stays id name overrides held s) :
    Done id name overrides held .close s (Use.close.act id s).state none := by
  rw [Use.act]
  -- without a connection closing does nothing, otherwise it releases the cursor first
  cases held with
  | none =>
    rw [close_of_unopened h.working.1]
    exact h.done_nothing (fun _ => rfl) (.refl s)
  | some opening =>
    obtain ⟨opener, l⟩ := opening
    obtain ⟨u, hclose, hset, hlinks, htrace⟩ := close_of_opened h.working.1
    have hdeeds : deeds s u = [.releases ⟨l, 0⟩, .closes l] :=
      deeds_of_trace (show u.trace = [.closeLink l, .closeCursor ⟨l, 0⟩] ++ s.trace from htrace)
    rw [hclose]
    exact ⟨hdeeds ▸ .closes, h.of_set hset rfl ⟨rfl, rfl⟩ nofun,
      Nat.le_of_eq (congrArg List.length hlinks.symm),
      by simp [Result.state, hdeeds]⟩

/-- Whatever a use does, it is one of a few things. -/
theorem Stays.done (h : Stays id name overrides held s)
    (huse : use.isAccess = true ∨ use = .close) :
    ∃ held', Done id name overrides held use s (use.act id s).state held' := by
  rcases huse with huse | rfl
  · cases held with
    | none => exact h.done_of_none huse
    | some opening => exact ⟨some opening, h.done_of_some huse⟩
  · exact ⟨none, h.done_close⟩

end Done

/-! ## Rows of uses -/

/-- A row of uses of a context, from one session to a later one, each with what it did. In between
anything may happen that leaves the context alone. -/
inductive Logs (id : ContextId) (s : Session) : List (Use × List Deed) → Session → Prop where
  | start : Logs id s [] s
  | use {log t} (use : Use) : use.isAccess = true ∨ use = .close → Logs id s log t →
      Logs id s (log ++ [(use, deeds t (use.act id t).state)]) (use.act id t).state
  | meanwhile {log t u} : Logs id s log t → u.contexts[id.index]? = t.contexts[id.index]? →
      t.links.length ≤ u.links.length → Logs id s log u

/-- The deeds of a use are on a connection that was there or that it has opened. -/
theorem Done.link_lt {held held' : Option (Use × LinkId)} {use : Use}
    (h : Done id name overrides held use s t held') (hs : Stays id name overrides held s)
    {d : Deed} (hd : d ∈ deeds s t) : d.link.index < t.links.length := by
  have hdoes := h.does
  have hknown := h.stays.known
  generalize deeds s t = ds at hdoes hd
  -- one case for each use: nothing, a statement, an opening, a closing
  cases hdoes with
  | nothing => cases hd
  | @sends opener l _ _ =>
    rw [List.mem_singleton.1 hd, Deed.link, Use.link_cursorOn]
    exact hknown opener l rfl
  | @opens _ l n _ _ =>
    rw [link_of_mem_life hd]
    exact hknown use l rfl
  | @closes opener l =>
    have hold := Nat.lt_of_lt_of_le (hs.known opener l rfl) h.links
    rcases List.mem_pair.1 hd with rfl | rfl <;> exact hold

/-- Through every row of uses, a context for a server does as it should with connections that are
new each time. -/
theorem Stays.orderly {log : List (Use × List Deed)} (h : Stays id name overrides none s)
    (hlog : Logs id s log t) :
    ∃ held, Orderly log held ∧ Stays id name overrides held t ∧
      ∀ d ∈ deedsOf log, d.link.index < t.links.length := by
  -- induction on the row of uses: what it did is on connections that were made by then
  induction hlog with
  | start => exact ⟨none, .nothing, h, by simp [deedsOf]⟩
  | @use log t use huse _ ih =>
    obtain ⟨held, horderly, hstays, hknown⟩ := ih
    obtain ⟨held', hdone⟩ := hstays.done huse
    refine ⟨held', .step horderly hdone.does fun l hl d hd hlink => ?_, hdone.stays, fun d hd => ?_⟩
    · have hold := hknown d hd
      have hnew := hdone.fresh l hl
      rw [hlink] at hold
      omega
    · rw [deedsOf_concat] at hd
      rcases List.mem_append.1 hd with hd | hd
      · exact Nat.lt_of_lt_of_le (hknown d hd) hdone.links
      · exact hdone.link_lt hstays hd
  | meanwhile _ hcontext hlinks ih =>
    obtain ⟨held, horderly, hstays, hknown⟩ := ih
    exact ⟨held, horderly, hstays.unchanged hcontext hlinks, fun d hd =>
      Nat.lt_of_lt_of_le (hknown d hd) hlinks⟩

/-- However a context for a server is used, it only touches connections that it has opened, and each
of them has the life that the use that has opened it starts. It has one cursor, on which all
statements run and which is closed with it, if and only if that use was reading the connection. An
access to the cursor comes to the first cursor of a new connection or to the second one, by whether
the connection was read before. -/
theorem tidy_iff_connection_read {log : List (Use × List Deed)}
    (hcontext : s.contexts[id.index]? = some (.ofServer name overrides)) (hlog : Logs id s log t) :
    (∀ d ∈ deedsOf log, .opens d.link ∈ deedsOf log) ∧
    (∀ use ds l, (use, ds) ∈ log → .opens l ∈ ds →
      (∃ n, Deed.on l (deedsOf log) = life use l n (decide (t.held id ≠ some l))) ∧
        (Tidy l (deedsOf log) ↔ use.readsConnection = true)) ∧
    ∀ o u, t.held id = none → attempt name overrides t = .ok o u →
      (id.cursor t).value? = some (.handle ⟨o.link, 1⟩) ∧
        ((id.connection >>= fun _ => id.cursor) t).value? = some (.handle ⟨o.link, 0⟩) := by
  have hc : s.context id = .ofServer name overrides := by
    rw [Session.context, hcontext]
    rfl
  -- a new context has nothing
  have hstart : Stays id name overrides none s := by
    refine ⟨(List.getElem?_eq_some_iff.1 hcontext).1, ?_, ?_, ?_⟩
    · rw [hc]
      rfl
    · rw [hc]
      exact ⟨rfl, rfl⟩
    · rintro use l ⟨⟩
  -- the log is orderly whichever uses were made
  obtain ⟨held, horderly, hstays, -⟩ := hstart.orderly hlog
  refine ⟨horderly.mem_opens.1, fun use ds l hmem hl => ⟨?_, horderly.tidy_iff hmem hl⟩, ?_⟩
  · rw [hstays.held_eq]
    exact (horderly.lives hmem hl).deeds
  -- with nothing open the next use makes one cursor or two
  · intro o u hnone hattempt
    obtain rfl : held = none := by
      rw [hstays.held_eq] at hnone
      exact Option.map_eq_none_iff.1 hnone
    obtain ⟨v, hcursor, -⟩ :=
      hstays.cursor_of_attempt hattempt (show Use.cursor.readsConnection = false from rfl)
    obtain ⟨w, hconnection, hopening, -⟩ := hstays.connection_of_attempt hattempt
    refine ⟨by rw [hcursor]; rfl, ?_⟩
    rw [bind_of_ok hconnection, cursor_of_some hopening.stays.working.2]
    rfl

/-- The cursor is asked for, and after the context was closed the connection is read. Each time a
statement is run. -/
theorem tidy_iff_connection_read_twice :
    let s : Session := { profiles := ⟨[(.str "m", [])]⟩, contexts := [.ofServer (.str "m")] }
    let did : List (Bool × List Deed) :=
      [(false, [.opens ⟨0⟩, .makes ⟨⟨0⟩, 0⟩, .makes ⟨⟨0⟩, 1⟩]), (false, [.sends ⟨⟨0⟩, 1⟩]),
        (false, [.releases ⟨⟨0⟩, 0⟩, .closes ⟨0⟩]), (true, [.opens ⟨1⟩, .makes ⟨⟨1⟩, 0⟩]),
        (false, [.sends ⟨⟨1⟩, 0⟩]), (false, [.releases ⟨⟨1⟩, 0⟩, .closes ⟨1⟩])]
    ∃ log t, Logs ⟨0⟩ s log t ∧
      (log.map fun entry => (entry.1.readsConnection, entry.2)) = did ∧
      ¬Tidy ⟨0⟩ (deedsOf log) ∧ Tidy ⟨1⟩ (deedsOf log) ∧
      (ContextId.cursor ⟨0⟩ t).value? = some (.handle ⟨⟨2⟩, 1⟩) := by
  intro s did
  have hselect : (Use.run (.str "SELECT 1") none).isAccess = true := rfl
  -- the six uses are evaluated
  obtain ⟨log, t, hlog, hdid, hheld, hattempt⟩ : ∃ log t, Logs ⟨0⟩ s log t ∧
      (log.map fun entry => (entry.1.readsConnection, entry.2)) = did ∧
      t.held ⟨0⟩ = none ∧ (attempt (.str "m") [] t).value?.map OpenLink.link = some ⟨2⟩ :=
    ⟨_, _, .use .close (.inr rfl) <| .use _ (.inl hselect) <| .use .connection (.inl rfl) <|
      .use .close (.inr rfl) <| .use _ (.inl hselect) <| .use .cursor (.inl rfl) .start,
      by decide +kernel, by decide +kernel, by decide +kernel⟩
  have hentry : ∀ entry ∈ did, ∃ use, (use, entry.2) ∈ log ∧ use.readsConnection = entry.1 := by
    intro entry hmem
    rw [← hdid] at hmem
    obtain ⟨⟨use, ds⟩, hlogged, rfl⟩ := List.mem_map.1 hmem
    exact ⟨use, hlogged, rfl⟩
  -- the two uses that open a connection are found in the log
  obtain ⟨first, hfirst, hreads⟩ := hentry (false, _) List.mem_cons_self
  obtain ⟨second, hsecond, hreads'⟩ := hentry (true, [.opens ⟨1⟩, .makes ⟨⟨1⟩, 0⟩]) (by simp [did])
  obtain ⟨o, hopened, hlink⟩ := Option.map_eq_some_iff.1 hattempt
  obtain ⟨-, hlives, hnext⟩ := tidy_iff_connection_read
    (show s.contexts[0]? = some (.ofServer (.str "m")) from rfl) hlog
  refine ⟨log, t, hlog, hdid, fun htidy => ?_, ?_, ?_⟩
  · have hread := (hlives first _ ⟨0⟩ hfirst (by simp)).2.1 htidy
    rw [hreads] at hread
    cases hread
  · exact (hlives second _ ⟨1⟩ hsecond (by simp)).2.2 hreads'
  · have hcursor := (hnext o _ hheld (Result.value?_eq_some_iff.1 hopened)).1
    rwa [hlink] at hcursor

end Querysmith
