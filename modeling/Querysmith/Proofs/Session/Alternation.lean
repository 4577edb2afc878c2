import Mathlib.Data.List.Nodup
import Querysmith.Proofs.Session.Access

/-!
# Contexts open and close in turns

What a context does to connections is opening and closing. A context for a server opens a
connection when it has none and closes the one that it has opened, in turns, whatever fails on the
way and whatever else happens in between. A context for a connection of the caller opens and closes
nothing.

## Main definitions

- `Traffic`, `Session.traffic`: what was opened and closed from one session to a later one
- `Alternates`: connections are opened and closed in turns
- `Use`, `Use.act`: what a caller does with a context
- `Runs`: a row of uses, with other things in between, and its traffic

## Key results

- `Alternates.nodup_closed`: no connection is closed twice
- `Stands.runs`: the traffic of a context alternates, up to the connection that it has
- `alternates_or_lends`: what contexts open and close, and what their next use will do
-/

namespace Querysmith

open Session EStateM

/-! ## Traffic -/

/-- A connection is opened or closed. -/
inductive Traffic where
  | opens (link : LinkId)
  | closes (link : LinkId)
  deriving DecidableEq, Repr

/-- The traffic that an event is. -/
def Event.traffic? (e : Event) : Option Traffic :=
  (e.opened?.map .opens).or (e.closed?.map .closes)

namespace Traffic

/-- The connection that is opened. -/
def opened? : Traffic → Option LinkId
  | opens link => some link
  | closes _ => none

/-- The connection that is closed. -/
def closed? : Traffic → Option LinkId
  | opens _ => none
  | closes link => some link

end Traffic

/-- Connections are opened and closed in turns: one is opened when none is open and was not opened
before, and the one that is open is closed. The last argument is the one that is open. -/
inductive Alternates : List Traffic → Option LinkId → Prop where
  | nothing : Alternates [] none
  | opens {ts l} : Alternates ts none → .opens l ∉ ts → Alternates (ts ++ [.opens l]) (some l)
  | closes {ts l} : Alternates ts (some l) → Alternates (ts ++ [.closes l]) none

namespace Alternates

variable {ts : List Traffic} {link : Option LinkId}

/-- What was opened was closed in the same order, but for the connection that is open. -/
theorem opened_eq (h : Alternates ts link) :
    ts.filterMap Traffic.opened? = ts.filterMap Traffic.closed? ++ link.toList := by
  induction h with
  | nothing => rfl
  | opens _ _ ih => simpa [Traffic.opened?, Traffic.closed?, List.filterMap_cons] using ih
  | closes _ ih => simpa [Traffic.opened?, Traffic.closed?, List.filterMap_cons] using ih

/-- A connection was opened when the log says so. -/
theorem mem_opened {l : LinkId} : l ∈ ts.filterMap Traffic.opened? ↔ .opens l ∈ ts := by
  rw [List.mem_filterMap]
  constructor
  · rintro ⟨e, he, hopened⟩
    cases e with
    | opens => cases hopened; exact he
    | closes => cases hopened
  · exact fun h => ⟨_, h, rfl⟩

/-- In a log that alternates, no connection is opened twice. -/
theorem nodup_opened (h : Alternates ts link) : (ts.filterMap Traffic.opened?).Nodup := by
  induction h with
  | nothing => exact List.nodup_nil
  | opens _ hfresh ih =>
    rw [List.filterMap_append, List.nodup_append]
    -- the connection that is opened was not opened before
    refine ⟨ih, List.nodup_singleton _, fun l hl l' hl' => ?_⟩
    obtain rfl := List.mem_singleton.1 hl'
    rintro rfl
    exact hfresh (mem_opened.1 hl)
  | closes _ ih => simpa [Traffic.opened?, List.filterMap_cons] using ih

/-- No connection is closed twice. -/
theorem nodup_closed (h : Alternates ts link) : (ts.filterMap Traffic.closed?).Nodup := by
  have hopened := h.nodup_opened
  rw [h.opened_eq] at hopened
  exact hopened.sublist (List.sublist_append_left _ _)

end Alternates

namespace Session

/-- What was opened and closed from one session to a later one, in order. -/
def traffic (s t : Session) : List Traffic := ((since s t).filterMap Event.traffic?).reverse

variable {s t u : Session}

/-- The logs of two stretches are the log of both. -/
theorem traffic_trans (h : s.trace <:+ t.trace) (h' : t.trace <:+ u.trace) :
    traffic s u = traffic s t ++ traffic t u := by
  rw [traffic, traffic, traffic, since_trans h h', List.filterMap_append, List.reverse_append]

/-- Where nothing is closed, the traffic is what is opened. -/
theorem traffic_of_openedLinks {new : List LinkId} (h : s.trace <:+ t.trace)
    (hopened : openedLinks t.trace = new ++ openedLinks s.trace)
    (hclosed : closedLinks t.trace = closedLinks s.trace) :
    traffic s t = (new.map .opens).reverse := by
  have hnone := List.filterMap_eq_nil_iff.1
    (filterMap_since h (show closedLinks t.trace = [] ++ closedLinks s.trace from hclosed))
  rw [traffic, ← filterMap_since h hopened, List.map_filterMap]
  refine congrArg List.reverse (List.filterMap_congr fun e he => ?_)
  simp [Event.traffic?, hnone e he]

/-- Where nothing is opened, it is what is closed. -/
theorem traffic_of_closedLinks {new : List LinkId} (h : s.trace <:+ t.trace)
    (hopened : openedLinks t.trace = openedLinks s.trace)
    (hclosed : closedLinks t.trace = new ++ closedLinks s.trace) :
    traffic s t = (new.map .closes).reverse := by
  have hnone := List.filterMap_eq_nil_iff.1
    (filterMap_since h (show openedLinks t.trace = [] ++ openedLinks s.trace from hopened))
  rw [traffic, ← filterMap_since h hclosed, List.map_filterMap]
  refine congrArg List.reverse (List.filterMap_congr fun e he => ?_)
  simp [Event.traffic?, hnone e he]

/-- Where nothing is opened or closed, the log is empty. -/
theorem traffic_of_quiet (h : Quiet s t) : traffic s t = [] := by
  have hopened : openedLinks t.trace = [] ++ openedLinks s.trace := h.opened
  exact traffic_of_openedLinks h.trace hopened h.closed

/-- Making a cursor is no line of the log. -/
theorem traffic_of_draws {id : ContextId} {k : CursorId} (h : Draws id k s t) :
    traffic s t = [] := by
  have hopened : openedLinks t.trace = [] ++ openedLinks s.trace := h.opened
  exact traffic_of_openedLinks h.trace hopened h.closed

/-- Opening is one line of the log. -/
theorem traffic_of_opens {id : ContextId} {o : OpenLink} (h : Opens id o s t) :
    traffic s t = [.opens o.link] := by
  have hopened : openedLinks t.trace = [o.link] ++ openedLinks s.trace := h.opened
  exact traffic_of_openedLinks h.trace hopened h.closed

/-- Closing is one line of the log. -/
theorem traffic_of_closes {id : ContextId} {o : OpenLink} (h : Closes id o s t) :
    traffic s t = [.closes o.link] := by
  have hclosed : closedLinks t.trace = [o.link] ++ closedLinks s.trace := h.closed
  exact traffic_of_closedLinks h.trace h.opened hclosed

/-- The connection that a context has opened and not closed. -/
def held (s : Session) (id : ContextId) : Option LinkId :=
  (s.context id).opened.map OpenLink.link

end Session

/-- A context stays as it is while nothing is put in its place. -/
theorem Session.kept_of_getElem? {s t : Session} {id : ContextId}
    (h : t.contexts[id.index]? = s.contexts[id.index]?) (hmade : id.index < s.contexts.length) :
    id.index < t.contexts.length ∧ t.context id = s.context id := by
  have hkept : t.contexts[id.index]? = some s.contexts[id.index] := by
    rw [h, List.getElem?_eq_getElem hmade]
  exact ⟨(List.getElem?_eq_some_iff.1 hkept).1, by simp [context, hkept, hmade]⟩

/-! ## Uses of a context -/

/-- What a caller does with a context. -/
inductive Use where
  | connection
  | cursor
  | run (sql : Value) (bindings : Option Value)
  | runMany (sql rows : Value)
  | close
  /-- A block of uses, which a failure leaves. The context is closed at the end of it. -/
  | within (body : List Use)

namespace Use

mutual
/-- Does a use. -/
def act (id : ContextId) : Use → Act Unit
  | connection => do let _ ← id.connection
  | cursor => do let _ ← id.cursor
  | run sql bindings => do let _ ← id.run sql bindings
  | runMany sql rows => do let _ ← id.runMany sql rows
  | close => id.close
  | within body => tryFinally (actAll id body) id.close

/-- Does the uses of a block up to the first that fails. -/
def actAll (id : ContextId) : List Use → Act Unit
  | [] => pure ()
  | use :: rest => do
    use.act id
    actAll id rest
end

/-- Whether a use needs the connection. -/
def isAccess : Use → Bool
  | connection | cursor | run .. | runMany .. => true
  | close | within _ => false

end Use

/-- A row of uses of a context with its traffic, from one session to a later one. A use that fails
is left at that. In between anything may happen that leaves the context alone: profiles, the
environment and what the driver will do may change, and other contexts may be used. -/
inductive Runs (id : ContextId) (s : Session) : List Traffic → Session → Prop where
  | start : Runs id s [] s
  | use {ts t} (use : Use) : Runs id s ts t →
      Runs id s (ts ++ traffic t (use.act id t).state) (use.act id t).state
  | meanwhile {ts t u} : Runs id s ts t → u.contexts[id.index]? = t.contexts[id.index]? →
      t.links.length ≤ u.links.length → Runs id s ts u

/-! ## Contexts for servers -/

/-- The traffic of a context for a server has alternated, up to the connection that it has. The
connections in it are among those that were made, so the next one is new. -/
structure Stands (id : ContextId) (name : Value) (overrides : Entries) (ts : List Traffic)
    (s : Session) : Prop where
  made : id.index < s.contexts.length
  source : (s.context id).source = .server name overrides
  idle : (s.context id).opened = none → (s.context id).cursor = none
  alternates : Alternates ts (s.held id)
  known : ∀ l, .opens l ∈ ts → l.index < s.links.length

namespace Stands

variable {id : ContextId} {name : Value} {overrides : Entries} {ts : List Traffic} {s t : Session}

/-- A context made for a server owns its connection. -/
theorem ownsConnection (h : Stands id name overrides ts s) :
    (s.context id).ownsConnection = true := by
  simp [Context.ownsConnection, h.source]

/-- Nothing changes for a context that is left alone. -/
theorem unchanged (h : Stands id name overrides ts s)
    (hcontext : t.contexts[id.index]? = s.contexts[id.index]?)
    (hlinks : s.links.length ≤ t.links.length) : Stands id name overrides ts t := by
  obtain ⟨hmade, hsame⟩ := kept_of_getElem? hcontext h.made
  refine ⟨hmade, ?_, ?_, ?_, fun l hl => Nat.lt_of_lt_of_le (h.known l hl) hlinks⟩
  · rw [hsame, h.source]
  · rw [hsame]
    exact h.idle
  · rw [held, hsame]
    exact h.alternates

/-- Where nothing is opened or closed, all stands as it did. -/
theorem quiet (h : Stands id name overrides ts s) (ht : Quiet s t) :
    Stands id name overrides ts t := h.unchanged (by rw [ht.contexts]) ht.links

/-- Opening adds a line. -/
theorem opens (h : Stands id name overrides ts s) {o : OpenLink} (ht : Opens id o s t) :
    Stands id name overrides (ts ++ [.opens o.link]) t := by
  have hcontext := context_of_set ht.contexts h.made
  -- every connection of the traffic was made by then, and this one was not
  have hnew : .opens o.link ∉ ts := fun hl =>
    absurd (h.known _ hl) (Nat.not_lt.2 ht.fresh)
  have hnone : s.held id = none := by rw [held, ht.unopened]; rfl
  refine ⟨by simpa [ht.contexts] using h.made, ?_, ?_, ?_, fun l hl => ?_⟩
  · rw [hcontext]
    exact h.source
  · simp [hcontext, Context.withOpened]
  · rw [held, hcontext]
    exact .opens (hnone ▸ h.alternates) hnew
  · rcases List.mem_append.1 hl with hl | hl
    · exact Nat.lt_of_lt_of_le (h.known l hl) ht.links
    · cases List.mem_singleton.1 hl
      exact ht.made

/-- Making a cursor adds none. -/
theorem draws (h : Stands id name overrides ts s) {k : CursorId} (ht : Draws id k s t) :
    Stands id name overrides ts t := by
  have hcontext := context_of_set ht.contexts h.made
  obtain ⟨o, hopened, -⟩ := ht.uses.opened h.ownsConnection
  refine ⟨by simpa [ht.contexts] using h.made, ?_, ?_, ?_, fun l hl =>
    Nat.lt_of_lt_of_le (h.known l hl) ht.links⟩
  · rw [hcontext]
    exact h.source
  · simp [hcontext, hopened]
  · rw [held, hcontext]
    exact h.alternates

/-- Closing adds a line. -/
theorem closes (h : Stands id name overrides ts s) {o : OpenLink} (ht : Closes id o s t) :
    Stands id name overrides (ts ++ [.closes o.link]) t := by
  have hcontext := context_of_set ht.contexts h.made
  have hheld : s.held id = some o.link := by rw [held, ht.held]; rfl
  refine ⟨by simpa [ht.contexts] using h.made, ?_, ?_, ?_, fun l hl => ?_⟩
  · rw [hcontext]
    exact h.source
  · simp [hcontext, Context.withoutOpened]
  · rw [held, hcontext]
    exact .closes (hheld ▸ h.alternates)
  -- a connection that was opened stays known, and closing opens none
  · rcases List.mem_append.1 hl with hl | hl
    · exact Nat.lt_of_lt_of_le (h.known l hl) ht.links
    · cases List.mem_singleton.1 hl

/-- After the traffic `ts` and what has come since `s`. -/
def After (id : ContextId) (name : Value) (overrides : Entries) (ts : List Traffic)
    (s t : Session) : Prop :=
  s.trace <:+ t.trace ∧ Stands id name overrides (ts ++ traffic s t) t

/-- Nothing is after the start what it was not there. -/
theorem after (h : Stands id name overrides ts s) : After id name overrides ts s s := by
  refine ⟨List.suffix_rfl, ?_⟩
  rw [traffic_of_quiet (Quiet.refl s), List.append_nil]
  exact h

/-- More traffic comes behind the traffic so far. -/
theorem After.trans {u : Session} {more : List Traffic} (h : After id name overrides ts s t)
    (ht : t.trace <:+ u.trace) (hmore : traffic t u = more)
    (hu : Stands id name overrides (ts ++ traffic s t ++ more) u) :
    After id name overrides ts s u := by
  refine ⟨h.1.trans ht, ?_⟩
  rw [traffic_trans h.1 ht, hmore, ← List.append_assoc]
  exact hu

/-- What stands after some traffic is kept by whatever accesses the context. -/
theorem rides_after (id : ContextId) (name : Value) (overrides : Entries) (ts : List Traffic)
    (s : Session) : Rides (After id name overrides ts s) (· = id) where
  quiet := fun ht h => h.trans ht.trace (traffic_of_quiet ht) (by simpa using h.2.quiet ht)
  opens := by
    rintro _ o t u rfl ht h
    exact h.trans ht.trace (traffic_of_opens ht) (h.2.opens ht)
  draws := by
    rintro _ k t u rfl ht h
    exact h.trans ht.trace (traffic_of_draws ht) (by simpa using h.2.draws ht)

/-- What came after a session goes on with the closing of the context. -/
theorem closes_after {o : OpenLink} {u : Session} (ht : Closes id o t u)
    (h : After id name overrides ts s t) : After id name overrides ts s u :=
  h.trans ht.trace (traffic_of_closes ht) (h.2.closes ht)

end Stands

/-! ## Uses -/

namespace Use

variable {id : ContextId} {J : Session → Prop}

/-- Every access but reading the connection comes to a cursor, and is quiet from then on. -/
theorem exists_behind_cursor {use : Use} (h : use.isAccess = true) :
    use = connection ∨ ∃ rest : Lent CursorId → Act Unit,
      (∀ k, IsQuiet (rest k)) ∧ use.act id = id.cursor >>= rest := by
  have hlift : ∀ {α : Type} (x : Except Error α), IsQuiet (ofExcept x : Act α) := fun x =>
    (isCalm_ofExcept x).isQuiet
  have hpure : ∀ {α : Type} (a : α), IsQuiet (pure a : Act α) := fun a => (isCalm_pure a).isQuiet
  -- with its cursor an access only sends statements, and binding their values may fail
  cases use with
  | connection => exact .inl rfl
  | cursor => exact .inr ⟨fun _ => pure (), fun _ => hpure _, by rw [act]⟩
  | run sql bindings =>
    refine .inr ⟨_, fun k => ?_, by rw [act, ContextId.run, bind_assoc]⟩
    exact IsQuiet.bind ((hlift _).bind fun values => (hlift _).bind fun cursor =>
      (isQuiet_execute cursor sql values).bind fun _ => hpure _) fun _ => hpure _
  | runMany sql rows =>
    refine .inr ⟨_, fun k => ?_, by rw [act, ContextId.runMany, bind_assoc]⟩
    exact IsQuiet.bind ((hlift _).bind fun rows => (hlift _).bind fun cursor =>
      (hlift _).bind fun rows =>
      (isQuiet_executeMany cursor sql rows).bind fun _ => hpure _) fun _ => hpure _
  | close => cases h
  | within => cases h

/-- An access keeps what survives it. -/
theorem keeps_access (hrides : Rides J (· = id)) {use : Use} (h : use.isAccess = true) :
    Keeps J (use.act id) := by
  rcases use.exists_behind_cursor h with rfl | ⟨rest, hrest, hact⟩
  · rw [act]
    exact (hrides.keeps_connection rfl).bind fun _ => keeps_pure _
  · rw [hact]
    exact (hrides.keeps_cursor rfl).bind fun k => hrides.keeps_quiet (hrest k)

mutual
/-- A use keeps what survives access and closing. -/
theorem keeps_act (hrides : Rides J (· = id))
    (hcloses : ∀ {o s t}, Closes id o s t → J s → J t) : (use : Use) → Keeps J (use.act id)
  | connection => keeps_access hrides rfl
  | cursor => keeps_access hrides rfl
  | run .. => keeps_access hrides rfl
  | runMany .. => keeps_access hrides rfl
  | close => by
    rw [act]
    exact keeps_close hcloses
  | within body => by
    rw [act]
    exact (keeps_actAll hrides hcloses body).tryFinally (keeps_close hcloses)

/-- Acts one after the other keep what each keeps. -/
theorem keeps_actAll (hrides : Rides J (· = id))
    (hcloses : ∀ {o s t}, Closes id o s t → J s → J t) :
    (body : List Use) → Keeps J (actAll id body)
  | [] => by
    rw [actAll]
    exact keeps_pure _
  | use :: rest => by
    rw [actAll]
    exact (keeps_act hrides hcloses use).bind fun _ => keeps_actAll hrides hcloses rest
end

/-- An access fails where the connection that it needs cannot be opened. -/
theorem act_of_error {use : Use} (h : use.isAccess = true) {s t : Session} {e : Error}
    (hcursor : (s.context id).cursor = none) (hconnection : id.connection s = .error e t) :
    use.act id s = .error e t := by
  rcases use.exists_behind_cursor h with rfl | ⟨rest, -, hact⟩
  · rw [act]
    exact bind_of_error hconnection _
  · have hfailed : id.cursor s = .error e t := by
      rw [cursor_eq, hcursor]
      exact bind_of_error hconnection _
    rw [hact]
    exact bind_of_error hfailed _

/-- Where it is opened, the access has what survives making a cursor and sending statements. -/
theorem state_act_of_opens (hrides : Rides J (· = id)) {use : Use} (h : use.isAccess = true)
    {s u : Session} {o : OpenLink} {link : LinkId} (hcursor : (s.context id).cursor = none)
    (hconnection : id.connection s = .ok (.handle link) u) (hu : Opens id o s u)
    (huses : (u.context id).Uses (.handle link)) (hJ : J u) : J (use.act id s).state := by
  rcases use.exists_behind_cursor h with rfl | ⟨rest, hrest, hact⟩
  · rw [act, bind_of_ok hconnection]
    exact hJ
  · obtain ⟨cursor, t, hok, ht⟩ := cursor_of_opens hcursor hconnection hu huses
    rw [hact, bind_of_ok hok]
    exact (hrides.keeps_quiet (hrest _)).state (hrides.draws rfl ht hJ)

end Use

/-- Through a row of uses the traffic alternates, up to the connection that the context has. -/
theorem Stands.runs {id : ContextId} {name : Value} {overrides : Entries} {s t : Session}
    {ts : List Traffic} (h : Stands id name overrides [] s) (ht : Runs id s ts t) :
    Stands id name overrides ts t := by
  -- induction on the row of uses: each use adds its traffic, and what comes between adds none
  induction ht with
  | start => exact h
  | use use _ ih =>
    exact ((use.keeps_act (rides_after id name overrides _ _) closes_after).state ih.after).2
  | meanwhile _ hcontext hlinks ih => exact ih.unchanged hcontext hlinks

/-! ## The next use -/

/-- Builds the connector of a server and opens its connection. -/
def attempt (name : Value) (overrides : Entries) : Act OpenLink :=
  Connector.ofServer name overrides >>= Connector.openLink

/-- What the next use of a context for a server does. -/
structure NextUse (id : ContextId) (name : Value) (overrides : Entries) (s : Session) : Prop where
  /-- Closing closes the connection that is open, if one is. -/
  close : ∃ t, id.close s = .ok () t ∧
    traffic s t = ((s.held id).map .closes).toList ∧ t.held id = none
  /-- An open connection is used again. -/
  again : ∀ l, s.held id = some l → id.connection s = .ok (.handle l) s ∧
    ∀ use : Use, use.isAccess = true →
      traffic s (use.act id s).state = [] ∧ (use.act id s).state.held id = some l
  /-- With none open an access tries to open one. Nothing is open when that fails. -/
  refused : ∀ e t, s.held id = none → attempt name overrides s = .error e t →
    ∀ use : Use, use.isAccess = true →
      use.act id s = .error e t ∧ traffic s t = [] ∧ t.held id = none
  opens : ∀ o t, s.held id = none → attempt name overrides s = .ok o t →
    (id.connection s).value? = some (.handle o.link) ∧
    ∀ use : Use, use.isAccess = true →
      traffic s (use.act id s).state = [.opens o.link] ∧
        (use.act id s).state.held id = some o.link

/-- A context has what `c` has, and nothing was opened or closed. -/
structure Retains (id : ContextId) (c : Context) (s t : Session) : Prop where
  made : id.index < t.contexts.length
  source : (t.context id).source = c.source
  opened : (t.context id).opened = c.opened
  trace : s.trace <:+ t.trace
  traffic : traffic s t = []

namespace Retains

variable {id : ContextId} {c : Context} {s t u : Session}

/-- A context is what it is. -/
theorem self (h : id.index < s.contexts.length) : Retains id (s.context id) s s :=
  ⟨h, rfl, rfl, List.suffix_rfl, traffic_of_quiet (Quiet.refl s)⟩

/-- What is retained is held as before. -/
theorem held_eq (h : Retains id (s.context id) s t) : t.held id = s.held id := by
  rw [held, held, h.opened]

/-- A change that opens and closes nothing. -/
theorem step (h : Retains id c s t) (hmade : id.index < u.contexts.length)
    (hsource : (u.context id).source = (t.context id).source)
    (hopened : (u.context id).opened = (t.context id).opened) (htrace : t.trace <:+ u.trace)
    (hnone : Session.traffic t u = []) : Retains id c s u where
  made := hmade
  source := hsource.trans h.source
  opened := hopened.trans h.opened
  trace := h.trace.trans htrace
  traffic := by
    rw [traffic_trans h.trace htrace, h.traffic, hnone]
    rfl

end Retains

/-- A context that has a connection opens no other one. -/
theorem rides_retains {c : Context} (hc : c.hasConnection = true) (id : ContextId) (s : Session) :
    Rides (Retains id c s) (· = id) where
  quiet := by
    intro t u ht h
    have hmade : id.index < u.contexts.length := by
      rw [ht.contexts]
      exact h.made
    have hcontext := context_congr ht.contexts h.made
    exact h.step hmade (by rw [hcontext]) (by rw [hcontext]) ht.trace (traffic_of_quiet ht)
  opens := by
    rintro _ o t u rfl ht h
    -- only a context that owns its connection and has none opens one
    have howns : c.ownsConnection = true := by
      have := ht.owns
      rwa [Context.ownsConnection, h.source] at this
    have hopened : c.opened = none := h.opened.symm.trans ht.unopened
    simp [Context.hasConnection, howns, hopened] at hc
  draws := by
    rintro _ k t u rfl ht h
    have hcontext := context_of_set ht.contexts h.made
    exact h.step (by simpa [ht.contexts] using h.made) (by rw [hcontext]) (by rw [hcontext])
      ht.trace (traffic_of_draws ht)

namespace Stands

variable {id : ContextId} {name : Value} {overrides : Entries} {ts : List Traffic} {s : Session}

/-- A context that holds a connection has it at hand. -/
theorem hasConnection {l : LinkId} (hl : s.held id = some l) :
    (s.context id).hasConnection = true := by
  obtain ⟨o, hopened, -⟩ := Option.map_eq_some_iff.1 hl
  simp [Context.hasConnection, hopened]

/-- A context that holds none has opened none. -/
theorem opened_eq_none (h : s.held id = none) : (s.context id).opened = none := by
  simpa [held] using h

/-- With nothing open, the connection comes of an attempt to open one. -/
theorem connection_of_none (h : Stands id name overrides ts s) (hnone : s.held id = none) :
    id.connection s = (attempt name overrides >>= fun o => do
      modify fun t => t.setContext id ((s.context id).withOpened o)
      return .handle o.link : Act (Lent LinkId)) s := by
  rw [connection_eq, h.source, opened_eq_none hnone, attempt, bind_assoc]

/-- Where the connection cannot be opened, reading it fails and opens nothing. -/
theorem connection_of_refused (h : Stands id name overrides ts s) (hnone : s.held id = none)
    {e : Error} {t : Session} (ht : attempt name overrides s = .error e t) :
    id.connection s = .error e t ∧ Quiet s t := by
  have hconnection : id.connection s = .error e t := by
    rw [h.connection_of_none hnone]
    exact bind_of_error ht _
  have hquiet := connection_outcome id s
  rw [hconnection] at hquiet
  exact ⟨hconnection, hquiet⟩

/-- Where it can be opened, reading it opens it. -/
theorem connection_of_opened (h : Stands id name overrides ts s) (hnone : s.held id = none)
    {o : OpenLink} {t : Session} (ht : attempt name overrides s = .ok o t) :
    ∃ u, id.connection s = .ok (.handle o.link) u ∧ Opens id o s u ∧
      (u.context id).Uses (.handle o.link) := by
  -- the connection is opened and then kept in the context
  have hconnection : id.connection s =
      .ok (.handle o.link) (t.setContext id ((s.context id).withOpened o)) := by
    rw [h.connection_of_none hnone, bind_of_ok ht]
    rfl
  have houtcome := connection_outcome id s
  rw [hconnection] at houtcome
  have hset : (t.setContext id ((s.context id).withOpened o)).contexts =
      t.contexts.set id.index ((s.context id).withOpened o) := rfl
  generalize t.setContext id ((s.context id).withOpened o) = u at hconnection houtcome hset
  obtain ⟨hopens, huses⟩ := houtcome
  refine ⟨u, hconnection, ?_, huses⟩
  -- the context is one of those that were made
  have hlength : id.index < t.contexts.length := by
    have : u.contexts.length = s.contexts.length := by
      rcases hopens with hu | ⟨_, hu⟩ <;> simp [hu.contexts]
    rw [hset, List.length_set] at this
    exact this ▸ h.made
  -- the connection that the context has now is the one that was opened
  have hopened : (u.context id).opened = some o := by
    rw [context_of_set hset hlength]
    rfl
  rcases hopens with hu | ⟨o', hu⟩
  · rw [opened_congr hu.contexts, opened_eq_none hnone] at hopened
    cases hopened
  · rw [context_of_set hu.contexts h.made] at hopened
    cases hopened
    exact hu

/-- What the next use does follows from where things stand. -/
theorem nextUse (h : Stands id name overrides ts s) : NextUse id name overrides s where
  close := by
    have hclose := close_outcome id s
    -- closing does not fail
    cases hresult : id.close s with
    | error e t =>
      rw [hresult] at hclose
      exact hclose.elim
    | ok _ t =>
      rw [hresult] at hclose
      refine ⟨t, rfl, ?_⟩
      cases hopened : (s.context id).opened with
      | none =>
        rw [hopened] at hclose
        obtain rfl : t = s := hclose
        simp [held, hopened, traffic_of_quiet (Quiet.refl t)]
      | some o =>
        rw [hopened] at hclose
        have ht : Closes id o s t := hclose
        rw [traffic_of_closes ht]
        simp [held, hopened, context_of_set ht.contexts h.made, Context.withoutOpened]
  again := by
    intro l hl
    refine ⟨?_, fun use hUse => ?_⟩
    · obtain ⟨o, hopened, rfl⟩ : ∃ o, (s.context id).opened = some o ∧ o.link = l := by
        simpa [held] using hl
      rw [connection_eq, h.source, hopened]
      rfl
    -- what is open stays open, and nothing is opened beside it
    · have hretains := (use.keeps_access (rides_retains (hasConnection hl) id s) hUse).state
        (Retains.self h.made)
      exact ⟨hretains.traffic, hretains.held_eq.trans hl⟩
  refused := by
    intro e t hnone ht use hUse
    obtain ⟨hconnection, hquiet⟩ := h.connection_of_refused hnone ht
    refine ⟨use.act_of_error hUse (h.idle (opened_eq_none hnone)) hconnection,
      traffic_of_quiet hquiet, ?_⟩
    rw [held, opened_congr hquiet.contexts]
    exact hnone
  opens := by
    intro o t hnone ht
    obtain ⟨u, hconnection, hu, huses⟩ := h.connection_of_opened hnone ht
    have hheld : u.held id = some o.link := by
      rw [held, context_of_set hu.contexts h.made]
      rfl
    refine ⟨by rw [hconnection]; rfl, fun use hUse => ?_⟩
    -- once it is opened, the rest of the access opens and closes nothing
    have hretains := use.state_act_of_opens (rides_retains (hasConnection hheld) id u) hUse
      (h.idle (opened_eq_none hnone)) hconnection hu huses (Retains.self (h.opens hu).made)
    refine ⟨?_, hretains.held_eq.trans hheld⟩
    rw [traffic_trans hu.trace hretains.trace, hretains.traffic, traffic_of_opens hu]
    rfl

end Stands

/-! ## Contexts for connections of the caller -/

/-- A context for a connection of the caller opens and closes nothing. -/
theorem keeps_of_caller {id : ContextId} {c : Context} {link : Lent LinkId} {s : Session}
    (hsource : c.source = .caller link) (hopened : c.opened = none) (use : Use) :
    Keeps (Retains id c s) (use.act id) := by
  have hc : c.hasConnection = true := by
    simp [Context.hasConnection, Context.ownsConnection, hsource]
  refine use.keeps_act (rides_retains hc id s) ?_
  intro o t u ht h
  -- there is nothing of its own to close
  have hnone := h.opened
  rw [ht.held, hopened] at hnone
  cases hnone

/-- A context made for a connection of the caller opens and closes nothing in any run. -/
theorem runs_of_caller {id : ContextId} {link : Lent LinkId} {s t : Session} {ts : List Traffic}
    (hmade : id.index < s.contexts.length) (hsource : (s.context id).source = .caller link)
    (hopened : (s.context id).opened = none) (ht : Runs id s ts t) :
    ts = [] ∧ id.index < t.contexts.length ∧ (t.context id).source = .caller link ∧
      (t.context id).opened = none := by
  induction ht with
  | start => exact ⟨rfl, hmade, hsource, hopened⟩
  | use use _ ih =>
    obtain ⟨rfl, hmade, hsource, hopened⟩ := ih
    have h := (keeps_of_caller hsource hopened use).state (Retains.self hmade)
    exact ⟨h.traffic, h.made, h.source.trans hsource, h.opened.trans hopened⟩
  -- what else happens leaves the context as it is
  | meanwhile _ hcontext _ ih =>
    obtain ⟨rfl, hmade, hsource, hopened⟩ := ih
    obtain ⟨hkept, hsame⟩ := kept_of_getElem? hcontext hmade
    rw [hsame]
    exact ⟨rfl, hkept, hsource, hopened⟩

/-! ## All contexts -/

/-- However a context for a server is used, its connections are opened and closed in turns, up to
the one that it has, and none is closed twice; closing it closes that one, and with none open an
access tries to open a new one. However a context for a connection of the caller is used, it opens
and closes nothing and gives that connection. -/
theorem alternates_or_lends (id : ContextId) (s : Session) :
    (∀ name overrides, s.contexts[id.index]? = some (.ofServer name overrides) →
      ∀ ts t, Runs id s ts t →
        Alternates ts (t.held id) ∧ (ts.filterMap Traffic.closed?).Nodup ∧
          NextUse id name overrides t) ∧
    (∀ link cursor, s.contexts[id.index]? = some { source := .caller link, cursor } →
      ∀ ts t, Runs id s ts t → ts = [] ∧ id.connection t = .ok link t) := by
  have hcontext : ∀ {c}, s.contexts[id.index]? = some c → s.context id = c := fun hc => by
    rw [Session.context, hc]
    rfl
  constructor
  · intro name overrides hc ts t ht
    -- a new context has nothing open, and no traffic
    have hstart : Stands id name overrides [] s := by
      refine ⟨(List.getElem?_eq_some_iff.1 hc).1, ?_, ?_, ?_, by simp⟩
      · rw [hcontext hc]
        rfl
      · rw [hcontext hc]
        exact fun _ => rfl
      · rw [held, hcontext hc]
        exact .nothing
    have hstands := hstart.runs ht
    exact ⟨hstands.alternates, hstands.alternates.nodup_closed, hstands.nextUse⟩
  · intro link cursor hc ts t ht
    -- a connection of the caller is never opened nor closed
    obtain ⟨rfl, -, hsource, -⟩ := runs_of_caller (List.getElem?_eq_some_iff.1 hc).1
      (by rw [hcontext hc]) (by rw [hcontext hc]) ht
    refine ⟨rfl, ?_⟩
    rw [connection_eq, hsource]
    rfl

/-- A context for a server is read, closed and read again, and one for a connection of the caller
is closed. -/
theorem alternates_or_lends_twice :
    let s : Session :=
      { profiles := ⟨[(.str "m", [])]⟩,
        contexts := [.ofServer (.str "m"), { source := .caller (.handle ⟨7⟩) }] }
    (∃ t, Runs ⟨0⟩ s [.opens ⟨0⟩, .closes ⟨0⟩, .opens ⟨1⟩] t ∧
      Alternates [.opens ⟨0⟩, .closes ⟨0⟩, .opens ⟨1⟩] (t.held ⟨0⟩)) ∧
    ∃ t, Runs ⟨1⟩ s [] t ∧ ContextId.connection ⟨1⟩ t = .ok (.handle ⟨7⟩) t := by
  intro s
  obtain ⟨ts, t, hserver, hts⟩ : ∃ ts t, Runs ⟨0⟩ s ts t ∧
      ts = [.opens ⟨0⟩, .closes ⟨0⟩, .opens ⟨1⟩] :=
    ⟨_, _, .use .connection (.use .close (.use .cursor .start)), by decide +kernel⟩
  subst hts
  -- a context that was given its connection has no traffic of its own
  have hcaller : Runs ⟨1⟩ s [] _ := .use .close .start
  exact ⟨⟨_, hserver, ((alternates_or_lends ⟨0⟩ s).1 (.str "m") [] rfl _ _ hserver).1⟩,
    _, hcaller, ((alternates_or_lends ⟨1⟩ s).2 (.handle ⟨7⟩) none rfl _ _ hcaller).2⟩

end Querysmith
