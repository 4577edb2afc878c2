import Querysmith.Connection.Request
import Querysmith.Proofs.Session.Statements

/-!
# Contexts that can be got hold of

A property of sessions may depend on which contexts can be got hold of: no others than the free ones
may be used by name or closed. New contexts are free, and so a property that survives access to free
contexts and their closing is kept by all statements on them.

## Key results

- `Yields.bind`: an action that comes with free contexts, and one that uses them
- `Tends.serves`: statements on servers keep what the access to contexts keeps
- `Supports.tends`: a property that survives the changes that access to contexts consists of
-/

namespace Querysmith

open Session EStateM

variable {α β : Type} {P : Session → Prop} {F : Session → ContextId → Prop}

/-! ## New contexts -/

/-- A new context has opened nothing, and has no connection or cursor of a caller but these. -/
structure Context.IsNew (c : Context) (link : Option LinkId) (cursor : Option CursorId) : Prop where
  opened : c.opened = none
  source : ∀ {l}, c.source = .caller (.handle l) → link = some l
  cursor : ∀ {k}, c.cursor = some (.handle k) → cursor = some k

/-- A context is made from the connection that was asked for. -/
theorem ContextSource.of_choose {server : Value} {link : Option (Lent LinkId)}
    {overrides : Entries} {source : ContextSource} (h : choose server link overrides = .ok source)
    {l : Lent LinkId} (hsource : source = .caller l) : link = some l := by
  subst hsource
  cases server <;> cases link <;> simp_all [choose]

/-- What is written among the overrides is no handle. -/
private theorem ContextRequest.lent?_ne_handle {β : Type} (r : ContextRequest) (name : String)
    (id : β) : (r.lent? name : Option (Lent β)) ≠ some (.handle id) := by
  rw [lent?]
  split <;> simp

/-- A handle comes from the request itself. -/
private theorem ContextRequest.handle_of_orElse {β : Type} {r : ContextRequest}
    {own : Option (Lent β)} {name : String} {id : β}
    (h : (own <|> r.lent? name) = some (.handle id)) : own = some (.handle id) := by
  cases own with
  | some _ => exact h
  | none => exact absurd h (r.lent?_ne_handle name id)

/-- The context of a request is new. -/
theorem ContextRequest.isNew {r : ContextRequest} {c : Context} {link : Option LinkId}
    {cursor : Option CursorId} (h : r.context = .ok c) (hlink : r.connection = link.map .handle)
    (hcursor : r.cursor = cursor.map .handle) : c.IsNew link cursor := by
  simp only [context, Except.bind_eq_ok_iff] at h
  obtain ⟨_, _, _, _, source, hsource, h⟩ := h
  cases h
  refine ⟨rfl, fun hl => ?_, fun hk => ?_⟩
  -- a connection or cursor of the context can only be the one that was given
  · have hgiven := handle_of_orElse (ContextSource.of_choose hsource hl)
    rw [hlink] at hgiven
    obtain ⟨l, hl', heq⟩ := Option.map_eq_some_iff.1 hgiven
    cases heq
    exact hl'
  · have hgiven := handle_of_orElse hk
    rw [hcursor] at hgiven
    obtain ⟨k, hk', heq⟩ := Option.map_eq_some_iff.1 hgiven
    cases heq
    exact hk'

/-! ## Free contexts -/

namespace Session

/-- The property holds, and the contexts in the list are free in the session. -/
structure Fits (P : Session → Prop) (F : Session → ContextId → Prop) (ids : List ContextId)
    (s : Session) : Prop where
  holds : P s
  free : ∀ id ∈ ids, F s id

/-- What fits some contexts fits fewer of them. -/
theorem Fits.mono {ids others : List ContextId} {s : Session} (h : Fits P F ids s)
    (hsub : ∀ id ∈ others, id ∈ ids) : Fits P F others s :=
  ⟨h.1, fun id hid => h.2 id (hsub id hid)⟩

theorem Fits.tail {id : ContextId} {ids : List ContextId} {s : Session}
    (h : Fits P F (id :: ids) s) : Fits P F ids s :=
  h.mono fun _ hid => List.mem_cons_of_mem id hid

theorem Fits.of_append {more ids : List ContextId} {s : Session} (h : Fits P F (more ++ ids) s) :
    Fits P F ids s :=
  h.mono fun _ hid => List.mem_append_right more hid

end Session

/-- The action keeps the property, and the contexts that its value comes with are free. -/
def Yields (P : Session → Prop) (F : Session → ContextId → Prop) (ids : List ContextId)
    (more : α → List ContextId) (x : Act α) : Prop :=
  ∀ s, Fits P F ids s → (x s).Meets (fun a t => Fits P F (more a ++ ids) t) (Fits P F ids)

/-- A chain whose second part may use the contexts that the value of the first comes with. -/
theorem Yields.bind {ids : List ContextId} {more : α → List ContextId} {x : Act α}
    {f : α → Act β} (hx : Yields P F ids more x)
    (hf : ∀ a, Keeps (Fits P F (more a ++ ids)) (f a)) :
    Keeps (Fits P F ids) (x >>= f) := fun s hs =>
  meets_bind (hx s hs) fun a t ht =>
    ((hf a t ht).mono (fun _ _ hu => ⟨hu.1.of_append, trivial⟩) fun _ hu => hu.of_append)

/-- A chain that may use these contexts and comes with more of them. -/
theorem Yields.andThen {ids : List ContextId} {more : α → List ContextId}
    {further : β → List ContextId} {x : Act α} {f : α → Act β} (hx : Yields P F ids more x)
    (hf : ∀ a, Yields P F (more a ++ ids) further (f a)) : Yields P F ids further (x >>= f) := by
  intro s hs
  refine meets_bind (hx s hs) fun a t ht => ?_
  refine (hf a t ht).mono (fun b u hu => hu.mono fun id hid => ?_) fun u hu => hu.of_append
  exact (List.mem_append.1 hid).elim (List.mem_append_left _) fun hid =>
    List.mem_append_right _ (List.mem_append_right _ hid)

/-- What is done before leaves the contexts that are given. -/
theorem Yields.after {ids : List ContextId} {more : β → List ContextId} {x : Act α}
    {f : α → Act β} (hx : Keeps (Fits P F ids) x) (hf : ∀ a, Yields P F ids more (f a)) :
    Yields P F ids more (x >>= f) := by
  have hnone : Yields P F ids (fun _ => []) x := fun _ hs => hx.meets hs
  exact hnone.andThen hf

/-- A value that gives contexts at hand. -/
theorem yields_pure {ids : List ContextId} {more : α → List ContextId} {a : α}
    (h : ∀ id ∈ more a, id ∈ ids) : Yields P F ids more (pure a) := fun _ hs =>
  hs.mono fun id hid => (List.mem_append.1 hid).elim (h id) fun hid => hid

/-- What is known of a value goes on with it. -/
theorem yields_ofExcept_bind {ids : List ContextId} {more : β → List ContextId}
    {x : Except Error α} {f : α → Act β} (hf : ∀ a, x = .ok a → Yields P F ids more (f a)) :
    Yields P F ids more (ofExcept x >>= f) := by
  cases x with
  | error e => exact fun _ hs => hs
  | ok a => exact hf a rfl

/-! ## Access to contexts -/

/-- Whatever the context is used for, and closing it, keeps the property. -/
structure Access (J : Session → Prop) (id : ContextId) : Prop where
  connection : Keeps J id.connection
  cursor : Keeps J id.cursor
  run : ∀ sql bindings, Keeps J (id.run sql bindings)
  runMany : ∀ sql rows, Keeps J (id.runMany sql rows)
  close : Keeps J id.close

/-- What survives the changes that a context is used for, and its closing, is kept by all of it. -/
theorem Rides.access {J : Session → Prop} {free : ContextId → Prop} (h : Rides J free)
    {id : ContextId} (hid : free id) (hclose : ∀ {o s t}, Closes id o s t → J s → J t) :
    Access J id where
  connection := h.keeps_connection hid
  cursor := h.keeps_cursor hid
  run := h.keeps_run hid
  runMany := h.keeps_runMany hid
  close := keeps_close hclose

/-- The property is kept by whatever free contexts are used for. -/
structure Tends (P : Session → Prop) (F : Session → ContextId → Prop) : Prop where
  calm : ∀ {ids s t}, Calm s t → Fits P F ids s → Fits P F ids t
  access : ∀ {ids id}, id ∈ ids → Access (Fits P F ids) id
  adds : ∀ {ids s} {c : Context}, c.IsNew none none → Fits P F ids s →
    Fits P F (⟨s.contexts.length⟩ :: ids) { s with contexts := s.contexts ++ [c] }
  controls : ∀ {ids s} controls, Fits P F ids s → Fits P F ids { s with controls }

namespace Tends

variable (h : Tends P F) {ids : List ContextId}

include h

theorem keeps_calm {x : Act α} (hx : IsCalm x) : Keeps (Fits P F ids) x := hx.keeps h.calm

/-- A free context hosts statements of any text. -/
theorem hosts {id : ContextId} (hid : id ∈ ids) (texts : Value → Prop) :
    Hosts (Fits P F ids) texts id where
  calm := h.calm
  run := fun bindings _ => (h.access hid).run _ bindings

/-- A new context is free. -/
theorem yields_addContext {c : Context} (hc : c.IsNew none none) :
    Yields P F ids (fun id => [id]) (addContext c) :=
  fun _ hs => h.adds hc hs

/-- A context that was made for a server is free. -/
theorem yields_addServerContext (server : Value) :
    Yields P F ids (fun id => [id]) (addServerContext server) :=
  yields_ofExcept_bind fun _ hsource => h.yields_addContext
    ⟨rfl, fun hl => (nomatch ContextSource.of_choose hsource hl), nofun⟩

/-- Statements on a server run on the context that is on record for it or on a new one. -/
theorem serves {texts : Value → Value → Prop}
    (hplain : ∀ {server sql : Value}, sql.IsPlain → texts server sql)
    (hregistered : ∀ {s : Session} {server id}, Fits P F ids s →
      s.transactions.get? server = some id → Hosts (Fits P F ids) (texts server) id) :
    Serves (Fits P F ids) none texts := by
  refine ⟨hplain, fun server act hact s hs => ?_⟩
  refine meets_bind ((openTransaction?_outcome server s).mono_error fun t ht => ht ▸ hs) ?_
  rintro context t ⟨rfl, rfl⟩
  -- the statement runs in the open transaction, or on a context of its own that is closed
  cases hget : t.transactions.get? server with
  | some id => exact hact (hregistered hs hget) t hs
  | none =>
    refine (h.yields_addServerContext server).bind (fun id => ?_) t hs
    exact Gives.tryFinally (hact (h.hosts List.mem_cons_self _))
      (h.access List.mem_cons_self).close

end Tends

/-- Which contexts are free may not depend on the session. -/
theorem keeps_fits {free : ContextId → Prop} {x : Act α} (h : Keeps P x) {ids : List ContextId} :
    Keeps (Fits P (fun _ => free) ids) x := fun s hs =>
  (h s hs.holds).mono (fun _ _ ht => ⟨⟨ht.1, hs.free⟩, trivial⟩) fun _ ht => ⟨ht, hs.free⟩

/-- A condition on free contexts that survives access survives everything done with them. -/
theorem tends_of_free {free : ContextId → Prop} (calm : ∀ {s t}, Calm s t → P s → P t)
    (access : ∀ {id}, free id → Access P id)
    (adds : ∀ {s} {c : Context}, c.IsNew none none → P s →
      P { s with contexts := s.contexts ++ [c] } ∧ free ⟨s.contexts.length⟩)
    (controls : ∀ {s} controls, P s → P { s with controls }) : Tends P fun _ => free where
  calm := fun ht h => ⟨calm ht h.holds, h.free⟩
  -- a context in the list is free in every session in which the list fits
  access := fun {ids id} hid =>
    have hfree : ∀ {β : Type} {x : Act β}, (free id → Keeps P x) →
        Keeps (Fits P (fun _ => free) ids) x := fun hx s hs => keeps_fits (hx (hs.free id hid)) s hs
    { connection := hfree fun h => (access h).connection
      cursor := hfree fun h => (access h).cursor
      run := fun sql bindings => hfree fun h => (access h).run sql bindings
      runMany := fun sql rows => hfree fun h => (access h).runMany sql rows
      close := hfree fun h => (access h).close }
  adds := fun hc h =>
    have hadded := adds hc h.holds
    ⟨hadded.1, fun id hid => (List.mem_cons.1 hid).elim (fun heq => heq ▸ hadded.2) (h.free id)⟩
  controls := fun _ h => ⟨controls _ h.holds, h.free⟩

/-! ## Changes that access consists of -/

/-- The property survives access to any context, and the closing of free ones. -/
structure Supports (P : Session → Prop) (F : Session → ContextId → Prop) : Prop where
  rides : ∀ ids, Rides (Fits P F ids) fun _ => True
  closes : ∀ {ids id o s t}, id ∈ ids → Closes id o s t → Fits P F ids s → Fits P F ids t
  adds : ∀ {ids s} (c : Context), Fits P F ids s →
    Fits P F (⟨s.contexts.length⟩ :: ids) { s with contexts := s.contexts ++ [c] }
  controls : ∀ {ids s} controls, Fits P F ids s → Fits P F ids { s with controls }

namespace Supports

variable (h : Supports P F)

include h

/-- A condition that contexts carry is tended. -/
theorem tends : Tends P F where
  calm := fun ht => (h.rides _).quiet ht.toQuiet
  access := fun hid => (h.rides _).access trivial (h.closes hid)
  adds := fun {_ _ c} _ => h.adds c
  controls := h.controls

/-- Statements on a server run on any context, and only a context made for them is closed. -/
theorem serves {ids : List ContextId} : Serves (Fits P F ids) none fun _ _ => True :=
  h.tends.serves (fun _ => trivial) fun _ _ => (h.rides ids).hosts trivial _

end Supports

end Querysmith
