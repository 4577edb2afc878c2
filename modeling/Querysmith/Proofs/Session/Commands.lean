import Querysmith.Proofs.Session.Terms
import Querysmith.Proofs.Transaction.Basic

/-!
# What commands keep

Commands get at contexts by name or make them, run statements on them, close them, and begin and
end transactions. A property is kept by all commands that obey certain terms when it is kept by
these steps. The contexts that a command has got hold of, its own and those of the commands around
it, are kept in a list, so that the property may depend on which contexts commands can get hold of
at all.

## Key results

- `Carried.meets_run`, `Carried.meets_runAll`: commands that obey keep what their steps keep
- `Carried.holds_of_reaches`: so the property holds wherever a run comes to
- `Carried.keeps_runAll`: commands that may do anything
-/

namespace Querysmith

open Session EStateM

variable {α β : Type} {P : Session → Prop} {F : Session → ContextId → Prop} {terms : Terms}

/-- The steps of which commands are made up keep the property, as far as the terms allow them. -/
structure Carried (P : Session → Prop) (F : Session → ContextId → Prop) (terms : Terms) : Prop
    extends Tends P F where
  makes : ∀ {ids link cursor s t} {c : Context} (name : String),
    (∀ l, link = some l → terms.link l) →
    Lends link cursor s t → c.IsNew link cursor → Fits P F ids s → Fits P F ids
      { t with
        contexts := t.contexts ++ [c]
        contextNames := keep name ⟨t.contexts.length⟩ t.contextNames }
  names : ∀ {s e}, P s → e ∈ s.contextNames → terms.context e.2 → F s e.2
  named : ∀ {ids id s} (name : String), id ∈ ids → Fits P F ids s →
    Fits P F ids { s with contextNames := keep name id s.contextNames }
  serves : ∀ {ids}, Serves (Fits P F ids) none terms.sql
  begins : ∀ {ids given server}, terms.server server → (∀ id, given = some id → id ∈ ids) →
    Yields P F ids (fun id => [id]) (beginTransaction server given)
  commits : ∀ {ids server}, terms.server server → Keeps (Fits P F ids) (commitTransaction server)
  rollbacks : ∀ {ids server}, terms.server server →
    Keeps (Fits P F ids) (rollbackTransaction server)

/-- A property that survives all changes survives those of a context that a caller asks for. -/
theorem Supports.makes (h : Supports P F)
    (hnamed : ∀ {ids id s} (name : String), id ∈ ids → Fits P F ids s →
      Fits P F ids { s with contextNames := keep name id s.contextNames })
    {ids : List ContextId} {link : Option LinkId} {cursor : Option CursorId} {s t : Session}
    (name : String) (ht : Lends link cursor s t) (c : Context) (hs : Fits P F ids s) :
    Fits P F ids
      { t with
        contexts := t.contexts ++ [c]
        contextNames := keep name ⟨t.contexts.length⟩ t.contextNames } :=
  (hnamed name List.mem_cons_self (h.adds c ((h.rides ids).quiet ht.toQuiet hs))).mono
    fun _ hid => List.mem_cons_of_mem _ hid

/-! ## Names -/

/-- What a name stands for was kept. -/
theorem mem_of_named {entries : List (String × α)} {name : Value} {a : α}
    (h : named entries name = .ok a) : ∃ e ∈ entries, e.2 = a := by
  obtain ⟨key, _, hkey⟩ := Except.bind_eq_ok_iff.1 h
  cases hfound : key.str?.bind (named? entries) with
  | none =>
    rw [hfound] at hkey
    exact nomatch hkey
  | some b =>
    rw [hfound] at hkey
    cases hkey
    -- names are texts, and the first entry under the name is taken
    obtain ⟨text, _, htext⟩ := Option.bind_eq_some_iff.1 hfound
    obtain ⟨e, he, rfl⟩ := Option.map_eq_some_iff.1 htext
    exact ⟨e, List.mem_of_find?_eq_some he, rfl⟩

/-- An entry is the one that is kept or one that was there. -/
theorem mem_keep {name : String} {a : α} {entries : List (String × α)} {e : String × α}
    (h : e ∈ keep name a entries) : e = (name, a) ∨ e ∈ entries := by
  induction entries with
  | nil => exact .inl (List.mem_singleton.1 h)
  | cons f rest ih =>
    rw [keep] at h
    split at h
    · exact (List.mem_cons.1 h).imp_right (List.mem_cons_of_mem _)
    · rcases List.mem_cons.1 h with rfl | h
      · exact .inr List.mem_cons_self
      · exact (ih h).imp_right (List.mem_cons_of_mem _)

/-- Looking a context up changes nothing. -/
theorem contextNamed_outcome (name : Value) (s : Session) :
    (contextNamed name s).Meets (fun id t => t = s ∧ named s.contextNames name = .ok id)
      fun t => t = s := by
  show Result.Meets _ _ ((ofExcept (named s.contextNames name) : Act ContextId) s)
  cases hnamed : named s.contextNames name with
  | error e => exact rfl
  | ok id => exact ⟨rfl, rfl⟩

/-! ## Questions -/

/-- Asking a result opens and closes nothing. -/
theorem isCalm_askResult (id : CursorId) (question : ResultQuestion) :
    IsCalm (askResult id question) := by
  cases question with
  | rowCount => exact isCalm_rowCount id
  | lastRowId => exact isCalm_lastRowId id
  | fetchOne => exact (isCalm_fetchOne id).bind fun _ => isCalm_pure _
  | fetchAll => exact isCalm_allRows id
  | toFrame lowercase => exact (isCalm_toFrame id _).bind fun _ => isCalm_pure _
  | _ => exact isCalm_get.bind fun _ => isCalm_pure _

theorem isCalm_contextNamed (name : Value) : IsCalm (contextNamed name) :=
  isCalm_get.bind fun _ => isCalm_ofExcept _

theorem isCalm_resultNamed (name : Value) : IsCalm (resultNamed name) :=
  isCalm_get.bind fun _ => isCalm_ofExcept _

/-- Naming a context in a reply changes nothing. -/
theorem isCalm_replyForContext (id : Option ContextId) : IsCalm (replyForContext id) := by
  refine isCalm_get.bind fun s => ?_
  split
  · exact isCalm_pure _
  · exact isCalm_pure _

/-- Registries of the caller's own have no part in the connections. -/
theorem isCalm_askRegistry (name : String) (call : Call Value) :
    IsCalm (askRegistry name call) := by
  have hnamed : ∀ names : List Value, IsCalm (names.mapM contextNamed) := fun names s =>
    (Gives.mapM (W := fun _ => True) fun name _ => isCalm_contextNamed name s).keeps
  have harguments : ∀ arguments, IsCalm (registryArguments arguments) := by
    intro arguments
    cases arguments with
    | nil => exact isCalm_pure _
    | cons server names => exact (hnamed names).bind fun _ => isCalm_pure _
  rw [askRegistry]
  -- contexts are looked up by their names, and the registry itself is a value
  refine (harguments _).bind fun arguments => (isCalm_ofExcept _).bind fun call =>
    isCalm_get.bind fun s => ?_
  split
  · exact (isCalm_ofExcept _).bind fun _ => isCalm_replyForContext _
  · exact (isCalm_ofExcept _).bind fun _ => (isCalm_keepRegistry _ _).bind fun _ =>
      isCalm_replyForContext _
  · exact (isCalm_ofExcept _).bind fun _ => (isCalm_keepRegistry _ _).bind fun _ =>
      isCalm_replyForContext _
  · exact isCalm_pure _

/-! ## Contexts that are made -/

/-- A cursor is made when it is asked for and there is a connection. -/
theorem firstCursor_outcome (withCursor : Bool) (link : Option LinkId) (s : Session) :
    (firstCursor withCursor link s).Meets (fun cursor t => Lends link cursor s t)
      fun _ => False := by
  cases withCursor with
  | false => exact Lends.nothing link s
  | true =>
    cases link with
    | none => exact Lends.nothing none s
    | some l =>
      -- only a connection that is given gets a cursor at once
      refine meets_bind ((makeCursor_outcome l s).mono_error fun _ hf => hf.elim) ?_
      rintro k t ⟨ht, rfl, hindex, hmade⟩
      refine ⟨ht, ?_, ?_, ?_⟩
      · rintro _ ⟨⟩
        rfl
      · rintro _ ⟨⟩
        exact Nat.le_of_eq hindex.symm
      · rintro _ ⟨⟩
        exact hmade

/-- A context that a caller asks for is new, and is kept under its name. -/
theorem makeContext_outcome (name : String) (server : Option Value) (link : Option LinkId)
    (withCursor : Bool) (overrides : Entries) (s : Session) :
    (makeContext name server link withCursor overrides s).Meets
      (fun _ t => ∃ u c cursor, Lends link cursor s u ∧ c.IsNew link cursor ∧
        t = { u with
          contexts := u.contexts ++ [c]
          contextNames := keep name ⟨u.contexts.length⟩ u.contextNames })
      fun t => Calm s t := by
  refine meets_bind ((firstCursor_outcome withCursor link s).mono_error fun _ hf => hf.elim) ?_
  intro cursor u hu
  -- the context is made of what the request says, or the request is refused
  let request : ContextRequest :=
    { server, connection := link.map .handle, cursor := cursor.map .handle, overrides }
  show Result.Meets _ _ ((ofExcept request.context >>= fun c => do
    let id ← addContext c
    keepContext name id
    return .context id : Act Reply) u)
  cases hc : request.context with
  | error e => exact hu.toCalm
  | ok c => exact ⟨u, c, cursor, hu, ContextRequest.isNew hc rfl rfl, rfl⟩

/-- A given context is among those at hand. -/
theorem mem_given {given : Option ContextId} (ids : List ContextId) :
    ∀ id, given = some id → id ∈ given.toList ++ ids := fun id hid => by simp [hid]

namespace Carried

section

variable (h : Carried P F terms) {ids : List ContextId} {s : Session}

include h

/-! ## Contexts of commands -/

/-- A context that may be referred to is free. -/
theorem meets_contextNamed {name : Value} (hname : (ContextRef.named name).Obeys terms s)
    (hs : Fits P F ids s) :
    (contextNamed name s).Meets (fun id t => Fits P F (id :: ids) t) (Fits P F ids) := by
  refine (contextNamed_outcome name s).mono (fun id t ht => ?_) fun t ht => ht ▸ hs
  obtain ⟨rfl, hnamed⟩ := ht
  obtain ⟨e, he, rfl⟩ := mem_of_named hnamed
  refine ⟨hs.holds, fun id hid => ?_⟩
  rcases List.mem_cons.1 hid with rfl | hid
  · exact h.names hs.holds he (hname _ hnamed)
  · exact hs.free id hid

/-- The context of a caller, if there is one. -/
private def handles : Lent ContextId → List ContextId
  | .handle id => [id]
  | .value _ => []

/-- A reference gives contexts that are at hand. -/
theorem meets_refer {place : ContextRef} (hplace : place.Obeys terms s) (hs : Fits P F ids s) :
    (refer place s).Meets (fun target t => Fits P F (handles target ++ ids) t) (Fits P F ids) := by
  cases place with
  | named name => exact meets_bind (h.meets_contextNamed hplace hs) fun id t ht => ht
  | inPlace v => exact hs

/-- A context that is made anew is free, and a context of the caller is if it was. -/
theorem yields_contextOf {target : Lent ContextId} (hsub : ∀ id ∈ handles target, id ∈ ids)
    (overrides : Entries) : Yields P F ids (fun id => [id]) (contextOf target overrides) := by
  rw [contextOf.eq_def]
  refine Yields.after (keeps_ofExcept _) fun _ => ?_
  split
  · rename_i id
    exact yields_pure fun id' hid' => List.mem_singleton.1 hid' ▸ hsub id (List.mem_singleton.2 rfl)
  · exact yields_ofExcept_bind fun c hc => h.yields_addContext (ContextRequest.isNew hc rfl rfl)
  · exact h.yields_addContext ⟨rfl, nofun, nofun⟩

/-- The context that a target gives, if it gives one. -/
theorem meets_givenContext {target : Target} (htarget : target.Obeys terms s)
    (hs : Fits P F ids s) :
    (givenContext target s).Meets
      (fun given t => (given = none → target.context = none) ∧ Fits P F (given.toList ++ ids) t)
      (Fits P F ids) := by
  rw [givenContext]
  cases hcontext : target.context with
  | none => exact ⟨fun _ => rfl, hs⟩
  | some ref =>
    -- a context is referred to by name or made for the target, and is free in either case
    refine meets_bind (h.meets_refer (htarget ref hcontext) hs) fun place t ht => ?_
    refine meets_bind ((h.yields_contextOf (fun id hid => List.mem_append_left ids hid) [] t
      ht).mono_error fun _ hu => hu.of_append) fun id u hu => ?_
    refine ⟨nofun, hu.mono fun id' hid' => ?_⟩
    rcases List.mem_append.1 hid' with hid' | hid'
    · exact List.mem_append_left _ (by simpa [eq_comm] using hid')
    · exact List.mem_append_right _ (List.mem_append_right _ hid')

/-- A command on a target goes on with the context that the target gives. -/
theorem meets_onTarget {target : Target} {f : Option ContextId → Act α}
    (htarget : target.Obeys terms s) (hs : Fits P F ids s)
    (hf : ∀ {given} {t : Session}, givenContext target s = .ok given t →
      (given = none → target.context = none) → Fits P F (given.toList ++ ids) t →
      (f given t).Meets (fun _ => Fits P F (given.toList ++ ids))
        (Fits P F (given.toList ++ ids))) :
    ((givenContext target >>= f) s).Meets (fun _ => Fits P F ids) (Fits P F ids) := by
  have hgiven := h.meets_givenContext htarget hs
  -- the error and the result both leave free contexts as they were
  cases hrun : givenContext target s with
  | error e t =>
    rw [hrun] at hgiven
    rw [bind_of_error hrun]
    exact hgiven
  | ok given t =>
    rw [hrun] at hgiven
    rw [bind_of_ok hrun]
    exact (hf hrun hgiven.1 hgiven.2).mono (fun _ _ hu => hu.of_append) fun _ hu => hu.of_append

/-- Statements with the context of a target, in words of the caller where the terms allow it. -/
theorem servesGiven {given : Option ContextId} (hgiven : ∀ id, given = some id → id ∈ ids) :
    Serves (Fits P F ids) given fun server sql => given = none → terms.sql server sql := by
  cases given with
  | none =>
    have hserves : Serves (Fits P F ids) none terms.sql := h.serves
    refine ⟨fun hplain _ => hserves.plain hplain, fun server act hact => ?_⟩
    exact hserves.keeps server fun hhosts =>
      hact ⟨hhosts.calm, fun bindings hsql => hhosts.run bindings (hsql rfl)⟩
  | some id =>
    exact serves_of_hosts (fun _ => h.hosts (hgiven id rfl) _) fun _ hnone => nomatch hnone

/-- A statement on a target. -/
theorem meets_statement {target : Target} {f : Option ContextId → Act α}
    (htarget : target.Obeys terms s) (hs : Fits P F ids s)
    (hf : ∀ {ids given}, (given = none → target.context = none) →
      Serves (Fits P F ids) given (fun server sql => given = none → terms.sql server sql) →
      Keeps (Fits P F ids) (f given)) :
    ((givenContext target >>= f) s).Meets (fun _ => Fits P F ids) (Fits P F ids) :=
  h.meets_onTarget htarget hs fun _ hnone ht =>
    (hf hnone (h.servesGiven (mem_given _))).meets ht

/-! ## Commands, one by one -/

/-- Making a context keeps what a new context keeps. -/
theorem meets_makeContext {link : Option LinkId} (hlink : ∀ l, link = some l → terms.link l)
    (name : String) (server : Option Value) (withCursor : Bool) (overrides : Entries)
    (hs : Fits P F ids s) :
    (makeContext name server link withCursor overrides s).Meets (fun _ => Fits P F ids)
      (Fits P F ids) := by
  refine (makeContext_outcome name server link withCursor overrides s).mono (fun _ t ht => ?_)
    fun t ht => h.calm ht hs
  obtain ⟨u, c, cursor, hu, hc, rfl⟩ := ht
  exact h.makes name hlink hu hc hs

/-- Asking a context does no more than read, open or close its connection. -/
theorem keeps_askContext {id : ContextId} (hid : id ∈ ids) (question : ContextQuestion) :
    Keeps (Fits P F ids) (askContext id question) := by
  -- only closing and opening do something, the other questions read
  cases question with
  | shown => exact gives_get.bind fun _ _ => keeps_pure _
  | close => exact (h.access hid).close.bind fun _ => keeps_pure _
  | server => exact gives_get.bind fun _ _ => keeps_pure _
  | ownsConnection => exact gives_get.bind fun _ _ => keeps_pure _
  | connection =>
    refine (h.access hid).connection.bind fun link => ?_
    split
    · exact keeps_pure _
    · exact keeps_pure _
  | cursor =>
    refine (h.access hid).cursor.bind fun cursor => ?_
    split
    · exact keeps_pure _
    · exact keeps_pure _

/-- Running a statement on a context at hand. -/
theorem keeps_runOn {context : ContextId} (hcontext : context ∈ ids) (name : String) (sql : Value)
    (mode : RunMode) : Keeps (Fits P F ids) (runOn context name sql mode) := by
  -- a result that is kept changes nothing about contexts
  have hkept : ∀ values, Keeps (Fits P F ids) (runKept context name sql values) := fun values =>
    ((h.access hcontext).run _ _).bind fun _ =>
      (h.keeps_calm (isCalm_keepResult _ _)).bind fun _ => keeps_pure _
  rw [runOn.eq_def]
  split
  · exact hkept _
  · exact hkept _
  · exact gives_throw _
  · exact ((h.access hcontext).runMany _ _).bind fun _ =>
      (h.keeps_calm (isCalm_keepResult _ _)).bind fun _ => keeps_pure _
  · exact ((h.access hcontext).run _ _).bind fun cursor =>
      (h.keeps_calm (isCalm_toFrame cursor _)).bind fun _ => keeps_pure _

/-- Running a statement on a context that is referred to, and perhaps closing it. -/
theorem meets_executeAt {place : ContextRef} (hplace : place.Obeys terms s) (name : String)
    (overrides : Entries) (sql : Value) (mode : RunMode) (closing : Bool) (hs : Fits P F ids s) :
    (executeAt name place overrides sql mode closing s).Meets (fun _ => Fits P F ids)
      (Fits P F ids) := by
  refine meets_bind (h.meets_refer hplace hs) fun target t ht => ?_
  -- from here on the context may be used that the place stands for, or the new one
  have hrest : Keeps (Fits P F (handles target ++ ids)) (do
      let settled ← ofExcept (settle overrides mode)
      let context ← contextOf target settled.2
      if closing then
        try runOn context name sql settled.1 finally closeTarget target context
      else runOn context name sql settled.1 : Act Reply) := by
    refine (keeps_ofExcept _).bind fun settled => ?_
    refine (h.yields_contextOf (fun id hid => List.mem_append_left ids hid) settled.2).bind
      fun context => ?_
    have hcontext : context ∈ [context] ++ (handles target ++ ids) := List.mem_cons_self
    split
    · -- the context is closed at the end, also when the statement has failed
      refine Gives.tryFinally (h.keeps_runOn hcontext name sql settled.1) ?_
      rw [closeTarget.eq_def]
      split
      · exact (h.access hcontext).close
      · exact (h.access hcontext).close
      · exact gives_throw _
    · exact h.keeps_runOn hcontext name sql settled.1
  exact (hrest t ht).mono (fun _ _ hu => hu.1.of_append) fun _ hu => hu.of_append

/-- Beginning a transaction and naming its context. -/
theorem keeps_beginNamed {given : Option ContextId} (hgiven : ∀ id, given = some id → id ∈ ids)
    {server : Value} (hserver : terms.server server) (name : Option String) :
    Keeps (Fits P F ids) (beginNamed name server given) := by
  rw [beginNamed]
  refine (h.begins hserver hgiven).bind fun id => ?_
  cases name with
  | none => exact (keeps_pure _).bind fun _ => keeps_pure _
  | some name =>
    refine Keeps.bind (keeps_modify fun _ hs => ?_) fun _ => keeps_pure _
    exact h.named name List.mem_cons_self hs

/-- An action inside a transaction, from the sessions in which the transaction has begun. -/
theorem meets_inTransaction {given : Option ContextId} {server : Value} {act : Act α}
    (hserver : terms.server server) (hgiven : ∀ id, given = some id → id ∈ ids)
    (hs : Fits P F ids s)
    (hact : ∀ {id} {t : Session}, beginTransaction server given s = .ok id t → Fits P F ids t →
      (act t).Meets (fun _ => Fits P F ids) (Fits P F ids)) :
    (inTransaction server given act s).Meets (fun _ => Fits P F ids) (Fits P F ids) := by
  rw [inTransaction]
  -- the context of the transaction is free from here on
  have hbegin := h.begins hserver hgiven s hs
  cases hrun : beginTransaction server given s with
  | error e t =>
    rw [hrun] at hbegin
    rw [bind_of_error hrun]
    exact hbegin
  | ok id t =>
    rw [hrun] at hbegin
    rw [bind_of_ok hrun]
    -- the callback and COMMIT are tried, and after a failure of either comes ROLLBACK
    refine meets_tryCatch (E := Fits P F ids) ?_ fun e u hu => ?_
    · refine meets_bind (hact hrun hbegin.of_append) fun result u hu => ?_
      have hcommit : Keeps (Fits P F ids) (do commitTransaction server; pure result : Act α) :=
        (h.commits hserver).bind fun _ => keeps_pure result
      exact hcommit.meets hu
    -- a rollback that fails is noted, and the failure is raised in any case
    · have hend : Keeps (Fits P F ids) (tryCatchThe Error (rollbackTransaction server) fun _ =>
          note .error ("Rollback on server '" ++ server.text ++ "' failed")) :=
        Gives.tryCatch (h.rollbacks hserver) fun _ => h.keeps_calm (isCalm_note _ _)
      have hfails : Keeps (Fits P F ids) (throw (.transactionFailed server e) : Act α) :=
        gives_throw _
      exact ((h.keeps_calm (isCalm_note _ _)).bind fun _ => hend.bind fun _ => hfails).meets hu

end

/-! ## Commands of any depth -/

mutual
/-- A command keeps what its steps keep, whether it fails or not, when all that its run comes to
obeys the terms. -/
theorem meets_run (h : Carried P F terms) : (command : Command) → {ids : List ContextId} →
    {s : Session} → (∀ {reached t}, Reaches [command] s reached t → reached.Obeys terms t) →
    Fits P F ids s → (command.run s).Meets (fun _ => Fits P F ids) (Fits P F ids)
  | .value v, _, _, _, hs => by
    rw [Command.run]
    exact hs
  | .fail cause none, _, _, _, hs => hs
  | .fail cause (some ref), _, s, _, hs => by
    -- the context is looked up and nothing is done with it
    have href : Keeps (fun t => t = s) (refer ref) := by
      intro t ht
      cases ref with
      | named name =>
        exact meets_bind ((contextNamed_outcome name t).mono (fun _ _ hu => hu.1.trans ht)
          fun _ hu => hu.trans ht) fun _ _ hu => ⟨hu, trivial⟩
      | inPlace v => exact ⟨ht, trivial⟩
    exact meets_bind ((href.meets rfl).mono_error fun _ hu => hu ▸ hs) fun _ _ hu => hu ▸ hs
  | .makeContext name server link withCursor overrides, _, _, hobeys, hs => by
    rw [Command.run]
    exact h.meets_makeContext (hobeys .head) name server withCursor overrides hs
  | .askContext name question, _, _, hobeys, hs => by
    rw [Command.run]
    refine meets_bind (h.meets_contextNamed (hobeys .head) hs) fun id t ht => ?_
    exact ((keeps_ofExcept _).bind fun question =>
      h.keeps_askContext List.mem_cons_self question) t ht |>.mono
        (fun _ _ hu => hu.1.tail) fun _ hu => hu.tail
  -- the commands inside run before the context is closed, on success as on failure
  | .withContext name body, ids, s, hobeys, hs => by
    have hname := h.meets_contextNamed (hobeys .head) hs
    rw [Command.run]
    cases hrun : contextNamed name s with
    | error e t =>
      rw [hrun] at hname
      rw [bind_of_error hrun]
      exact hname
    | ok id t =>
      rw [hrun] at hname
      rw [bind_of_ok hrun]
      have hbody := h.meets_runAll body (fun hreach => hobeys (.within hrun hreach)) hname
      have hclose : Keeps (Fits P F (id :: ids)) id.close := (h.access List.mem_cons_self).close
      exact meets_tryFinally hbody
        (fun _ u hu => (hclose u hu).mono (fun _ _ hv => hv.1.tail) fun _ hv => hv.tail)
        fun u hu => (hclose u hu).mono (fun _ _ hv => hv.1.tail) fun _ hv => hv.tail
  | .configure server config, _, _, _, hs => by
    rw [Command.run]
    exact meets_bind ((h.keeps_calm (isCalm_onProfiles _)).meets hs) fun _ _ ht => ht
  | .showServer server, _, _, _, hs => by
    rw [Command.run]
    exact hs
  | .openServers, _, _, _, hs => by
    rw [Command.run]
    exact hs
  -- statements go to the context of the target, or to one of their own
  | .query sql values shape target, _, _, hobeys, hs => by
    rw [Command.run, queryOn_eq]
    exact h.meets_statement (hobeys .head).1 hs fun hnone hserves =>
      hserves.keeps_query (fun hgiven => (hobeys .head).2 (hnone hgiven)) values shape
  | .build table steps target, _, _, hobeys, hs => by
    rw [Command.run, builderOn_eq]
    exact h.meets_statement (hobeys .head) hs fun _ hserves => hserves.keeps_runAll rfl steps
  | .insertRow table data server, _, _, _, hs => by
    rw [Command.run]
    exact (h.serves.keeps_insertRow table data server).meets hs
  | .replaceRow table data server, _, _, _, hs => by
    rw [Command.run]
    exact (h.serves.keeps_replaceRow table data server).meets hs
  | .updateRows table data calls target, _, _, hobeys, hs => by
    rw [Command.run]
    exact h.meets_statement (hobeys .head) hs fun _ hserves =>
      hserves.keeps_updateRows table data calls target.server
  | .deleteRows table conditions server, _, _, _, hs => by
    rw [Command.run]
    exact (h.serves.keeps_deleteRows table conditions server).meets hs
  | .changeTable change target, _, _, hobeys, hs => by
    rw [Command.run]
    exact h.meets_statement (hobeys .head) hs fun _ hserves =>
      hserves.keeps_changeTable change target.server
  | .hasTable table target, _, _, hobeys, hs => by
    rw [Command.run]
    exact h.meets_statement (hobeys .head) hs fun _ hserves =>
      hserves.keeps_hasTable table target.server
  | .beginTransaction name target, _, _, hobeys, hs => by
    rw [Command.run]
    exact h.meets_onTarget (hobeys .head).1 hs fun _ _ ht =>
      (h.keeps_beginNamed (mem_given _) (hobeys .head).2 name).meets ht
  | .commitTransaction server, _, _, hobeys, hs => by
    rw [Command.run]
    exact meets_bind ((h.commits (hobeys .head)).meets hs) fun _ _ ht => ht
  | .rollbackTransaction server, _, _, hobeys, hs => by
    rw [Command.run]
    exact meets_bind ((h.rollbacks (hobeys .head)).meets hs) fun _ _ ht => ht
  -- the commands inside are reached after BEGIN only
  | .inTransaction body target, _, _, hobeys, hs => by
    rw [Command.run]
    exact h.meets_onTarget (hobeys .head).1 hs fun hgiven _ ht =>
      h.meets_inTransaction (hobeys .head).2 (mem_given _) ht fun hbegin hu =>
        h.meets_runAll body (fun hreach => hobeys (.inside hgiven hbegin hreach)) hu
  | .execute name place overrides sql mode closing, _, _, hobeys, hs => by
    rw [Command.run]
    exact h.meets_executeAt (hobeys .head) name overrides sql mode closing hs
  | .askResult name question, _, _, _, hs => by
    rw [Command.run]
    exact ((h.keeps_calm (isCalm_resultNamed name)).bind fun id => (keeps_ofExcept _).bind
      fun question => h.keeps_calm (isCalm_askResult id question)).meets hs
  | .askRegistry name call, _, _, _, hs => by
    rw [Command.run]
    exact (h.keeps_calm (isCalm_askRegistry name call)).meets hs

/-- Commands keep what their steps keep, up to the one that fails. -/
theorem meets_runAll (h : Carried P F terms) : (commands : List Command) →
    {ids : List ContextId} → {s : Session} →
    (∀ {reached t}, Reaches commands s reached t → reached.Obeys terms t) → Fits P F ids s →
    (Command.runAll commands s).Meets (fun _ => Fits P F ids) (Fits P F ids)
  | [], _, _, _, hs => by
    rw [Command.runAll]
    exact hs
  | [command], _, _, hobeys, hs => by
    rw [Command.runAll]
    exact h.meets_run command hobeys hs
  -- what the rest reaches is reached after the first command
  | command :: next :: rest, ids, s, hobeys, hs => by
    show ((command.run >>= fun _ => Command.runAll (next :: rest)) s).Meets _ _
    have hrun := h.meets_run command (fun hreach => hobeys (hreach.append _)) hs
    cases hresult : command.run s with
    | error e t =>
      rw [hresult] at hrun
      rw [bind_of_error hresult]
      exact hrun
    | ok reply t =>
      rw [hresult] at hrun
      rw [bind_of_ok hresult]
      exact h.meets_runAll (next :: rest) (fun hreach => hobeys (.tail hresult hreach)) hrun
end

/-- The property holds wherever a run comes to that obeys the terms all along. -/
theorem holds_of_reaches (h : Carried P F terms) {commands : List Command} {s t : Session}
    {reached : Command} (hreach : Reaches commands s reached t) {ids : List ContextId}
    (hobeys : ∀ {reached t}, Reaches commands s reached t → reached.Obeys terms t)
    (hs : Fits P F ids s) : P t := by
  induction hreach generalizing ids with
  | head => exact hs.holds
  | tail hrun _ ih =>
    have hmeets := h.meets_run _ (fun hreach => hobeys (hreach.append _)) hs
    rw [hrun] at hmeets
    exact ih (fun hreach => hobeys (.tail hrun hreach)) hmeets
  -- the command runs on a context that has a name
  | within hname _ ih =>
    have hmeets := h.meets_contextNamed (hobeys .head) hs
    rw [hname] at hmeets
    exact ih (fun hreach => hobeys (.within hname hreach)) hmeets
  -- the command runs in a transaction, whose context is free
  | inside hgiven hbegin _ ih =>
    have hmeets := h.meets_givenContext (hobeys .head).1 hs
    rw [hgiven] at hmeets
    have hbegun := h.begins (hobeys .head).2 (mem_given _) _ hmeets.2
    rw [hbegin] at hbegun
    exact ih (fun hreach => hobeys (.inside hgiven hbegin hreach)) hbegun

/-- Commands on which there are no terms, one after the other. -/
theorem keeps_runAll (h : Carried P F .any) (commands : List Command) {ids : List ContextId} :
    Keeps (Fits P F ids) (Command.runAll commands) := fun _ hs =>
  (h.meets_runAll commands (fun _ => Command.obeys_any _ _) hs).mono
    (fun _ _ ht => ⟨ht, trivial⟩) fun _ ht => ht

end Carried

end Querysmith
