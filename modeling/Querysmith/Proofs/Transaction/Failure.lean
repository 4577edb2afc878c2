import Querysmith.Proofs.Transaction.Basic

/-!
# Transactions that cannot be begun

A transaction that cannot be begun leaves the registry as it was, and no connection open that was
opened for it, with one exception: a transaction that takes the place of another one is on record
before the other one is rolled back, and stays there when that fails.

## Key results

- `startTransaction_undone`: a BEGIN that fails leaves nothing behind
- `recordTransaction_outcome`: what a failure after it leaves on record
- `beginTransaction_error`: the ways in which a transaction fails to begin
- `rollbackTransaction_outcome`: after it, the registry has nothing for the server
- `undone_iff_not_replaces`: when a failure leaves nothing behind
-/

namespace Querysmith

open Session EStateM

namespace Session

/-- A call has left the registry as it was. If it was to make a context of its own, it has closed
every connection that it has opened. -/
structure Undone (given : Option ContextId) (s t : Session) : Prop where
  registry : ∀ server, t.transactions.get? server = s.transactions.get? server
  closed : given = none → ∀ l ∈ openedLinks (since s t), l ∈ closedLinks (since s t)

/-- BEGIN succeeds on a context, while the registry has another one for the server. -/
def Replaces (server : Value) (given : Option ContextId) (s : Session) : Prop :=
  ∃ context u other, startTransaction server given s = .ok context u ∧
    s.transactions.get? server = some other ∧ other ≠ context

theorem Undone.refl (given : Option ContextId) (s : Session) : Undone given s s := by
  refine ⟨fun _ => rfl, fun _ l hl => ?_⟩
  simp [since, openedLinks] at hl

/-- A call for a context of the caller answers for the registry only. -/
theorem Undone.of_given {s t : Session} (context : ContextId)
    (h : t.transactions = s.transactions) : Undone (some context) s t :=
  ⟨fun _ => by rw [h], by simp⟩

/-- What a context has opened is what it holds. -/
structure Tracks (id : ContextId) (s t : Session) : Prop extends Advances s t where
  opened : openedLinks t.trace = ((t.context id).opened.map OpenLink.link).toList ++
    openedLinks s.trace
  closed : closedLinks t.trace = closedLinks s.trace

/-- Using a context keeps track of it. -/
theorem tracks_rides (id : ContextId) (s : Session) : Rides (Tracks id s) (· = id) where
  quiet := fun {t u} hu h => by
    refine ⟨h.toAdvances.trans hu.toAdvances, ?_, hu.closed.trans h.closed⟩
    rw [hu.opened, h.opened, opened_congr hu.contexts]
  opens := by
    intro other o t u hother hu h
    subst hother
    refine ⟨h.toAdvances.trans hu.toAdvances, ?_, hu.closed.trans h.closed⟩
    rw [hu.opened, h.opened, hu.unopened, context_of_set hu.contexts (lt_of_ownsConnection hu.owns)]
    rfl
  draws := by
    intro other k t u hother hu h
    subst hother
    refine ⟨h.toAdvances.trans hu.toAdvances, ?_, hu.closed.trans h.closed⟩
    rw [hu.opened, h.opened]
    -- a context that was never made is not in the table, and nothing is set for it
    rcases Nat.lt_or_ge other.index t.contexts.length with hlt | hge
    · rw [context_of_set hu.contexts hlt]
    · have hsame := hu.contexts
      rw [List.set_eq_of_length_le hge] at hsame
      rw [opened_congr hsame]

/-- A context that was closed has no connection left that it has opened. -/
theorem Tracks.close {id : ContextId} {s t : Session} (h : Tracks id s t) :
    (id.close t).Meets (fun _ u => Undone none s u) fun _ => False := by
  refine (close_outcome id t).mono (fun _ u hu => ?_) fun _ hf => hf
  have hopened := h.opened
  cases hheld : (t.context id).opened with
  | none =>
    -- nothing was opened since, and so nothing is open
    rw [hheld] at hu hopened
    subst hu
    refine ⟨fun server => by rw [h.transactions], fun _ l hl => ?_⟩
    rw [openedLinks, filterMap_since h.trace hopened] at hl
    exact absurd hl List.not_mem_nil
  | some o =>
    -- one connection was opened since, and this is the one that is closed
    rw [hheld] at hu hopened
    have htrace := h.trace.trans hu.trace
    have hclosed : closedLinks u.trace = [o.link] ++ closedLinks s.trace := by
      rw [hu.closed, h.closed, List.singleton_append]
    refine ⟨fun server => by rw [hu.transactions, h.transactions], fun _ l hl => ?_⟩
    rw [openedLinks, filterMap_since htrace (hu.opened.trans hopened)] at hl
    rw [closedLinks, filterMap_since htrace hclosed]
    exact hl

end Session

/-! ## The registry after a failure -/

/-- Giving a transaction up changes the connections only. -/
theorem keeps_giveUp (r : Registry) (id : ContextId) :
    Keeps (fun s => s.transactions = r) id.giveUp :=
  Gives.tryFinally (keeps_control r id _) (keeps_close fun ht h => ht.transactions.trans h)

/-- A BEGIN that fails leaves nothing behind, and no context made for it is left open. -/
theorem startTransaction_undone (server : Value) (given : Option ContextId) (s : Session) :
    (startTransaction server given s).Meets
      (fun _ t => t.transactions = s.transactions ∧
        (given = none → server.key? ≠ none))
      (Undone given s) := by
  rw [startTransaction]
  cases given with
  | some context =>
    -- a context of the caller is left as it is
    refine meets_bind (P := fun c t => c = context ∧ t = s) ⟨rfl, rfl⟩ ?_
    rintro c t ⟨rfl, rfl⟩
    have hbegin := keeps_control t.transactions c .begin t rfl
    refine meets_bind (meets_tryCatch hbegin fun e u hu => ?_) fun _ u hu => ⟨hu.1, by simp⟩
    exact Undone.of_given c hu
  | none =>
    refine meets_bind ((addServerContext_outcome server [] s).mono_error
      fun u hu => hu ▸ Undone.refl none s) ?_
    rintro id u ⟨rfl, hu⟩
    -- a new context is followed from its making to its closing
    have hcontext : u.context ⟨s.contexts.length⟩ = { source := .server server [] } := by
      simp [context, hu]
    have htracks : Tracks ⟨s.contexts.length⟩ u u :=
      ⟨Advances.refl u, by rw [hcontext]; rfl, rfl⟩
    have hbegin : (ContextId.control ⟨s.contexts.length⟩ .begin u).Meets
        (fun _ t => t.transactions = s.transactions ∧ server.key? ≠ none)
        (Tracks ⟨s.contexts.length⟩ u) := by
      cases hkey : server.key? with
      | none =>
        -- a server that cannot be a key cannot be looked up among the profiles
        obtain ⟨e, hcontrol⟩ := control_of_key?_eq_none hkey hcontext .begin
        rw [hcontrol]
        exact htracks
      | some key =>
        refine (control_outcome (tracks_rides _ u) rfl .begin htracks).mono ?_ fun _ ht => ht
        rintro _ _ ⟨t, controls, ht, rfl⟩
        exact ⟨ht.transactions.trans (by rw [hu]), Option.some_ne_none key⟩
    refine meets_bind (meets_tryCatch hbegin fun e t ht => ?_) fun _ t ht => ⟨ht.1, fun _ => ht.2⟩
    refine meets_bind (ht.close.mono_error fun _ hf => hf.elim) fun _ v hv => ?_
    have hsince : since u v = since s v := by rw [since, since, hu]
    exact ⟨fun server' => by rw [hv.registry, hu], hsince ▸ hv.closed⟩

/-- A failure to put a transaction on record comes before it is there, for a server that cannot be
a key, or after that, when the transaction in its place cannot be given up. -/
theorem recordTransaction_outcome (server : Value) (context : ContextId) (s : Session) :
    (recordTransaction server context s).Meets (fun _ _ => True) fun t =>
      ((∃ e, server.asKey = .error e) ∧ t.transactions = s.transactions) ∨
      ∃ other, s.transactions.get? server = some other ∧ other ≠ context ∧
        t.transactions = s.transactions.insert server context := by
  refine meets_recordTransaction (fun e he => .inl ⟨⟨e, he⟩, rfl⟩) (fun _ => trivial) ?_
  -- giving up the other context does not change the registry
  intro other t hget hne ht
  exact (keeps_giveUp _ other t ht.transactions).mono (fun _ _ _ => trivial)
    fun u hu => .inr ⟨other, hget, hne, hu⟩

/-- A transaction fails to begin where BEGIN fails, for a server that cannot be a key, or when the
transaction in its place cannot be given up. -/
theorem beginTransaction_error {server : Value} {given : Option ContextId} {s t : Session}
    {e : Error} (h : beginTransaction server given s = .error e t) :
    (startTransaction server given s = .error e t) ∨
    (∃ context u, startTransaction server given s = .ok context u ∧
      (∃ e', server.asKey = .error e') ∧ t.transactions = s.transactions) ∨
    ∃ context u other, startTransaction server given s = .ok context u ∧
      s.transactions.get? server = some other ∧ other ≠ context ∧
      t.transactions = s.transactions.insert server context := by
  rw [beginTransaction] at h
  cases hstart : startTransaction server given s with
  | error e' u =>
    rw [bind_of_error hstart] at h
    cases h
    exact .inl rfl
  | ok context u =>
    rw [bind_of_ok hstart] at h
    have hstarted := startTransaction_undone server given s
    rw [hstart] at hstarted
    have hrecorded := recordTransaction_outcome server context u
    cases hrecord : recordTransaction server context u with
    | ok _ v =>
      -- what is left is a message and cannot fail
      rw [bind_of_ok hrecord] at h
      cases h
    -- the failure comes from the record, with BEGIN already sent
    | error e' v =>
      rw [bind_of_error hrecord] at h
      cases h
      rw [hrecord] at hrecorded
      rw [← hstarted.1]
      rcases hrecorded with ⟨hkey, hregistry⟩ | ⟨other, hget, hne, hregistry⟩
      · exact .inr (.inl ⟨context, u, rfl, hkey, hregistry⟩)
      · exact .inr (.inr ⟨context, u, other, rfl, hget, hne, hregistry⟩)

/-! ## Rolling back -/

/-- However a rollback ends, the registry has no transaction for the server after it. -/
theorem rollbackTransaction_outcome (server : Value) (s : Session) :
    (rollbackTransaction server s).Meets (fun _ t => t.transactions.get? server = none)
      fun t => t.transactions.get? server = none := by
  have hnote : ∀ level text, Keeps (fun t => t.transactions.get? server = none)
      (note level text) := fun level text =>
    (isQuiet_note level text).keeps fun hq h => by rw [hq.transactions, h]
  rw [rollbackTransaction]
  refine meets_bind ((takeTransaction_outcome server s).mono_error ?_) ?_
  · rintro t ⟨_, e, hkey⟩
    exact t.transactions.get?_of_key?_eq_none (Value.key?_of_asKey_error hkey)
  · -- the entry is taken out before ROLLBACK is sent
    rintro context t ⟨_, rfl⟩
    have hnone : (s.dropTransaction server).transactions.get? server = none :=
      s.transactions.get?_erase_self server
    cases context with
    | none => exact (hnote _ _).meets hnone
    | some c =>
      refine meets_bind (P := fun _ t => t.transactions.get? server = none) ?_ ?_
      · refine (keeps_giveUp _ c _ rfl).mono (fun _ u hu => ?_) fun u hu => ?_
        · rw [hu.1, hnone]
        · rw [hu, hnone]
      · exact fun _ u hu => (hnote _ _).meets hu

/-- An action that fails inside a transaction leaves no transaction for the server behind. -/
theorem get?_of_inTransaction_error {α : Type} {server : Value} {given : Option ContextId}
    {act : Act α} {s u t : Session} {c : ContextId} {e : Error}
    (hbegin : beginTransaction server given s = .ok c u)
    (h : inTransaction server given act s = .error e t) : t.transactions.get? server = none := by
  have hmeets : (inTransaction server given act s).Meets (fun _ _ => True)
      fun t => t.transactions.get? server = none := by
    rw [inTransaction, bind_of_ok hbegin]
    -- whatever has failed, the rollback takes the entry out
    refine meets_tryCatch (P := fun _ _ => True) (E := fun _ => True) ?_ fun e v _ => ?_
    · generalize ((do
        let result ← act
        commitTransaction server
        pure result : Act α) u) = r
      cases r <;> exact trivial
    · refine meets_bind (P := fun _ _ => True) (show Result.Meets _ _ (Result.ok _ _) from trivial)
        fun _ w _ => ?_
      refine meets_bind (P := fun _ (x : Session) => x.transactions.get? server = none) ?_
        fun _ x hx => hx
      exact meets_tryCatch (rollbackTransaction_outcome server w) fun _ x hx => hx
  rw [h] at hmeets
  exact hmeets

/-! ## What a failure leaves behind -/

/-- The transaction that has begun is on record after a failure. -/
private def Remains (server : Value) (given : Option ContextId) (s t : Session) : Prop :=
  ∃ context u, startTransaction server given s = .ok context u ∧
    t.transactions.get? server = some context

/-- A transaction that fails to begin leaves nothing behind, or replaces another one and remains. -/
private theorem undone_or_replaces {server : Value} {given : Option ContextId} {s t : Session}
    {e : Error} (h : beginTransaction server given s = .error e t) :
    (Undone given s t ∧ ¬ Replaces server given s ∧ ¬ Remains server given s t) ∨
    (¬ Undone given s t ∧ Replaces server given s ∧ Remains server given s t) := by
  have hstarted := startTransaction_undone server given s
  -- BEGIN failed, or its server cannot be a key, or the context that it replaces cannot be closed
  rcases beginTransaction_error h with hstart | ⟨c, u, hstart, ⟨e', hkey⟩, hregistry⟩ |
    ⟨c, u, other, hstart, hget, hne, hregistry⟩
  · rw [hstart] at hstarted
    refine .inl ⟨hstarted, ?_, ?_⟩
    · rintro ⟨_, _, _, hok, _⟩
      cases hstart.symm.trans hok
    · rintro ⟨_, _, hok, _⟩
      cases hstart.symm.trans hok
  · rw [hstart] at hstarted
    have hnokey := Value.key?_of_asKey_error hkey
    have hundone : Undone given s t :=
      ⟨fun _ => by rw [hregistry], fun hnone => absurd hnokey (hstarted.2 hnone)⟩
    refine .inl ⟨hundone, ?_, ?_⟩
    · rintro ⟨_, _, _, _, hget, _⟩
      cases (Registry.get?_of_key?_eq_none hnokey _).symm.trans hget
    · rintro ⟨_, _, _, hget⟩
      cases (Registry.get?_of_key?_eq_none hnokey _).symm.trans hget
  · -- the new transaction is on record, where another one was before
    have hinsert : t.transactions.get? server = some c := by
      rw [hregistry, Registry.get?_insert, Registry.sameKey_self hget, if_pos rfl]
    refine .inr ⟨fun hundone => hne ?_, ⟨c, u, other, hstart, hget, hne⟩, c, u, hstart, hinsert⟩
    exact Option.some.inj (hget.symm.trans ((hundone.registry server).symm.trans hinsert))

/-- A transaction that fails to begin leaves nothing behind unless it replaces another one. An
action in a transaction that fails leaves the transaction behind only when it has failed to begin
in that way. -/
theorem undone_iff_not_replaces {α : Type} (server : Value) (given : Option ContextId)
    (act : Act α) (s : Session) :
    (∀ e t, beginTransaction server given s = .error e t →
      (Undone given s t ↔ ¬ Replaces server given s)) ∧
    ∀ e t, inTransaction server given act s = .error e t →
      ((∃ context u, startTransaction server given s = .ok context u ∧
          t.transactions.get? server = some context) ↔
        beginTransaction server given s = .error e t ∧ Replaces server given s) := by
  refine ⟨fun e t h => ?_, fun e t h => ?_⟩
  -- a failing BEGIN is undone, or another transaction was replaced
  · rcases undone_or_replaces h with ⟨hundone, hnot, _⟩ | ⟨hundone, hreplaces, _⟩
    · exact iff_of_true hundone hnot
    · exact iff_of_false hundone fun hnot => hnot hreplaces
  -- once BEGIN has succeeded, a failure leaves no entry
  · cases hbegin : beginTransaction server given s with
    | ok c u =>
      rw [get?_of_inTransaction_error hbegin h]
      simp
    | error e' u =>
      rw [inTransaction, bind_of_error hbegin] at h
      cases h
      rcases undone_or_replaces hbegin with ⟨_, hnot, hremains⟩ | ⟨_, hreplaces, hremains⟩
      · exact iff_of_false hremains fun h => hnot h.2
      · exact iff_of_true hremains ⟨rfl, hreplaces⟩

/-- A session with an open transaction, on a connection that cannot roll back. -/
def stubbornSession : Session :=
  ((do
    onProfiles (ProfileBook.configure (.str "a") (.map [(.str "account", .str "x")]))
    beginTransaction (.str "a") none : Act ContextId)
    { supply := [{ failures := [(.str "ROLLBACK", "no")] }] }).state

/-- With a transaction already open, a failing BEGIN is not undone. -/
theorem undone_iff_not_replaces_stubborn :
    stubbornSession.transactions.get? (.str "a") = some ⟨0⟩ ∧
    (∃ e t, beginTransaction (.str "a") none stubbornSession = .error e t ∧
      t.transactions.get? (.str "a") = some ⟨1⟩ ∧ openedLinks (since stubbornSession t) = [⟨1⟩] ∧
      closedLinks (since stubbornSession t) = [⟨0⟩] ∧ ¬ Undone none stubbornSession t) ∧
    Replaces (.str "a") none stubbornSession ∧
    ∃ e t, inTransaction (.str "a") none (pure ()) stubbornSession = .error e t ∧
      ∃ context u, startTransaction (.str "a") none stubbornSession = .ok context u ∧
        t.transactions.get? (.str "a") = some context := by
  -- the registry, the connections opened and those closed, before and after
  have hold : stubbornSession.transactions.get? (.str "a") = some ⟨0⟩ := by decide +kernel
  have hnew : (beginTransaction (.str "a") none stubbornSession).state.transactions.get?
      (.str "a") = some ⟨1⟩ := by decide +kernel
  have hopened : openedLinks (since stubbornSession
      (beginTransaction (.str "a") none stubbornSession).state) = [⟨1⟩] := by decide +kernel
  have hclosed : closedLinks (since stubbornSession
      (beginTransaction (.str "a") none stubbornSession).state) = [⟨0⟩] := by decide +kernel
  have hfails : (beginTransaction (.str "a") none stubbornSession).value? = none := by
    decide +kernel
  obtain ⟨e, t, hbegin⟩ := Result.value?_eq_none_iff.1 hfails
  rw [hbegin] at hnew hopened hclosed
  have hexact := undone_iff_not_replaces (.str "a") none (pure ()) stubbornSession
  -- the registry has another context than before
  have hundone : ¬ Undone none stubbornSession t := fun h =>
    absurd (hnew.symm.trans ((h.registry _).trans hold)) (by decide)
  have hreplaces : Replaces (.str "a") none stubbornSession :=
    Classical.not_not.1 fun h => hundone ((hexact.1 e t hbegin).2 h)
  have hinside : inTransaction (.str "a") none (pure ()) stubbornSession = .error e t :=
    bind_of_error hbegin _
  exact ⟨hold, ⟨e, t, hbegin, hnew, hopened, hclosed, hundone⟩, hreplaces, e, t, hinside,
    (hexact.2 e t hinside).2 ⟨hbegin, hreplaces⟩⟩

end Querysmith
