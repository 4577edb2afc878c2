import Querysmith.Database.Transaction
import Querysmith.Proofs.Session.Free

/-!
# Transactions, part by part

What the parts of transactions do to a session, as far as all results about transactions need it.

## Key results

- `takeTransaction_outcome`: the entry of a server is taken out
- `meets_recordTransaction`: the registry changes before a transaction is given up
- `control_of_key?_eq_none`: no transaction is begun for a server that is the same key as nothing
- `keeps_inTransaction`: an action inside a transaction keeps what its parts keep
-/

namespace Querysmith

open Session EStateM

/-! ## The registry -/

/-- The entry of a server is taken out, if there is one. -/
theorem takeTransaction_outcome (server : Value) (s : Session) :
    (takeTransaction server s).Meets
      (fun context t => context = s.transactions.get? server ∧ t = s.dropTransaction server)
      (fun t => t = s ∧ ∃ e, server.asKey = .error e) := by
  rw [takeTransaction]
  show Result.Meets _ _ ((ofExcept (s.transactions.take server) >>= fun p => do
    modify fun t => { t with transactions := p.2 }
    return p.1 : Act (Option ContextId)) s)
  rw [Registry.take]
  split
  · -- nothing is looked up in an empty registry, so no server fails there
    rename_i hempty
    have hnone : s.transactions.active = [] := by simpa using hempty
    have hsame : s.transactions.erase server = s.transactions := by
      cases htransactions : s.transactions with
      | mk active => simp_all [Registry.erase]
    refine ⟨?_, ?_⟩
    · simp [Registry.get?, hnone]
    · rw [dropTransaction, hsame]
  -- a server that cannot be a key is refused
  · cases hkey : server.asKey with
    | error e => exact ⟨rfl, e, rfl⟩
    | ok key =>
      obtain ⟨_, rfl⟩ := Value.asKey_eq_ok_iff.1 hkey
      exact ⟨rfl, rfl⟩

/-- Putting a transaction on record changes the registry first. Then the context in its place, when
there is another one, is given up. -/
theorem meets_recordTransaction {server : Value} {id : ContextId} {s : Session}
    {P : Unit → Session → Prop} {E : Session → Prop} (hkey : ∀ e, server.asKey = .error e → E s)
    (hrecorded : (∀ other, s.transactions.get? server = some other → other = id) →
      P () (s.openTransaction server id))
    (hother : ∀ other t, s.transactions.get? server = some other → other ≠ id →
      Quiet (s.openTransaction server id) t → (other.giveUp t).Meets P E) :
    (recordTransaction server id s).Meets P E := by
  rw [recordTransaction, openTransaction?]
  cases hasKey : server.asKey with
  | error e => exact hkey e hasKey
  | ok key =>
    obtain ⟨_, rfl⟩ := Value.asKey_eq_ok_iff.1 hasKey
    -- the entry is read, and then written whatever it was
    refine meets_bind (P := fun previous t => previous = s.transactions.get? key ∧ t = s)
      ⟨rfl, rfl⟩ ?_
    rintro previous t ⟨rfl, rfl⟩
    refine meets_bind (P := fun _ u => u = t.openTransaction key id) rfl ?_
    rintro _ _ rfl
    cases hget : t.transactions.get? key with
    | none => exact hrecorded (by simp [hget])
    | some other =>
      -- only a context other than the one that is put in its place is given up
      by_cases hsame : other = id
      · simp only [hsame, ne_eq, not_true_eq_false, if_false]
        exact hrecorded (by simp [hget, hsame])
      · simp only [hsame, ne_eq, not_false_eq_true, if_true]
        exact meets_bind (P := fun _ u => Quiet (t.openTransaction key id) u)
          ((isQuiet_note _ _).state _) fun _ u hu => hother other u hget hsame hu

/-! ## Transaction statements -/

/-- A statement that begins or ends a transaction keeps what statements keep, up to the account of
it. -/
theorem control_outcome {J : Session → Prop} {free : ContextId → Prop} (h : Rides J free)
    {id : ContextId} (hid : free id) (word : Control) {s : Session} (hs : J s) :
    (id.control word s).Meets (fun _ t => ∃ u controls, J u ∧ t = { u with controls }) J := by
  refine meets_bind ((h.keeps_run hid (.str word.text) none).meets hs) ?_
  exact fun cursor u hu => ⟨u, _, hu, rfl⟩

/-- Statements have no part in the registry. -/
theorem rides_transactions (r : Registry) : Rides (fun s => s.transactions = r) fun _ => True where
  quiet := fun ht h => ht.transactions.trans h
  opens := fun _ ht h => ht.transactions.trans h
  draws := fun _ ht h => ht.transactions.trans h

theorem keeps_control (r : Registry) (id : ContextId) (word : Control) :
    Keeps (fun s => s.transactions = r) (id.control word) := by
  intro s hs
  refine (control_outcome (rides_transactions r) trivial word hs).mono ?_ fun _ ht => ht
  rintro _ _ ⟨u, controls, hu, rfl⟩
  exact ⟨hu, trivial⟩

/-! ## Servers that are no keys -/

/-- A context that was made for a server that is the same key as nothing runs no statement, since
no profile is found for the server. -/
theorem control_of_key?_eq_none {server : Value} (h : server.key? = none) {id : ContextId}
    {s : Session} {overrides : Entries}
    (hcontext : s.context id = { source := .server server overrides }) (word : Control) :
    ∃ e, id.control word s = .error e s := by
  obtain ⟨e, hload⟩ := Environment.load_of_key?_eq_none h s.environment s.profiles
  -- no profile is found for such a server, so that nothing is ever opened
  have hserver : Connector.ofServer server overrides s = .error e s := by
    show ((ofExcept (s.environment.load s.profiles server) >>= _ : Act Connector) s) = _
    rw [hload]
    rfl
  have hconnection : id.connection s = .error e s := by
    rw [connection_eq, hcontext]
    exact bind_of_error hserver _
  have hcursor : id.cursor s = .error e s := by
    rw [cursor_eq, hcontext]
    exact bind_of_error hconnection _
  have hrun : id.runText word.text s = .error e s := bind_of_error hcursor _
  exact ⟨e, bind_of_error hrun _⟩

/-! ## Actions inside a transaction -/

/-- An action inside a transaction keeps what beginning, committing and rolling back keep, when the
action keeps it as well. -/
theorem keeps_inTransaction {α : Type} {J : Session → Prop} {server : Value}
    {given : Option ContextId} {act : Act α} (hquiet : ∀ {s t}, Quiet s t → J s → J t)
    (hbegin : Keeps J (beginTransaction server given)) (hact : Keeps J act)
    (hcommit : Keeps J (commitTransaction server))
    (hrollback : Keeps J (rollbackTransaction server)) :
    Keeps J (inTransaction server given act) := by
  rw [inTransaction]
  refine hbegin.bind fun _ => Gives.tryCatch ?_ fun e => ?_
  · exact hact.bind fun result => hcommit.bind fun _ => keeps_pure result
  · refine ((isQuiet_note _ _).keeps hquiet).bind fun _ => Keeps.bind ?_ fun _ => gives_throw _
    exact Gives.tryCatch hrollback fun _ => (isQuiet_note _ _).keeps hquiet

/-! ## Contexts that hold transactions -/

namespace Tends

variable {P : Session → Prop} {F : Session → ContextId → Prop} (h : Tends P F)
  {ids : List ContextId} {id : ContextId}

include h

theorem keeps_control (hid : id ∈ ids) (word : Control) :
    Keeps (Fits P F ids) (id.control word) :=
  ((h.access hid).run _ _).bind fun _ => keeps_modify fun _ hs => h.controls _ hs

theorem keeps_giveUp (hid : id ∈ ids) : Keeps (Fits P F ids) id.giveUp :=
  Gives.tryFinally (h.keeps_control hid .rollback) (h.access hid).close

/-- A context of the caller is free if it was, and a new one is free. -/
theorem yields_givenOrNew {given : Option ContextId} (server : Value)
    (hgiven : ∀ id, given = some id → id ∈ ids) :
    Yields P F ids (fun id => [id]) (givenOrNew server given) := by
  cases given with
  | some id => exact yields_pure fun id' hid' => List.mem_singleton.1 hid' ▸ hgiven id rfl
  | none => exact h.yields_addServerContext server

/-- A transaction is begun on a free context, and a context made for it is free. -/
theorem yields_startTransaction {given : Option ContextId} (server : Value)
    (hgiven : ∀ id, given = some id → id ∈ ids) :
    Yields P F ids (fun id => [id]) (startTransaction server given) := by
  rw [startTransaction]
  refine (h.yields_givenOrNew server hgiven).andThen fun id => Yields.after ?_ fun _ =>
    yields_pure fun id' hid' => List.mem_append_left ids hid'
  -- the context is closed after a failing BEGIN when it was made here
  refine Gives.tryCatch (h.keeps_control List.mem_cons_self .begin) fun e => ?_
  split
  · exact Keeps.bind (h.access List.mem_cons_self).close fun _ => gives_throw e
  · exact gives_throw e

end Tends

/-- The contexts on record for these servers are free, and the registry has no part in the property
beyond that. -/
structure Lenient (P : Session → Prop) (F : Session → ContextId → Prop) (servers : Value → Prop) :
    Prop extends Tends P F where
  registered : ∀ {s server id}, servers server → P s → s.transactions.get? server = some id → F s id
  opens : ∀ {ids id s server}, servers server → id ∈ ids → Fits P F ids s →
    Fits P F ids (s.openTransaction server id)
  drops : ∀ {ids s server}, servers server → Fits P F ids s →
    Fits P F ids (s.dropTransaction server)

namespace Lenient

variable {P : Session → Prop} {F : Session → ContextId → Prop} {servers : Value → Prop}
  (h : Lenient P F servers) {ids : List ContextId} {server : Value} (hserver : servers server)

include h hserver

theorem yields_openTransaction? : Yields P F ids Option.toList (openTransaction? server) := by
  intro s hs
  refine (openTransaction?_outcome server s).mono (fun context t ht => ?_) fun t ht => ht ▸ hs
  obtain ⟨rfl, rfl⟩ := ht
  refine ⟨hs.holds, fun id hid => ?_⟩
  rcases List.mem_append.1 hid with hid | hid
  · exact h.registered hserver hs.holds (Option.mem_toList.1 hid)
  · exact hs.free id hid

/-- A transaction may be recorded for a context that is free. -/
theorem keeps_recordTransaction {id : ContextId} (hid : id ∈ ids) :
    Keeps (Fits P F ids) (recordTransaction server id) := by
  rw [recordTransaction]
  refine (h.yields_openTransaction? hserver).bind fun previous => ?_
  refine Keeps.bind
    (keeps_modify fun _ hs => h.opens hserver (List.mem_append_right _ hid) hs) fun _ => ?_
  -- a transaction that was open for the server is given up
  cases previous with
  | none => exact keeps_pure _
  | some other =>
    dsimp only
    split
    · exact (h.keeps_calm (isCalm_note _ _)).bind fun _ => h.keeps_giveUp List.mem_cons_self
    · exact keeps_pure _

/-- Beginning a transaction gives a context that is free. -/
theorem yields_beginTransaction {given : Option ContextId}
    (hgiven : ∀ id, given = some id → id ∈ ids) :
    Yields P F ids (fun id => [id]) (beginTransaction server given) := by
  rw [beginTransaction]
  refine (h.yields_startTransaction server hgiven).andThen fun id => ?_
  refine Yields.after (h.keeps_recordTransaction hserver List.mem_cons_self) fun _ => ?_
  refine Yields.after (h.keeps_calm (isCalm_note _ _)) fun _ => ?_
  exact yields_pure fun id' hid' => List.mem_append_left ids hid'

theorem keeps_commitTransaction : Keeps (Fits P F ids) (commitTransaction server) := by
  rw [commitTransaction]
  refine (h.yields_openTransaction? hserver).bind fun context => ?_
  cases context with
  | none => exact h.keeps_calm (isCalm_note _ _)
  | some id =>
    -- COMMIT is sent, and only then the entry dropped and the context closed
    refine (h.keeps_control List.mem_cons_self .commit).bind fun _ => ?_
    refine Keeps.bind (keeps_modify fun _ hs => h.drops hserver hs) fun _ => ?_
    exact (h.access List.mem_cons_self).close.bind fun _ => h.keeps_calm (isCalm_note _ _)

theorem keeps_rollbackTransaction : Keeps (Fits P F ids) (rollbackTransaction server) := by
  have htake : Yields P F ids Option.toList (takeTransaction server) := by
    intro s hs
    refine (takeTransaction_outcome server s).mono (fun context t ht => ?_) fun t ht => ht.1 ▸ hs
    obtain ⟨rfl, rfl⟩ := ht
    -- the context is free before it is taken out, and so it is afterwards
    have hfits : Fits P F ((s.transactions.get? server).toList ++ ids) s := by
      refine ⟨hs.holds, fun id hid => ?_⟩
      rcases List.mem_append.1 hid with hid | hid
      · exact h.registered hserver hs.holds (Option.mem_toList.1 hid)
      · exact hs.free id hid
    exact h.drops hserver hfits
  rw [rollbackTransaction]
  refine htake.bind fun context => ?_
  cases context with
  | none => exact h.keeps_calm (isCalm_note _ _)
  | some id =>
    exact (h.keeps_giveUp List.mem_cons_self).bind fun _ => h.keeps_calm (isCalm_note _ _)

end Lenient

end Querysmith
