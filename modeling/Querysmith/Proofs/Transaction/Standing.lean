import Querysmith.Proofs.Session.Owning
import Querysmith.Proofs.Transaction.Holding

/-!
# Transactions that are left alone

Commands leave the transaction of a server alone when they refer to its context nowhere, begin and
end no transaction on the server, and send it no statement in their own words that would. Whatever
they do otherwise, the transaction stands: its context is on record for the server and for no other
one and has a cursor to itself, and no statement that begins or ends a transaction is sent there.

## Main definitions

- `controlsOn`: the statements on a cursor that were to begin or end a transaction
- `Stands`: the transaction of a server is as it was
- `sparing`: the terms on which commands leave a transaction alone

## Key results

- `carried_stands`: a transaction that is left alone stands
-/

namespace Querysmith

open Session EStateM

/-! ## Statements that begin and end transactions -/

/-- What a statement on the cursor was to begin or end, and whether it succeeded. -/
def Event.control? (k : CursorId) (e : Event) : Option (Control × Bool) :=
  [Control.begin, .commit, .rollback].findSome? fun word =>
    (e.outcome? k word).map fun succeeded => (word, succeeded)

namespace Event

variable {k id : CursorId} {sql : Value} {bindings : Option (List Value)}
  {failure : Option String}

/-- A transaction command on the cursor shows, and whether it has succeeded. -/
theorem control?_execute (k : CursorId) (word : Control) (bindings : Option (List Value))
    (failure : Option String) :
    (execute k (.str word.text) bindings failure).control? k = some (word, failure.isNone) := by
  cases word <;> simp [control?, outcome?, Control.text]

/-- An event without an outcome for any transaction command does not show. -/
theorem control?_eq_none {e : Event} (h : ∀ word, e.outcome? k word = none) :
    e.control? k = none := by
  simp [control?, h]

theorem control?_of_ne (h : id ≠ k) : (execute id sql bindings failure).control? k = none :=
  control?_eq_none fun word => by cases sql <;> simp [outcome?, h]

/-- A plain statement does not show. -/
theorem control?_of_isPlain (h : sql.IsPlain) :
    (execute id sql bindings failure).control? k = none := by
  refine control?_eq_none fun word => ?_
  cases sql with
  | str text =>
    have hne : text ≠ word.text := fun heq => h word (heq ▸ rfl)
    simp [outcome?, hne]
  | _ => rfl

end Event

namespace Session

/-- The statements on the cursor that were to begin or end a transaction, latest first, and whether
each of them succeeded. -/
def controlsOn (s : Session) (k : CursorId) : List (Control × Bool) :=
  s.trace.filterMap (Event.control? k)

/-- They are among the statements that were sent. -/
theorem controlsOn_eq_sent (s : Session) (k : CursorId) :
    s.controlsOn k = s.sent.filterMap (Event.control? k) := by
  rw [sent, List.filterMap_filter]
  refine List.filterMap_congr fun e _ => ?_
  cases e <;> rfl

/-! ## Transactions that stand -/

/-- The transaction of the server is on record, on a context that is on record for no other server
and has the cursor to itself. On this cursor, these statements were to begin or end a
transaction. -/
structure Stands (server : Value) (c : ContextId) (k : CursorId) (past : List (Control × Bool))
    (s : Session) : Prop where
  registered : s.transactions.get? server = some c
  only : ∀ {key}, s.transactions.get? key = some c → key.sameKey server = true
  owns : s.Owns c k
  controlsOn_eq : s.controlsOn k = past

variable {server : Value} {c id : ContextId} {k : CursorId} {past : List (Control × Bool)}
  {s t : Session} {α : Type}

namespace Stands

/-- Another context gets a cursor at most. -/
theorem redraws (h : Stands server c k past s) (ht : Redraws id s t) (hid : id ≠ c)
    (hregistry : t.transactions = s.transactions) (hsent : t.sent = s.sent) :
    Stands server c k past t where
  registered := by rw [hregistry, h.registered]
  only := by
    rw [hregistry]
    exact h.only
  owns := h.owns.redraws ht fun heq => absurd heq hid
  controlsOn_eq := by rw [controlsOn_eq_sent, hsent, ← controlsOn_eq_sent, h.controlsOn_eq]

/-- A context that is new is another one. -/
theorem new_ne (h : Stands server c k past s) : (⟨s.contexts.length⟩ : ContextId) ≠ c := by
  rintro rfl
  exact absurd (lt_of_cursor h.owns.cursor) (Nat.lt_irrefl _)

theorem calm (h : Stands server c k past s) (ht : Calm s t) : Stands server c k past t :=
  h.redraws (ht.redraws _) h.new_ne ht.transactions ht.sent

theorem lends {link : Option LinkId} {cursor : Option CursorId} {d : Context} {u : Session}
    (h : Stands server c k past s) (ht : Lends link cursor s t) (hd : d.IsNew link cursor)
    (hcontexts : u.contexts = t.contexts ++ [d]) (hlinks : u.links = t.links)
    (hregistry : u.transactions = t.transactions) (htrace : u.trace = t.trace) :
    Stands server c k past u :=
  h.redraws (ht.redraws hd hcontexts hlinks) h.new_ne (hregistry.trans ht.transactions)
    (by rw [sent, htrace, ← sent, ht.sent])

/-- Nothing changes that the transaction has a part in, except for the registry. -/
theorem of_registry (h : Stands server c k past s) (hcontexts : t.contexts = s.contexts)
    (hlinks : t.links = s.links) (htrace : t.trace = s.trace)
    (hregistered : t.transactions.get? server = some c)
    (honly : ∀ {key}, t.transactions.get? key = some c → s.transactions.get? key = some c) :
    Stands server c k past t where
  registered := hregistered
  only := fun hkey => h.only (honly hkey)
  owns := h.owns.redraws (redraws_of_eq c hcontexts hlinks) fun _ => cursor_congr hcontexts c
  controlsOn_eq := by rw [controlsOn, htrace, ← controlsOn, h.controlsOn_eq]

end Stands

/-! ## Access to contexts -/

/-- What sends nothing and is done to another context. -/
private theorem keeps_stands_of_sent (hid : id ≠ c) {x : Act α}
    (hx : ∀ s, Keeps (fun t => Redraws id s t ∧ Advances s t) x)
    (hsent : ∀ l, Keeps (fun s => s.sent = l) x) : Keeps (Stands server c k past) x := by
  intro s hs
  refine ((hx s s ⟨Redraws.refl id s, Advances.refl s⟩).and (hsent s.sent s rfl)).mono
    (fun _ t ht => ⟨?_, trivial⟩) fun t ht => ?_
  · exact hs.redraws ht.1.1.1 hid ht.1.1.2.transactions ht.2.1
  · exact hs.redraws ht.1.1 hid ht.1.2.transactions ht.2

/-- A statement that is sent, unless it begins or ends a transaction on this cursor. -/
private theorem keeps_stands_emit {e : Event} (hopened : e.opened? = none)
    (hclosed : e.closed? = none) (hcontrol : e.control? k = none) :
    Keeps (Stands server c k past) (emit e) := by
  refine keeps_of_state fun s hs => ?_
  have hredraws := ((isQuiet_emit hopened hclosed).state s).redraws c
  refine ⟨hs.registered, hs.only, hs.owns.redraws hredraws fun _ => rfl, ?_⟩
  exact (List.filterMap_cons_none hcontrol).trans hs.controlsOn_eq

/-- A plain statement, or one on another cursor, leaves the transaction standing. -/
private theorem keeps_stands_execute {cursor : CursorId} {sql : Value}
    (h : cursor ≠ k ∨ sql.IsPlain) (bindings : Option (List Value)) :
    Keeps (Stands server c k past) (cursor.execute sql bindings) := by
  have hcontrol : ∀ failure, (Event.execute cursor sql bindings failure).control? k = none :=
    fun failure => h.elim Event.control?_of_ne Event.control?_of_isPlain
  exact ((isCalm_send cursor sql).keeps fun ht hs => hs.calm ht).bind fun failure =>
    (keeps_stands_emit rfl rfl (hcontrol failure)).bind fun _ =>
      (isCalm_raise failure).keeps fun ht hs => hs.calm ht

/-- A statement for many rows leaves the transaction standing. -/
private theorem keeps_stands_executeMany (cursor : CursorId) (sql : Value)
    (rows : List (List Value)) :
    Keeps (Stands server c k past) (cursor.executeMany sql rows) :=
  ((isCalm_send cursor sql).keeps fun ht hs => hs.calm ht).bind fun failure =>
    (keeps_stands_emit rfl rfl rfl).bind fun _ =>
      (isCalm_raise failure).keeps fun ht hs => hs.calm ht

/-- A lent cursor that can be used is a handle. -/
private theorem eq_handle_of_orRefuse {lent : Lent α} {operation : String} {a : α}
    (h : lent.orRefuse operation = .ok a) : lent = .handle a := by
  cases lent with
  | handle b =>
    cases h
    rfl
  | value v => exact nomatch h

/-- Another context may be used while the transaction stands. -/
private theorem access_stands (hid : id ≠ c) : Access (Stands server c k past) id := by
  have hrides := fun s => (rides_redraws id s).and (rides_advances s (· = id))
  have hcursor : Keeps (Stands server c k past) id.cursor :=
    keeps_stands_of_sent hid (fun s => (hrides s).keeps_cursor rfl) fun _ => keeps_sent_cursor id
  -- the context has another cursor, so nothing is sent on this one
  have hother : ∀ {β : Type} {f : Lent CursorId → Act β},
      (∀ lent, lent ≠ .handle k → Keeps (Stands server c k past) (f lent)) →
      Keeps (Stands server c k past) (id.cursor >>= f) := fun hf s hs =>
    meets_bind (((hcursor s hs).and (hs.owns.cursor_ne hid)).mono_error fun _ ht => ht.1)
      fun lent t ht => hf lent ht.2 t ht.1.1
  -- to get a connection, to get a cursor and to close sends nothing
  refine ⟨?_, hcursor, fun sql bindings => ?_, fun sql rows => ?_, ?_⟩
  · exact keeps_stands_of_sent hid (fun s => (hrides s).keeps_connection rfl) fun _ =>
      keeps_sent_connection id
  · refine hother fun lent hlent => (keeps_ofExcept _).bind fun values =>
      keeps_ofExcept_bind fun cursor hcursor => ?_
    have hne : cursor ≠ k := fun heq => hlent (heq ▸ eq_handle_of_orRefuse hcursor)
    exact (keeps_stands_execute (.inl hne) values).bind fun _ => keeps_pure cursor
  · exact hother fun _ _ => (keeps_ofExcept _).bind fun _ => (keeps_ofExcept _).bind fun cursor =>
      (keeps_ofExcept _).bind fun rows =>
        (keeps_stands_executeMany cursor sql rows).bind fun _ => keeps_pure cursor
  · refine keeps_stands_of_sent hid (fun s => ?_) fun _ => keeps_sent_close id
    exact keeps_close fun ht h => ⟨h.1.trans ht.redraws, h.2.trans ht.toAdvances⟩

/-- Statements that begin and end no transaction may run on the context of the transaction. -/
theorem hosts_stands (server : Value) (c : ContextId) (k : CursorId)
    (past : List (Control × Bool)) : Hosts (Stands server c k past) Value.IsPlain c where
  calm := fun ht hs => hs.calm ht
  run := fun bindings hsql => keeps_run_of_cursor (fun hs => hs.owns.cursor)
    (fun values => keeps_stands_execute (.inr hsql) values) bindings

/-! ## Commands that leave the transaction alone -/

/-- Other contexts may be referred to, transactions begun and ended on other servers, and statements
in one's own words sent to the server when they begin and end no transaction. -/
def sparing (server : Value) (c : ContextId) : Terms where
  context := (· ≠ c)
  server := fun other => other.sameKey server = false
  sql := fun other sql => other.sameKey server = true → sql.IsPlain
  link := fun _ => True

private theorem tends_stands : Tends (Stands server c k past) fun _ => (· ≠ c) :=
  tends_of_free (fun ht hs => hs.calm ht) access_stands
    (fun {s _} hc hs => ⟨hs.lends (Lends.nothing none s) hc rfl rfl rfl rfl, hs.new_ne⟩)
    fun _ hs => hs.of_registry rfl rfl rfl hs.registered id

/-- What is done for other servers leaves the transaction standing. -/
private theorem lenient_stands :
    Lenient (Stands server c k past) (fun _ => (· ≠ c))
      fun other => other.sameKey server = false where
  toTends := tends_stands
  -- a context on record for another server is not the one of the transaction
  registered := fun hother hs hget heq => by
    rw [heq] at hget
    exact absurd (hs.only hget) (by simp [hother])
  -- the entry of another server is another one
  opens := fun {ids id s other} hother hid h => by
    refine ⟨h.holds.of_registry rfl rfl rfl ?_ fun {key} hkey => ?_, h.free⟩
    · show (s.transactions.insert other id).get? server = some c
      rw [Registry.get?_insert, if_neg (by simp [hother]), h.holds.registered]
    · replace hkey : (s.transactions.insert other id).get? key = some c := hkey
      rw [Registry.get?_insert] at hkey
      split at hkey
      · exact absurd (Option.some.inj hkey) (h.free id hid)
      · exact hkey
  drops := fun {ids s other} hother h => by
    refine ⟨h.holds.of_registry rfl rfl rfl ?_ fun {key} hkey => ?_, h.free⟩
    · show (s.transactions.erase other).get? server = some c
      rw [Registry.get?_erase, if_neg (by simp [hother]), h.holds.registered]
    · replace hkey : (s.transactions.erase other).get? key = some c := hkey
      rw [Registry.get?_erase] at hkey
      split at hkey
      · exact nomatch hkey
      · exact hkey

/-- A transaction that is left alone stands. -/
theorem carried_stands :
    Carried (Stands server c k past) (fun _ => (· ≠ c)) (sparing server c) where
  toTends := tends_stands
  -- a context that is made with the caller's connection has a cursor of its own
  makes := fun _ _ ht hc h => ⟨h.holds.lends ht hc rfl rfl rfl rfl, h.free⟩
  names := fun _ _ hterms => hterms
  named := fun _ _ h =>
    ⟨h.holds.of_registry rfl rfl rfl h.holds.registered id, h.free⟩
  serves := fun {ids} => by
    refine tends_stands.serves (fun hplain _ => hplain) fun {s other id} h hget => ?_
    by_cases hid : id = c
    · -- the context of the transaction is on record for this server only
      subst hid
      have hother := h.holds.only hget
      have hhosts := hosts_stands server id k past
      exact ⟨fun ht hs => ⟨hs.holds.calm ht, hs.free⟩,
        fun bindings hsql => keeps_fits (hhosts.run bindings (hsql hother))⟩
    · exact ⟨fun ht hs => ⟨hs.holds.calm ht, hs.free⟩,
        fun bindings _ => keeps_fits ((access_stands hid).run _ bindings)⟩
  begins := fun hother => lenient_stands.yields_beginTransaction hother
  commits := fun hother => lenient_stands.keeps_commitTransaction hother
  rollbacks := fun hother => lenient_stands.keeps_rollbackTransaction hother

end Session

end Querysmith
