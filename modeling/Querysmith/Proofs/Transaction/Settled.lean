import Querysmith.Proofs.Transaction.Basic
import Querysmith.Proofs.Transaction.Ledger
import Querysmith.Proofs.Transaction.Registry

/-!
# Settled sessions

A session is settled when the contexts of its registry account for all connections that are open,
each with a transaction that was begun last. Between the calls of the facade every session is
settled that has started so: each call may open a connection for a new context on the way, and
closes it or puts its context on record.

## Key results

- `serves_settled`: statements on servers keep sessions settled
- `keeps_beginTransaction`, `keeps_commitTransaction`, `keeps_rollbackTransaction`: so do the calls
  that begin and end transactions, however they end
-/

namespace Querysmith

open Session EStateM

namespace Session

/-- The contexts of open transactions, and no others, hold open connections. -/
structure Settled (s : Session) : Prop where
  ledger : Ledger s [] s.transactions.contexts
  distinct : s.transactions.Distinct

namespace Settled

variable {s t : Session}

/-- What has the same registry is settled when its accounts are right. -/
theorem of_advances (h : Settled s) (hledger : Ledger t [] s.transactions.contexts)
    (htransactions : t.transactions = s.transactions) : Settled t := by
  refine ⟨?_, ?_⟩
  · rwa [htransactions]
  · rw [htransactions]
    exact h.distinct

theorem quiet (h : Settled s) (ht : Quiet s t) : Settled t :=
  h.of_advances ((Ledger.rides _ _).quiet ht h.ledger) ht.transactions

end Settled

end Session

/-! ## Statements -/

/-- A new context is accounted for until it is closed. -/
private theorem ledger_withServer {s : Session} (h : Settled s) (server : Value) :
    Ledger (s.withServer server) [⟨s.contexts.length⟩] s.transactions.contexts where
  accounts := h.ledger.accounts.add rfl rfl rfl rfl rfl rfl
  begun := by
    intro id hid
    rw [context_withServer_of_lt (h.ledger.accounts.lt_length hid)]
    exact h.ledger.begun id hid
  recorded := h.ledger.recorded

/-- Statements on servers leave no connection behind. -/
theorem serves_settled : Serves Settled none fun _ _ => True := by
  refine ⟨fun _ => trivial, fun server act hact s hs => ?_⟩
  -- the ledger survives access, and so does what was there before
  have hrides : ∀ loose u, Rides (fun t => Ledger t loose s.transactions.contexts ∧ Advances u t)
      (· ∈ loose ++ s.transactions.contexts) :=
    fun loose u => (Ledger.rides loose _).and (rides_advances u _)
  rcases onServer_cases server none act s with ⟨c, hget, hrun⟩ | ⟨-, hrun⟩ | ⟨-, -, e, hrun⟩
  · -- the statement runs on the context of the transaction
    have hkept := hact ((hrides [] s).hosts (Registry.mem_contexts hget) _) s
      ⟨hs.ledger, Advances.refl s⟩
    rw [hrun]
    refine hkept.mono (fun a u hu => ?_) fun u hu => hs.of_advances hu.1 hu.2.transactions
    exact ⟨hs.of_advances hu.1.1 hu.1.2.transactions, trivial⟩
  · -- the statement runs on a context of its own, which is closed whether it fails or not
    have hkept := hact ((hrides [⟨s.contexts.length⟩] _).hosts List.mem_cons_self _) _
      ⟨ledger_withServer hs server, Advances.refl _⟩
    rw [hrun]
    refine meets_tryFinally hkept (fun a u hu => ?_) fun u hu => ?_
    · refine hu.1.1.close_of_loose.mono (fun _ v hv => ?_) fun _ hf => hf.elim
      exact ⟨hs.of_advances hv.1 (hv.2.trans hu.1.2.transactions), trivial⟩
    · refine hu.1.close_of_loose.mono (fun _ v hv => ?_) fun _ hf => hf.elim
      exact hs.of_advances hv.1 (hv.2.trans hu.2.transactions)
  · rw [hrun]
    exact hs

/-! ## Giving up -/

/-- A transaction that is given up is over, whatever comes of its ROLLBACK. -/
theorem giveUp_of_loose {s : Session} {id : ContextId} {loose running : List ContextId}
    (h : Ledger s (id :: loose) running) :
    (id.giveUp s).Meets
      (fun _ t => Ledger t loose running ∧ t.transactions = s.transactions)
      fun t => Ledger t loose running ∧ t.transactions = s.transactions := by
  rw [ContextId.giveUp]
  -- the context is closed whether ROLLBACK fails or not
  refine meets_tryFinally (h.control_of_loose List.mem_cons_self .rollback) ?_ ?_
  · rintro _ t ⟨ht, htransactions, _⟩
    refine ht.close_of_loose.mono (fun _ u hu => ⟨hu.1, ?_⟩) fun _ hf => hf.elim
    exact hu.2.trans htransactions
  -- the failure of ROLLBACK is reported when the context is closed
  · rintro t ⟨ht, htransactions⟩
    refine ht.close_of_loose.mono (fun _ u hu => ⟨hu.1, ?_⟩) fun _ hf => hf.elim
    exact hu.2.trans htransactions

/-! ## Beginning -/

/-- A transaction that was begun but is not on record yet. -/
private structure Started (server : Value) (r : Registry) (id : ContextId) (s : Session) :
    Prop where
  ledger : Ledger s [id] r.contexts
  transactions : s.transactions = r
  key : server.asKey = .ok server
  begun : ∃ o, (s.context id).opened = some o ∧ s.lastControl o.link = some .begin

/-- When BEGIN fails, the new context is closed. -/
private theorem startTransaction_outcome {s : Session} (hs : Settled s) (server : Value) :
    (startTransaction server none s).Meets (Started server s.transactions) Settled := by
  rw [startTransaction]
  refine meets_bind ((addServerContext_outcome server [] s).mono_error fun u hu => hu ▸ hs) ?_
  rintro id u ⟨rfl, rfl⟩
  have hledger := ledger_withServer hs server
  have hcontext := context_withServer s server
  -- until BEGIN succeeds, the new context is accounted for as one that is to be closed
  have hbegin : (ContextId.control ⟨s.contexts.length⟩ .begin (s.withServer server)).Meets
      (fun _ => Started server s.transactions ⟨s.contexts.length⟩)
      fun t => Ledger t [⟨s.contexts.length⟩] s.transactions.contexts ∧
        t.transactions = s.transactions := by
    cases hkey : server.asKey with
    | error e =>
      obtain ⟨e', hcontrol⟩ :=
        control_of_key?_eq_none (Value.key?_of_asKey_error hkey) hcontext .begin
      rw [hcontrol]
      exact ⟨hledger, rfl⟩
    | ok key =>
      obtain ⟨_, rfl⟩ := Value.asKey_eq_ok_iff.1 hkey
      refine (hledger.control_of_loose List.mem_cons_self .begin).mono ?_ fun _ ht => ht
      exact fun _ t ht => ⟨ht.1, ht.2.1, hkey, ht.2.2⟩
  -- after a failing BEGIN the new context is closed, and the accounts are those of before
  refine meets_bind (meets_tryCatch hbegin fun e t ht => ?_) fun _ t ht => ht
  refine meets_bind (ht.1.close_of_loose.mono_error fun _ hf => hf.elim) ?_
  exact fun _ u hu => hs.of_advances hu.1 (hu.2.trans ht.2)

/-- The transaction that was begun is put on record, and the one in its place is given up. -/
private theorem recordTransaction_settled {s : Session} {server : Value} {r : Registry}
    {id : ContextId} (hdistinct : r.Distinct) (h : Started server r id s) :
    (recordTransaction server id s).Meets (fun _ => Settled) Settled := by
  obtain ⟨o, hopened, hlast⟩ := h.begun
  have htransactions : (s.openTransaction server id).transactions = r.insert server id := by
    rw [openTransaction, h.transactions]
  have hcontexts := Registry.contexts_insert hdistinct server id
  have hsettled : ∀ {t : Session}, Ledger t [] (id :: (r.erase server).contexts) →
      t.transactions = r.insert server id → Settled t := by
    intro t ht hinsert
    refine ⟨?_, ?_⟩
    · rw [hinsert]
      exact ht.perm (List.Perm.refl _) hcontexts.symm
    · rw [hinsert]
      exact hdistinct.insert server id
  have hloose : ∀ other, r.get? server = some other →
      Ledger (s.openTransaction server id) [other] (id :: (r.erase server).contexts) := by
    intro other hget
    have hothers := Registry.contexts_perm hdistinct hget
    exact (((h.ledger.perm (List.Perm.refl _) hothers).loosen.perm (List.Perm.swap id other [])
      (List.Perm.refl _)).tighten hopened hlast).unregistered rfl rfl rfl rfl
  -- a server that is no key, one with no other context on record, and one whose old one is given up
  refine meets_recordTransaction (fun e hkey => ?_) (fun hsame => ?_) fun other t hget _ ht => ?_
  · rw [h.key] at hkey
    cases hkey
  · rw [h.transactions] at hsame
    cases hget : r.get? server with
    | none =>
      have hledger : Ledger (s.openTransaction server id) [] (id :: r.contexts) :=
        (h.ledger.tighten hopened hlast).unregistered rfl rfl rfl rfl
      rw [← Registry.erase_of_get?_eq_none hget] at hledger
      exact hsettled hledger htransactions
    | some other =>
      -- a new context was on record nowhere
      have hdouble := (hloose other hget).accounts.distinct
      rw [hsame other hget] at hdouble
      exact absurd List.mem_cons_self (List.nodup_cons.1 hdouble).1
  · rw [h.transactions] at hget
    refine (giveUp_of_loose ((Ledger.rides _ _).quiet ht (hloose other hget))).mono
      (fun _ u hu => ?_) fun u hu => ?_
    · exact hsettled hu.1 (hu.2.trans (ht.transactions.trans htransactions))
    · exact hsettled hu.1 (hu.2.trans (ht.transactions.trans htransactions))

/-- Beginning a transaction on a new context keeps sessions settled, however it ends. -/
theorem keeps_beginTransaction (server : Value) : Keeps Settled (beginTransaction server none) := by
  intro s hs
  rw [beginTransaction]
  refine meets_bind (startTransaction_outcome hs server) fun id t ht => ?_
  refine meets_bind (recordTransaction_settled hs.distinct ht) fun _ u hu => ?_
  exact ((isQuiet_note _ _).keeps fun hq hv => hv.quiet hq).bind (fun _ => keeps_pure id) u hu

/-! ## Ending -/

/-- The contexts on record, when the one of a server is taken as loose. -/
private theorem ledger_taken {s : Session} {server : Value} {c : ContextId} (hs : Settled s)
    (hget : s.transactions.get? server = some c) :
    Ledger s [c] (s.transactions.erase server).contexts :=
  (hs.ledger.perm (List.Perm.refl _) (Registry.contexts_perm hs.distinct hget)).loosen

/-- Committing keeps sessions settled: when COMMIT fails the transaction stays on record. -/
theorem keeps_commitTransaction (server : Value) : Keeps Settled (commitTransaction server) := by
  intro s hs
  rw [commitTransaction]
  refine meets_bind ((openTransaction?_outcome server s).mono_error fun t ht => ht ▸ hs) ?_
  rintro context t ⟨rfl, rfl⟩
  have hnote : ∀ level text, Keeps Settled (note level text) :=
    fun level text => (isQuiet_note level text).keeps fun hq hv => hv.quiet hq
  cases hget : t.transactions.get? server with
  | none => exact hnote _ _ t hs
  | some c =>
    have hloose := (ledger_taken hs hget).control_of_loose List.mem_cons_self .commit
    -- a COMMIT that fails leaves the context as it was, with a transaction that was begun last
    have hkept : (c.control .commit t).Meets (fun _ _ => True) Settled := by
      have hrides := (Ledger.rides [] t.transactions.contexts).and (rides_advances t _)
      have hrun := hrides.keeps_run (Registry.mem_contexts hget) (.str Control.commit.text) none t
        ⟨hs.ledger, Advances.refl t⟩
      refine meets_bind (hrun.mono_error fun u hu => hs.of_advances hu.1 hu.2.transactions) ?_
      exact fun _ _ _ => trivial
    refine meets_bind ((hloose.and hkept).mono (fun _ _ hu => hu.1) fun _ hu => hu.2) ?_
    rintro _ u ⟨hu, htransactions, _⟩
    have hdropped : Ledger (u.dropTransaction server) [c] (t.transactions.erase server).contexts :=
      hu.unregistered rfl rfl rfl rfl
    refine meets_bind (P := fun _ v => v = u.dropTransaction server) rfl ?_
    rintro _ _ rfl
    refine meets_bind (hdropped.close_of_loose.mono (fun _ v hv => ?_) fun _ hf => hf.elim)
      fun _ v hv => hnote _ _ v hv
    -- the entry was taken out before the context was closed
    have hregistry : v.transactions = t.transactions.erase server := by
      rw [hv.2, dropTransaction, htransactions]
    refine ⟨?_, ?_⟩
    · rw [hregistry]
      exact hv.1
    · rw [hregistry]
      exact hs.distinct.erase server

/-- Rolling back keeps sessions settled: the transaction is no longer on record, whatever comes of
its ROLLBACK. -/
theorem keeps_rollbackTransaction (server : Value) :
    Keeps Settled (rollbackTransaction server) := by
  intro s hs
  rw [rollbackTransaction]
  refine meets_bind ((takeTransaction_outcome server s).mono_error fun t ht => ht.1 ▸ hs) ?_
  rintro context t ⟨rfl, rfl⟩
  have hnote : ∀ level text, Keeps Settled (note level text) :=
    fun level text => (isQuiet_note level text).keeps fun hq hv => hv.quiet hq
  have hdistinct : (s.transactions.erase server).Distinct := hs.distinct.erase server
  cases hget : s.transactions.get? server with
  | none =>
    have hsame : s.dropTransaction server = s := by
      rw [dropTransaction, Registry.erase_of_get?_eq_none hget]
    rw [hsame]
    exact hnote _ _ s hs
  | some c =>
    -- its context is taken out of the registry, and is still to be closed
    have hledger : Ledger (s.dropTransaction server) [c] (s.transactions.erase server).contexts :=
      (ledger_taken hs hget).unregistered rfl rfl rfl rfl
    -- all the accounts that are left belong to the registry that is left
    have hsettled : ∀ t, Ledger t [] (s.transactions.erase server).contexts ∧
        t.transactions = (s.dropTransaction server).transactions → Settled t := by
      rintro t ⟨ht, htransactions⟩
      refine ⟨?_, ?_⟩
      · rw [htransactions]
        exact ht
      · rw [htransactions]
        exact hdistinct
    refine meets_bind ((giveUp_of_loose hledger).mono (fun _ t ht => hsettled t ht) hsettled) ?_
    exact fun _ t ht => hnote _ _ t ht

end Querysmith
