import Querysmith.Database.Transaction
import Querysmith.Proofs.Session.Access
import Mathlib.Data.List.Perm.Basic
import Mathlib.Data.List.Nodup

/-!
# Accounts of open connections

The connections that are open are accounted for by the contexts that hold them. A list of contexts
accounts for a session when they are contexts for servers, every connection that was opened was
closed once or is held by one of them, and the statements of each run on the connection that it
holds. The contexts that hold open transactions are the ones in which the last statement that began
or ended a transaction has begun one.

## Key results

- `Accounts.rides`: statements on the contexts keep the accounts
- `Ledger.rides`, `Ledger.control_of_loose`: and so do statements that begin or end transactions
- `Ledger.close_of_loose`: a context that is closed need not be accounted for
-/

namespace Querysmith

open EStateM

namespace Session

/-- The connection that a context holds. -/
def heldLink (s : Session) (id : ContextId) : Option LinkId :=
  (s.context id).opened.map OpenLink.link

/-- The contexts account for all connections that are open. -/
structure Accounts (s : Session) (holders : List ContextId) : Prop where
  owns : ∀ id ∈ holders, (s.context id).ownsConnection = true
  distinct : holders.Nodup
  opened_perm : (openedLinks s.trace).Perm (closedLinks s.trace ++ holders.filterMap s.heldLink)
  opened_nodup : (openedLinks s.trace).Nodup
  opened_made : ∀ l ∈ openedLinks s.trace, l.index < s.links.length
  cursor_link : ∀ id ∈ holders, ∀ k, (s.context id).cursor = some k →
    ∃ o cursor, (s.context id).opened = some o ∧ k = .handle cursor ∧ cursor.link = o.link

namespace Accounts

variable {s t : Session} {holders : List ContextId} {id : ContextId}

/-- Contexts in the accounts exist. -/
theorem lt_length (h : Accounts s holders) (hid : id ∈ holders) :
    id.index < s.contexts.length := lt_of_ownsConnection (h.owns id hid)

/-- The order of the contexts does not matter. -/
theorem perm {others : List ContextId} (h : Accounts s holders) (hperm : holders.Perm others) :
    Accounts s others where
  owns := fun id hid => h.owns id (hperm.mem_iff.2 hid)
  distinct := hperm.nodup_iff.1 h.distinct
  opened_perm := h.opened_perm.trans ((hperm.filterMap _).append_left _)
  opened_nodup := h.opened_nodup
  opened_made := h.opened_made
  cursor_link := fun id hid => h.cursor_link id (hperm.mem_iff.2 hid)

/-- The connections that the contexts hold are different from each other. -/
theorem held_nodup (h : Accounts s holders) : (holders.filterMap s.heldLink).Nodup :=
  (List.nodup_append.1 (h.opened_perm.nodup_iff.1 h.opened_nodup)).2.1

/-- No two contexts hold the same connection. -/
theorem eq_of_link_eq (h : Accounts s holders) {other : ContextId} {o p : OpenLink}
    (hid : id ∈ holders) (hother : other ∈ holders) (ho : (s.context id).opened = some o)
    (hp : (s.context other).opened = some p) (hlink : o.link = p.link) : id = other := by
  by_contra hne
  have hrest : other ∈ holders.erase id := (List.mem_erase_of_ne (Ne.symm hne)).2 hother
  have hsplit := h.perm (List.perm_cons_erase hid)
  have hnodup := hsplit.held_nodup
  rw [List.filterMap_cons_some (b := o.link) (by simp [heldLink, ho])] at hnodup
  refine (List.nodup_cons.1 hnodup).1 (List.mem_filterMap.2 ⟨other, hrest, ?_⟩)
  simp [heldLink, hp, hlink]

/-! ## Changes of the session -/

/-- Nothing that the accounts are about changes. -/
theorem unchanged (h : Accounts s holders) (hcontexts : t.contexts = s.contexts)
    (hopened : openedLinks t.trace = openedLinks s.trace)
    (hclosed : closedLinks t.trace = closedLinks s.trace)
    (hlinks : s.links.length ≤ t.links.length) : Accounts t holders := by
  -- the same contexts hold the same connections
  have hheld : holders.filterMap t.heldLink = holders.filterMap s.heldLink := by
    refine List.filterMap_congr fun id _ => ?_
    rw [heldLink, heldLink, opened_congr hcontexts]
  refine ⟨fun id hid => ?_, h.distinct, ?_, ?_, fun l hl => ?_, fun id hid k hk => ?_⟩
  · rw [ownsConnection_congr hcontexts]
    exact h.owns id hid
  · rw [hheld, hopened, hclosed]
    exact h.opened_perm
  · rw [hopened]
    exact h.opened_nodup
  · rw [hopened] at hl
    exact Nat.lt_of_lt_of_le (h.opened_made l hl) hlinks
  · rw [cursor_congr hcontexts] at hk
    rw [opened_congr hcontexts]
    exact h.cursor_link id hid k hk

/-- Where only one of the contexts changes, the others hold what they have held. -/
private theorem heldLink_of_set {c : Context} (h : Accounts s (id :: holders))
    (hcontexts : t.contexts = s.contexts.set id.index c) :
    t.context id = c ∧ (∀ other ∈ holders, t.context other = s.context other) ∧
      holders.filterMap t.heldLink = holders.filterMap s.heldLink := by
  have hothers : ∀ other ∈ holders, t.context other = s.context other := by
    intro other hother
    -- the holders are distinct, so that no other one is set
    have hne : other ≠ id := by
      rintro rfl
      exact (List.nodup_cons.1 h.distinct).1 hother
    exact context_of_set_ne hcontexts (h.lt_length (List.mem_cons_of_mem _ hother)) hne
  refine ⟨context_of_set hcontexts (h.lt_length List.mem_cons_self), hothers, ?_⟩
  refine List.filterMap_congr fun other hother => ?_
  rw [heldLink, heldLink, hothers other hother]

/-- One of the contexts changes, to a context for the same server whose cursor, if it has one, is
a cursor of the connection that it holds. -/
private theorem of_set {c : Context} (h : Accounts s (id :: holders))
    (hcontexts : t.contexts = s.contexts.set id.index c) (howns : c.ownsConnection = true)
    (hcursor : ∀ k, c.cursor = some k →
      ∃ o cursor, c.opened = some o ∧ k = .handle cursor ∧ cursor.link = o.link)
    (hperm : (openedLinks t.trace).Perm (closedLinks t.trace ++
      ((c.opened.map OpenLink.link).toList ++ holders.filterMap s.heldLink)))
    (hnodup : (openedLinks t.trace).Nodup)
    (hmade : ∀ l ∈ openedLinks t.trace, l.index < t.links.length) :
    Accounts t (id :: holders) := by
  obtain ⟨hself, hothers, hheld⟩ := h.heldLink_of_set hcontexts
  refine ⟨fun other hother => ?_, h.distinct, ?_, hnodup, hmade, fun other hother k hk => ?_⟩
  -- the context that is set, and the others as they were
  · rcases List.mem_cons.1 hother with rfl | hother
    · rwa [hself]
    · rw [hothers other hother]
      exact h.owns other (List.mem_cons_of_mem _ hother)
  -- the connection of the changed context is listed before those of the others
  · have hsplit : (id :: holders).filterMap t.heldLink =
        (c.opened.map OpenLink.link).toList ++ holders.filterMap s.heldLink := by
      rw [List.filterMap_cons, hheld, heldLink, hself]
      cases c.opened <;> rfl
    rwa [hsplit]
  · rcases List.mem_cons.1 hother with rfl | hother
    · rw [hself] at hk ⊢
      exact hcursor k hk
    · rw [hothers other hother] at hk ⊢
      exact h.cursor_link other (List.mem_cons_of_mem _ hother) k hk

/-- The connection that the first context holds, and those of the others. -/
private theorem opened_perm_cons (h : Accounts s (id :: holders)) :
    (openedLinks s.trace).Perm (closedLinks s.trace ++
      (((s.context id).opened.map OpenLink.link).toList ++ holders.filterMap s.heldLink)) := by
  refine h.opened_perm.trans (List.Perm.append_left _ ?_)
  rw [List.filterMap_cons, heldLink]
  cases (s.context id).opened <;> exact List.Perm.refl _

/-- The connection that is opened for a context is accounted for by this context. -/
theorem opens {o : OpenLink} (h : Accounts s (id :: holders)) (ht : Opens id o s t) :
    Accounts t (id :: holders) := by
  have hperm := h.opened_perm_cons
  rw [ht.unopened] at hperm
  -- a connection that was opened before is an old one
  have hfresh : o.link ∉ openedLinks s.trace := fun hmem =>
    absurd (h.opened_made _ hmem) (Nat.not_lt.2 ht.fresh)
  refine h.of_set ht.contexts ht.owns ?_ ?_ ?_ ?_
  · rintro k ⟨⟩
    exact ⟨o, o.cursor, rfl, rfl, ht.cursor_link⟩
  · rw [ht.opened, ht.closed]
    exact (hperm.cons o.link).trans List.perm_middle.symm
  · rw [ht.opened]
    exact List.nodup_cons.2 ⟨hfresh, h.opened_nodup⟩
  · intro l hl
    rw [ht.opened] at hl
    rcases List.mem_cons.1 hl with rfl | hl
    · exact ht.made
    · exact Nat.lt_of_lt_of_le (h.opened_made l hl) ht.links

/-- A cursor is made on the connection that the context holds. -/
theorem draws {k : CursorId} (h : Accounts s (id :: holders)) (ht : Draws id k s t) :
    Accounts t (id :: holders) := by
  have howns := h.owns id List.mem_cons_self
  -- a context that owns its connection has its cursor there
  obtain ⟨o, hopened, hlink⟩ := ht.uses.opened howns
  refine h.of_set ht.contexts howns ?_ ?_ ?_ ?_
  · rintro _ ⟨⟩
    exact ⟨o, k, hopened, rfl, hlink⟩
  · rw [ht.opened, ht.closed]
    exact h.opened_perm_cons
  · rw [ht.opened]
    exact h.opened_nodup
  · intro l hl
    rw [ht.opened] at hl
    exact Nat.lt_of_lt_of_le (h.opened_made l hl) ht.links

/-- A connection that is closed has not been closed before. -/
theorem closes {o : OpenLink} (h : Accounts s (id :: holders)) (ht : Closes id o s t) :
    Accounts t (id :: holders) := by
  -- the connection goes from those that are held to those that were closed
  have hperm := h.opened_perm_cons
  rw [ht.held] at hperm
  refine h.of_set ht.contexts (h.owns id List.mem_cons_self) nofun ?_ ?_ ?_
  · rw [ht.opened, ht.closed]
    exact hperm.trans List.perm_middle
  · rw [ht.opened]
    exact h.opened_nodup
  · intro l hl
    rw [ht.opened] at hl
    exact Nat.lt_of_lt_of_le (h.opened_made l hl) ht.links

/-- A context that holds no connection need not be among the holders. -/
theorem drop (h : Accounts s (id :: holders)) (hnone : (s.context id).opened = none) :
    Accounts s holders where
  owns := fun other hother => h.owns other (List.mem_cons_of_mem _ hother)
  distinct := (List.nodup_cons.1 h.distinct).2
  opened_perm := by
    have hperm := h.opened_perm_cons
    rwa [hnone] at hperm
  opened_nodup := h.opened_nodup
  opened_made := h.opened_made
  cursor_link := fun other hother => h.cursor_link other (List.mem_cons_of_mem _ hother)

/-- A new context for a server holds nothing yet. -/
theorem add {c : Context} (h : Accounts s holders) (howns : c.ownsConnection = true)
    (hopened : c.opened = none) (hcursor : c.cursor = none)
    (hcontexts : t.contexts = s.contexts ++ [c]) (htrace : t.trace = s.trace)
    (hlinks : t.links = s.links) : Accounts t (⟨s.contexts.length⟩ :: holders) := by
  have hself : t.context ⟨s.contexts.length⟩ = c := by simp [context, hcontexts]
  have hothers : ∀ other ∈ holders, t.context other = s.context other := by
    intro other hother
    simp [context, hcontexts, hlinks, List.getElem?_append_left (h.lt_length hother)]
  have hheld : holders.filterMap t.heldLink = holders.filterMap s.heldLink := by
    refine List.filterMap_congr fun other hother => ?_
    rw [heldLink, heldLink, hothers other hother]
  -- the new context comes first among the holders, and has no share in any of the accounts
  refine ⟨fun other hother => ?_, ?_, ?_, ?_, ?_, fun other hother k hk => ?_⟩
  · rcases List.mem_cons.1 hother with rfl | hother
    · rwa [hself]
    · rw [hothers other hother]
      exact h.owns other hother
  · refine List.nodup_cons.2 ⟨fun hmem => ?_, h.distinct⟩
    exact absurd (h.lt_length hmem) (Nat.lt_irrefl _)
  -- it holds no connection, so that the list of those held is the old one
  · rw [List.filterMap_cons_none (by rw [heldLink, hself, hopened]; rfl), hheld, htrace]
    exact h.opened_perm
  · rw [htrace]
    exact h.opened_nodup
  · rw [htrace, hlinks]
    exact h.opened_made
  · rcases List.mem_cons.1 hother with rfl | hother
    · rw [hself, hcursor] at hk
      cases hk
    · rw [hothers other hother] at hk ⊢
      exact h.cursor_link other hother k hk

/-- Statements on contexts that are accounted for keep the accounts. -/
theorem rides (holders : List ContextId) : Rides (Accounts · holders) (· ∈ holders) where
  quiet := fun ht h => h.unchanged ht.contexts ht.opened ht.closed ht.links
  opens := fun hid ht h =>
    ((h.perm (List.perm_cons_erase hid)).opens ht).perm (List.perm_cons_erase hid).symm
  draws := fun hid ht h =>
    ((h.perm (List.perm_cons_erase hid)).draws ht).perm (List.perm_cons_erase hid).symm

end Accounts

/-! ## Transactions -/

/-- The statement that has begun or ended a transaction on a connection last. -/
def lastControl (s : Session) (l : LinkId) : Option Control :=
  (s.controls.find? fun e => e.1.link = l).map Prod.snd

theorem lastControl_congr {s t : Session} (h : t.controls = s.controls) :
    t.lastControl = s.lastControl := by
  funext l
  rw [lastControl, lastControl, h]

/-- The contexts account for the open connections, those of `running` with a transaction that was
begun last, and every statement that began or ended a transaction is in the trace. -/
structure Ledger (s : Session) (loose running : List ContextId) : Prop where
  accounts : Accounts s (loose ++ running)
  begun : ∀ id ∈ running, ∃ o, (s.context id).opened = some o ∧ s.lastControl o.link = some .begin
  recorded : (s.controls.map fun e => Event.execute e.1 (.str e.2.text) none none).Sublist s.trace

namespace Ledger

variable {s t : Session} {loose running : List ContextId} {id : ContextId}

/-- The order in which contexts are listed does not matter. -/
theorem perm {loose' running' : List ContextId} (h : Ledger s loose running)
    (hloose : loose.Perm loose') (hrunning : running.Perm running') : Ledger s loose' running' where
  accounts := h.accounts.perm (hloose.append hrunning)
  begun := fun id hid => h.begun id (hrunning.mem_iff.2 hid)
  recorded := h.recorded

/-- A transaction need not be kept as one that was begun last. -/
theorem loosen (h : Ledger s loose (id :: running)) : Ledger s (id :: loose) running where
  accounts := h.accounts.perm List.perm_middle
  begun := fun other hother => h.begun other (List.mem_cons_of_mem _ hother)
  recorded := h.recorded

/-- A transaction that was begun last is kept as one. -/
theorem tighten {o : OpenLink} (h : Ledger s (id :: loose) running)
    (hopened : (s.context id).opened = some o) (hlast : s.lastControl o.link = some .begin) :
    Ledger s loose (id :: running) where
  accounts := h.accounts.perm List.perm_middle.symm
  begun := by
    intro other hother
    rcases List.mem_cons.1 hother with rfl | hother
    · exact ⟨o, hopened, hlast⟩
    · exact h.begun other hother
  recorded := h.recorded

/-- The registry and the names of contexts have no part in the accounts. -/
theorem unregistered (h : Ledger s loose running) (hcontexts : t.contexts = s.contexts)
    (hlinks : t.links = s.links) (htrace : t.trace = s.trace)
    (hcontrols : t.controls = s.controls) : Ledger t loose running where
  accounts := h.accounts.unchanged hcontexts (by rw [htrace]) (by rw [htrace])
    (Nat.le_of_eq (by rw [hlinks]))
  begun := by
    intro id hid
    rw [opened_congr hcontexts, lastControl_congr hcontrols]
    exact h.begun id hid
  recorded := by
    rw [hcontrols, htrace]
    exact h.recorded

/-- What happens to one context does not end the transactions of others. -/
private theorem begun_of_set {c : Context} (h : Ledger s loose running)
    (hcontexts : t.contexts = s.contexts.set id.index c) (hcontrols : t.controls = s.controls)
    (hid : id ∈ running → c.opened = (s.context id).opened) :
    ∀ other ∈ running, ∃ o, (t.context other).opened = some o ∧
      t.lastControl o.link = some .begin := by
  intro other hother
  have hlength := h.accounts.lt_length (List.mem_append_right loose hother)
  rw [lastControl_congr hcontrols]
  -- only the context itself is another, with the same connection
  by_cases hsame : other = id
  · subst hsame
    rw [context_of_set hcontexts hlength, hid hother]
    exact h.begun other hother
  · rw [context_of_set_ne hcontexts hlength hsame]
    exact h.begun other hother

/-- Statements on contexts that are accounted for keep the accounts and the transactions. -/
theorem rides (loose running : List ContextId) :
    Rides (Ledger · loose running) (· ∈ loose ++ running) where
  quiet := fun ht h => by
    refine ⟨(Accounts.rides _).quiet ht h.accounts, fun id hid => ?_, ?_⟩
    · rw [opened_congr ht.contexts, lastControl_congr ht.controls]
      exact h.begun id hid
    · rw [ht.controls]
      exact h.recorded.trans ht.trace.sublist
  opens := fun {id} _ _ _ hid ht h => by
    refine ⟨(Accounts.rides _).opens hid ht h.accounts, ?_, ?_⟩
    · refine h.begun_of_set ht.contexts ht.controls fun hrunning => ?_
      -- a context with a transaction has a connection already, and opens none
      obtain ⟨o, hopened, _⟩ := h.begun id hrunning
      cases hopened.symm.trans ht.unopened
    · rw [ht.controls]
      exact h.recorded.trans ht.trace.sublist
  draws := fun hid ht h => by
    refine ⟨(Accounts.rides _).draws hid ht h.accounts, ?_, ?_⟩
    · exact h.begun_of_set ht.contexts ht.controls fun _ => rfl
    · rw [ht.controls]
      exact h.recorded.trans ht.trace.sublist

/-- A context that is closed need not be accounted for any more. -/
theorem close_of_loose (h : Ledger s (id :: loose) running) :
    (id.close s).Meets
      (fun _ t => Ledger t loose running ∧ t.transactions = s.transactions) fun _ => False := by
  refine (close_outcome id s).mono (fun _ t ht => ?_) fun _ hf => hf
  cases hopened : (s.context id).opened with
  | none =>
    rw [hopened] at ht
    subst ht
    exact ⟨⟨h.accounts.drop hopened, h.begun, h.recorded⟩, rfl⟩
  | some o =>
    rw [hopened] at ht
    -- a loose context runs no transaction
    have hnot : id ∉ running := fun hmem =>
      (List.nodup_cons.1 h.accounts.distinct).1 (List.mem_append_right loose hmem)
    have hself := context_of_set ht.contexts (h.accounts.lt_length List.mem_cons_self)
    refine ⟨⟨(h.accounts.closes ht).drop (by rw [hself]; rfl), ?_, ?_⟩, ht.transactions⟩
    · exact h.begun_of_set ht.contexts ht.controls fun hmem => absurd hmem hnot
    · rw [ht.controls]
      exact h.recorded.trans ht.trace.sublist

/-- What comes of a statement that begins or ends a transaction: it is on the connection that the
context holds then. -/
theorem control_of_loose (h : Ledger s loose running) (hid : id ∈ loose) (word : Control) :
    (id.control word s).Meets
      (fun _ t => Ledger t loose running ∧ t.transactions = s.transactions ∧
        ∃ o, (t.context id).opened = some o ∧ t.lastControl o.link = some word)
      fun t => Ledger t loose running ∧ t.transactions = s.transactions := by
  have hmem := List.mem_append_left running hid
  have hrides := (rides loose running).and (rides_advances s _)
  have hrun := hrides.keeps_run hmem (.str word.text) none s ⟨h, Advances.refl s⟩
  refine meets_bind ((hrun.and (runText_outcome (h.accounts.lt_length hmem) word.text)).mono
    (fun _ _ hu => hu) fun t ht => ⟨ht.1.1, ht.1.2.transactions⟩) ?_
  rintro cursor u ⟨⟨⟨hu, hadvances⟩, _⟩, hcursor, before, htrace, hbefore⟩
  obtain ⟨o, cursor', hopened, hhandle, hlink⟩ := hu.accounts.cursor_link id hmem _ hcursor
  cases hhandle
  refine ⟨⟨hu.accounts.unchanged rfl rfl rfl (Nat.le_refl _), ?_, ?_⟩, hadvances.transactions, o,
    hopened, ?_⟩
  · intro other hother
    obtain ⟨p, hp, hlast⟩ := hu.begun other hother
    refine ⟨p, hp, ?_⟩
    -- the connections of two contexts differ, so this one saw no new statement
    have hne : cursor.link ≠ p.link := by
      intro hsame
      have hsame := hu.accounts.eq_of_link_eq hmem (List.mem_append_right loose hother) hopened hp
        (hlink ▸ hsame)
      subst hsame
      exact (List.disjoint_of_nodup_append hu.accounts.distinct) hid hother
    simpa [lastControl, hne] using hlast
  -- the statement is the newest on the trace and in the account
  · have hrecorded : (u.controls.map fun e => Event.execute e.1 (.str e.2.text) none none).Sublist
        before := by
      rw [hadvances.controls]
      exact h.recorded.trans hbefore.sublist
    show List.Sublist _ u.trace
    rw [htrace]
    exact hrecorded.cons_cons _
  · simp [lastControl, hlink]

end Ledger

end Session

end Querysmith
