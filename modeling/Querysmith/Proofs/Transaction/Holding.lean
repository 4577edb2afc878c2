import Querysmith.Proofs.Session.Commands

/-!
# Transactions that are running

The context of a transaction that was begun on a new context has no name, so commands get hold of it
through the registry only. Whatever commands do, the transaction goes on running and stays on record
until COMMIT succeeds on its context or ROLLBACK is sent on it.

## Key results

- `keeps_lasts_recordTransaction`: another transaction in its place rolls it back
- `carried_lasts`: whatever commands do, a transaction lasts until it is over
-/

namespace Querysmith

open Session EStateM

/-! ## Statements that end transactions -/

/-- Whether a statement of this kind on the cursor succeeded, if the event is one. -/
def Event.outcome? (k : CursorId) (word : Control) : Event → Option Bool
  | .execute id (.str sql) _ failure =>
    if id = k ∧ sql = word.text then some failure.isNone else none
  | _ => none

/-- The event is a statement of this kind on the cursor, whether it failed or not. -/
def Event.Sends (k : CursorId) (word : Control) (e : Event) : Prop := (e.outcome? k word).isSome

/-- The event is a statement of this kind on the cursor that did not fail. -/
def Event.Succeeds (k : CursorId) (word : Control) (e : Event) : Prop :=
  e.outcome? k word = some true

instance (k : CursorId) (word : Control) : DecidablePred (Event.Sends k word) :=
  fun _ => inferInstanceAs (Decidable (_ = true))

instance (k : CursorId) (word : Control) : DecidablePred (Event.Succeeds k word) :=
  fun _ => inferInstanceAs (Decidable (_ = some true))

/-- A statement that is a transaction command sends it. -/
theorem Event.sends_execute (k : CursorId) (word : Control) (bindings : Option (List Value))
    (failure : Option String) :
    (Event.execute k (.str word.text) bindings failure).Sends k word := by
  simp [Sends, outcome?]

/-- Without a failure the command has succeeded. -/
theorem Event.succeeds_execute (k : CursorId) (word : Control)
    (bindings : Option (List Value)) :
    (Event.execute k (.str word.text) bindings none).Succeeds k word := by
  simp [Succeeds, outcome?]

/-- The event is a COMMIT on the cursor that did not fail, or a ROLLBACK, which ends the transaction
in any case. -/
def Event.Ends (k : CursorId) (e : Event) : Prop := e.Succeeds k .commit ∨ e.Sends k .rollback

namespace Session

/-- A context cannot be got hold of by name, and what happened before is still on the trace. -/
structure Hidden (v : Session) (c : ContextId) (s : Session) : Prop where
  trace : v.trace <:+ s.trace
  made : c.index < s.contexts.length
  unnamed : ∀ e ∈ s.contextNames, e.2 ≠ c

/-- The context has a connection and its own cursor on it. -/
structure Held (c : ContextId) (k : CursorId) (s : Session) : Prop where
  cursor : (s.context c).cursor = some (.handle k)
  opened : ∃ o, (s.context c).opened = some o ∧ o.cursor ≠ k

/-- The transaction is on record, on a context that is held. -/
structure Running (server : Value) (c : ContextId) (k : CursorId) (s : Session) : Prop
    extends Held c k s where
  registered : s.transactions.get? server = some c

/-- The transaction on the cursor has ended since. -/
def Over (v : Session) (k : CursorId) (s : Session) : Prop := ∃ e ∈ since v s, e.Ends k

/-- The transaction is running, unless it is over. -/
structure Lasts (server : Value) (v : Session) (c : ContextId) (k : CursorId) (s : Session) :
    Prop extends Hidden v c s where
  running : Running server c k s ∨ Over v k s

/-- The transaction is over. -/
structure Ended (v : Session) (c : ContextId) (k : CursorId) (s : Session) : Prop
    extends Hidden v c s where
  isOver : Over v k s

variable {server : Value} {v s t : Session} {c : ContextId} {k : CursorId}

/-! ## Changes of the session -/

/-- A context stays hidden while its name is not given out. -/
theorem Hidden.mono (h : Hidden v c s) (htrace : s.trace <:+ t.trace)
    (hlength : s.contexts.length ≤ t.contexts.length) (hnames : t.contextNames = s.contextNames) :
    Hidden v c t where
  trace := h.trace.trans htrace
  made := Nat.lt_of_lt_of_le h.made hlength
  unnamed := by rw [hnames]; exact h.unnamed

/-- What is over stays over. -/
theorem Over.mono (h : Over v k s) (hv : v.trace <:+ s.trace) (htrace : s.trace <:+ t.trace) :
    Over v k t := by
  obtain ⟨e, he, hends⟩ := h
  refine ⟨e, ?_, hends⟩
  rw [since_trans hv htrace]
  exact List.mem_append_right _ he

theorem Held.congr (h : Held c k s) (hcontext : (t.context c).cursor = (s.context c).cursor)
    (hopened : (t.context c).opened = (s.context c).opened) : Held c k t where
  cursor := by rw [hcontext, h.cursor]
  opened := by rw [hopened]; exact h.opened

theorem Running.congr (h : Running server c k s)
    (hcontext : (t.context c).cursor = (s.context c).cursor)
    (hopened : (t.context c).opened = (s.context c).opened)
    (hregistry : t.transactions = s.transactions) : Running server c k t where
  toHeld := h.toHeld.congr hcontext hopened
  registered := by rw [hregistry, h.registered]

/-- A change that leaves a running transaction running keeps it lasting. -/
theorem Lasts.mono (h : Lasts server v c k s) (htrace : s.trace <:+ t.trace)
    (hlength : s.contexts.length ≤ t.contexts.length) (hnames : t.contextNames = s.contextNames)
    (hrunning : Running server c k s → Running server c k t) : Lasts server v c k t where
  toHidden := h.toHidden.mono htrace hlength hnames
  running := h.running.imp hrunning fun hover => hover.mono h.trace htrace

/-- A transaction that has ended stays so. -/
theorem Ended.mono (h : Ended v c k s) (htrace : s.trace <:+ t.trace)
    (hlength : s.contexts.length ≤ t.contexts.length) (hnames : t.contextNames = s.contextNames) :
    Ended v c k t where
  toHidden := h.toHidden.mono htrace hlength hnames
  isOver := h.isOver.mono h.trace htrace

/-- An event that ends the transaction. -/
theorem Hidden.ended_of_event (h : Hidden v c s) {e : Event} (hends : e.Ends k)
    (htrace : t.trace = e :: s.trace) (hlength : s.contexts.length ≤ t.contexts.length)
    (hnames : t.contextNames = s.contextNames) : Ended v c k t := by
  have hsuffix : s.trace <:+ t.trace := htrace ▸ List.suffix_cons e s.trace
  refine ⟨h.mono hsuffix hlength hnames, e, ?_, hends⟩
  rw [since_trans h.trace hsuffix]
  exact List.mem_append_left _ (by simp [since, htrace])

/-- A transaction that is over lasts in name only. -/
theorem Ended.lasts (h : Ended v c k s) : Lasts server v c k s := ⟨h.toHidden, .inr h.isOver⟩

/-- A transaction that lasts and is over has ended. -/
theorem Lasts.ended (h : Lasts server v c k s) (hover : Over v k s) : Ended v c k s :=
  ⟨h.toHidden, hover⟩

/-- Where one context changes, the others stay as they are, and there are as many as before. -/
private theorem others_of_set {id : ContextId} {d : Context} (h : Hidden v c s)
    (hcontexts : t.contexts = s.contexts.set id.index d) :
    s.contexts.length ≤ t.contexts.length ∧ (id ≠ c → t.context c = s.context c) := by
  refine ⟨Nat.le_of_eq (by rw [hcontexts, List.length_set]), fun hne => ?_⟩
  exact context_of_set_ne hcontexts h.made (Ne.symm hne)

/-- No statement makes a new connection or cursor for a context that is held. -/
theorem rides_lasts : Rides (Lasts server v c k) fun _ => True where
  quiet := fun ht h => by
    refine h.mono ht.trace (Nat.le_of_eq (by rw [ht.contexts])) ht.contextNames fun hr => ?_
    exact hr.congr (cursor_congr ht.contexts c) (opened_congr ht.contexts c) ht.transactions
  opens := fun {id _ _ _} _ ht h => by
    obtain ⟨hlength, hsame⟩ := others_of_set h.toHidden ht.contexts
    refine h.mono ht.trace hlength ht.contextNames fun hr => ?_
    by_cases hid : id = c
    · subst hid
      obtain ⟨o, hopened, _⟩ := hr.opened
      cases hopened.symm.trans ht.unopened
    · exact hr.congr (by rw [hsame hid]) (by rw [hsame hid]) ht.transactions
  draws := fun {id _ _ _} _ ht h => by
    obtain ⟨hlength, hsame⟩ := others_of_set h.toHidden ht.contexts
    refine h.mono ht.trace hlength ht.contextNames fun hr => ?_
    by_cases hid : id = c
    · subst hid
      obtain ⟨o, hopened, hne⟩ := hr.opened
      -- the cursor at hand is not the one that came with the connection
      rcases ht.idle with hnone | ⟨p, hp, hcursor⟩
      · cases hr.cursor.symm.trans hnone
      · have hsame := hr.cursor.symm.trans hcursor
        cases hopened.symm.trans hp
        cases hsame
        exact absurd rfl hne
    · exact hr.congr (by rw [hsame hid]) (by rw [hsame hid]) ht.transactions

/-- While other contexts are used, the transaction lasts. -/
theorem supports_lasts : Supports (Lasts server v c k) fun _ id => id ≠ c where
  rides := fun _ =>
    { quiet := fun ht h => ⟨rides_lasts.quiet ht h.holds, h.free⟩
      opens := fun _ ht h => ⟨rides_lasts.opens trivial ht h.holds, h.free⟩
      draws := fun _ ht h => ⟨rides_lasts.draws trivial ht h.holds, h.free⟩ }
  -- only other contexts are closed, and only free ones are made
  closes := fun {_ id _ _ _} hid ht h => by
    obtain ⟨hlength, hsame⟩ := others_of_set h.holds.toHidden ht.contexts
    have hcontext := hsame (h.free id hid)
    refine ⟨h.holds.mono ht.trace hlength ht.contextNames fun hr => ?_, h.free⟩
    exact hr.congr (by rw [hcontext]) (by rw [hcontext]) ht.transactions
  adds := fun {ids s} d h => by
    have hcontext : ({ s with contexts := s.contexts ++ [d] } : Session).context c =
        s.context c := by
      simp [context, List.getElem?_append_left h.holds.made, h.holds.made]
    refine ⟨h.holds.mono List.suffix_rfl (by simp) rfl fun hr => ?_, fun id hid => ?_⟩
    · exact hr.congr (by rw [hcontext]) (by rw [hcontext]) rfl
    · rcases List.mem_cons.1 hid with rfl | hid
      · intro hc
        exact absurd h.holds.made (by simp [← hc])
      · exact h.free id hid
  controls := fun _ h =>
    ⟨h.holds.mono List.suffix_rfl (Nat.le_refl _) rfl fun hr => hr.congr rfl rfl rfl, h.free⟩

/-- When the transaction is over, anything may happen to its context. -/
theorem supports_ended : Supports (Ended v c k) fun _ _ => True where
  rides := fun _ =>
    { quiet := fun ht h =>
        ⟨h.holds.mono ht.trace (Nat.le_of_eq (by rw [ht.contexts])) ht.contextNames, h.free⟩
      opens := fun _ ht h => by
        have hlength := (others_of_set h.holds.toHidden ht.contexts).1
        exact ⟨h.holds.mono ht.trace hlength ht.contextNames, h.free⟩
      draws := fun _ ht h => by
        have hlength := (others_of_set h.holds.toHidden ht.contexts).1
        exact ⟨h.holds.mono ht.trace hlength ht.contextNames, h.free⟩ }
  closes := fun _ ht h => by
    have hlength := (others_of_set h.holds.toHidden ht.contexts).1
    exact ⟨h.holds.mono ht.trace hlength ht.contextNames, h.free⟩
  -- what has ended is on the trace, which only grows
  adds := fun _ h => ⟨h.holds.mono List.suffix_rfl (by simp) rfl, fun _ _ => trivial⟩
  controls := fun _ h => ⟨h.holds.mono List.suffix_rfl (Nat.le_refl _) rfl, h.free⟩

/-- What keeps a transaction over when any contexts may be got hold of keeps it over. -/
private theorem keeps_ended_of_fits {α : Type} {x : Act α} (ids : List ContextId)
    (h : Keeps (Fits (Ended v c k) (fun _ _ => True) ids) x) : Keeps (Ended v c k) x := fun s hs =>
  (h s ⟨hs, fun _ _ => trivial⟩).mono (fun _ _ ht => ⟨ht.1.holds, trivial⟩) fun _ ht => ht.holds

theorem keeps_ended_control (word : Control) : Keeps (Ended v c k) (c.control word) :=
  keeps_ended_of_fits [c] (supports_ended.tends.keeps_control List.mem_cons_self word)

theorem keeps_ended_close : Keeps (Ended v c k) c.close :=
  keeps_ended_of_fits [c] (supports_ended.tends.access List.mem_cons_self).close

theorem keeps_ended_note (level : Level) (text : String) :
    Keeps (Ended v c k) (note level text) :=
  keeps_ended_of_fits [] (supports_ended.tends.keeps_calm (isCalm_note level text))

/-! ## Ending the transaction -/

/-- COMMIT on the context ends the transaction, unless it fails. -/
theorem control_commit_of_lasts (h : Lasts server v c k s) :
    (c.control .commit s).Meets (fun _ => Ended v c k) (Lasts server v c k) := by
  -- a transaction that runs ends with this commit, if it succeeds
  rcases h.running with hrunning | hover
  · refine meets_bind (P := fun _ => Ended v c k) ?_ fun cursor t ht => ?_
    · refine (runText_of_cursor hrunning.cursor Control.commit.text).mono ?_ ?_
      · intro cursor t ⟨_, ht, htrace⟩
        exact h.toHidden.ended_of_event (.inl (Event.succeeds_execute k .commit none)) htrace
          (Nat.le_of_eq (by rw [ht.contexts])) ht.contextNames
      · intro t ⟨ht, _⟩
        exact rides_lasts.quiet ht h
    · exact ht.mono List.suffix_rfl (Nat.le_refl _) rfl
  · exact ((keeps_ended_control .commit).meets (h.ended hover)).mono_error fun _ ht => ht.lasts

/-- ROLLBACK on the context ends the transaction, whether it fails or not. -/
theorem control_rollback_of_held (h : Hidden v c s) (hheld : Held c k s) :
    (c.control .rollback s).Meets (fun _ => Ended v c k) (Ended v c k) := by
  refine meets_bind (P := fun _ => Ended v c k) ?_ fun cursor t ht => ?_
  · refine (runText_of_cursor hheld.cursor Control.rollback.text).mono ?_ ?_
    · intro cursor t ⟨_, ht, htrace⟩
      exact h.ended_of_event (.inr (Event.sends_execute k .rollback none _)) htrace
        (Nat.le_of_eq (by rw [ht.contexts])) ht.contextNames
    · intro t ⟨ht, reason, htrace⟩
      exact h.ended_of_event (.inr (Event.sends_execute k .rollback none _)) htrace
        (Nat.le_of_eq (by rw [ht.contexts])) ht.contextNames
  · exact ht.mono List.suffix_rfl (Nat.le_refl _) rfl

/-- Giving the context up ends the transaction, on record or not. -/
theorem giveUp_of_held (h : Hidden v c s) (hheld : Held c k s ∨ Over v k s) :
    (c.giveUp s).Meets (fun _ => Ended v c k) (Ended v c k) := by
  have hrollback : (c.control .rollback s).Meets (fun _ => Ended v c k) (Ended v c k) := by
    rcases hheld with hheld | hover
    · exact control_rollback_of_held h hheld
    · exact (keeps_ended_control .rollback).meets ⟨h, hover⟩
  have hclose : ∀ t, Ended v c k t → (c.close t).Meets (fun _ => Ended v c k) (Ended v c k) :=
    fun _ ht => keeps_ended_close.meets ht
  exact meets_tryFinally hrollback (fun _ t ht => hclose t ht) hclose

/-- The cursor of a transaction is held until it is over. -/
theorem Lasts.held_or_over (h : Lasts server v c k s) : Held c k s ∨ Over v k s :=
  h.running.imp_left Running.toHeld

/-! ## Changes of the registry -/

/-- Where one server has no transaction on the context, another server has. -/
private theorem sameKey_eq_false (h : Running server c k s) {other : Value}
    (hother : s.transactions.get? other ≠ some c) : other.sameKey server = false := by
  rw [Bool.eq_false_iff]
  intro hsame
  exact hother ((Registry.get?_congr hsame s.transactions).trans h.registered)

/-- Recording a transaction leaves this one on record, unless it is in its place. -/
theorem Lasts.openTransaction (h : Lasts server v c k s) (other : Value)
    (hother : s.transactions.get? other ≠ some c) (id : ContextId) :
    Lasts server v c k (s.openTransaction other id) := by
  refine h.mono List.suffix_rfl (Nat.le_refl _) rfl fun hr => ⟨hr.toHeld.congr rfl rfl, ?_⟩
  show (s.transactions.insert other id).get? server = some c
  rw [Registry.get?_insert, if_neg (by simp [sameKey_eq_false hr hother]), hr.registered]

/-- Taking another transaction from the registry lets this one last. -/
theorem Lasts.dropTransaction (h : Lasts server v c k s) (other : Value)
    (hother : s.transactions.get? other ≠ some c) :
    Lasts server v c k (s.dropTransaction other) := by
  refine h.mono List.suffix_rfl (Nat.le_refl _) rfl fun hr => ⟨hr.toHeld.congr rfl rfl, ?_⟩
  show (s.transactions.erase other).get? server = some c
  rw [Registry.get?_erase, if_neg (by simp [sameKey_eq_false hr hother]), hr.registered]

/-! ## Beginning and ending transactions -/

theorem keeps_lasts_note (level : Level) (text : String) :
    Keeps (Lasts server v c k) (note level text) :=
  (isQuiet_note level text).keeps rides_lasts.quiet

/-- What is kept of a session in which one other context is free. -/
private theorem keeps_lasts_of_fits {α : Type} {id : ContextId} {x : Act α} (hid : id ≠ c)
    (h : Keeps (Fits (Lasts server v c k) (fun _ id => id ≠ c) [id]) x) :
    Keeps (Lasts server v c k) x := fun s hs => by
  have hfits : Fits (Lasts server v c k) (fun _ id => id ≠ c) [id] s :=
    ⟨hs, fun _ hid' => List.mem_singleton.1 hid' ▸ hid⟩
  exact (h s hfits).mono (fun _ _ ht => ⟨ht.1.holds, trivial⟩) fun _ ht => ht.holds

theorem keeps_lasts_control {id : ContextId} (hid : id ≠ c) (word : Control) :
    Keeps (Lasts server v c k) (id.control word) :=
  keeps_lasts_of_fits hid (supports_lasts.tends.keeps_control List.mem_cons_self word)

theorem keeps_lasts_close {id : ContextId} (hid : id ≠ c) : Keeps (Lasts server v c k) id.close :=
  keeps_lasts_of_fits hid (supports_lasts.tends.access List.mem_cons_self).close

theorem keeps_lasts_giveUp {id : ContextId} (hid : id ≠ c) :
    Keeps (Lasts server v c k) id.giveUp :=
  keeps_lasts_of_fits hid (supports_lasts.tends.keeps_giveUp List.mem_cons_self)

/-- A transaction that is put on record in the place of this one rolls it back. -/
theorem keeps_lasts_recordTransaction {id : ContextId} (hid : id ≠ c) (other : Value) :
    Keeps (Lasts server v c k) (recordTransaction other id) := by
  intro s hs
  refine meets_recordTransaction (fun _ _ => hs) (fun hsame => ?_) fun old t hget _ ht => ?_
  · exact ⟨hs.openTransaction other (fun hget => hid (hsame c hget).symm) id, trivial⟩
  · by_cases hold : old = c
    · -- the transaction itself is the one that is given up
      subst hold
      have hhidden : Hidden v old t :=
        hs.toHidden.mono ht.trace (Nat.le_of_eq (by rw [ht.contexts]; rfl)) ht.contextNames
      have hheld : Held old k t ∨ Over v k t := hs.held_or_over.imp
        (fun h => h.congr (cursor_congr ht.contexts old) (opened_congr ht.contexts old))
        fun h => h.mono hs.trace ht.trace
      exact (giveUp_of_held hhidden hheld).mono (fun _ _ hu => ⟨hu.lasts, trivial⟩)
        fun _ hu => hu.lasts
    -- the transaction of another context is given up
    · have hkept := hs.openTransaction other (by simpa [hget] using hold) id
      exact keeps_lasts_giveUp hold t (rides_lasts.quiet ht hkept)

/-- A COMMIT on the context ends the transaction, and one on any other leaves it as it is. -/
theorem keeps_lasts_commitTransaction (other : Value) :
    Keeps (Lasts server v c k) (commitTransaction other) := by
  intro s hs
  rw [commitTransaction]
  refine meets_bind ((openTransaction?_outcome other s).mono_error fun t ht => ht ▸ hs) ?_
  rintro context t ⟨rfl, rfl⟩
  cases hget : t.transactions.get? other with
  | none => exact keeps_lasts_note _ _ t hs
  | some id =>
    -- the context is on record for at most one server, which may be this one
    by_cases hid : id = c
    · subst hid
      refine meets_bind (control_commit_of_lasts hs) fun _ u hu => ?_
      have hdropped : Ended v id k (u.dropTransaction other) :=
        hu.mono List.suffix_rfl (Nat.le_refl _) rfl
      refine meets_bind (P := fun _ w => w = u.dropTransaction other) rfl ?_
      rintro _ _ rfl
      exact ((keeps_ended_close.bind fun _ => keeps_ended_note _ _) _ hdropped).mono
        (fun _ _ hw => ⟨hw.1.lasts, trivial⟩) fun _ hw => hw.lasts
    · have hcontrol := (keeps_lasts_control hid .commit t hs).and
        (keeps_control t.transactions id .commit t rfl)
      refine meets_bind (hcontrol.mono_error fun _ hu => hu.1) ?_
      rintro _ u ⟨⟨hu, _⟩, hregistry, _⟩
      -- an entry of another context is dropped
      have hother : u.transactions.get? other ≠ some c := by
        rw [hregistry, hget]
        simpa using hid
      refine meets_bind (P := fun _ w => w = u.dropTransaction other) rfl ?_
      rintro _ _ rfl
      exact ((keeps_lasts_close hid).bind fun _ => keeps_lasts_note _ _) _
        (hu.dropTransaction other hother)

/-- A rollback of the context ends the transaction, and one of any other leaves it as it is. -/
theorem keeps_lasts_rollbackTransaction (other : Value) :
    Keeps (Lasts server v c k) (rollbackTransaction other) := by
  intro s hs
  rw [rollbackTransaction]
  refine meets_bind ((takeTransaction_outcome other s).mono_error fun t ht => ht.1 ▸ hs) ?_
  rintro context t ⟨rfl, rfl⟩
  cases hget : s.transactions.get? other with
  | none =>
    exact keeps_lasts_note _ _ _ (hs.dropTransaction other (by simp [hget]))
  | some id =>
    by_cases hid : id = c
    · subst hid
      have hhidden : Hidden v id (s.dropTransaction other) :=
        hs.toHidden.mono List.suffix_rfl (Nat.le_refl _) rfl
      -- the cursor is held until ROLLBACK is sent on it, or the transaction was over before
      have hheld : Held id k (s.dropTransaction other) ∨ Over v k (s.dropTransaction other) :=
        hs.held_or_over.imp (fun h => h.congr rfl rfl) fun h => h.mono hs.trace List.suffix_rfl
      refine meets_bind ((giveUp_of_held hhidden hheld).mono_error
        fun _ hu => hu.lasts) fun _ u hu => ?_
      exact keeps_lasts_note _ _ u hu.lasts
    · have hkept := hs.dropTransaction other (by simpa [hget] using hid)
      exact ((keeps_lasts_giveUp hid).bind fun _ => keeps_lasts_note _ _) _ hkept

/-! ## Commands -/

/-- Naming another context lets the transaction last. -/
private theorem lasts_named {ids : List ContextId} {id : ContextId} (name : String)
    (hid : id ∈ ids) (h : Fits (Lasts server v c k) (fun _ id => id ≠ c) ids s) :
    Fits (Lasts server v c k) (fun _ id => id ≠ c) ids
      { s with contextNames := keep name id s.contextNames } := by
  refine ⟨⟨⟨h.holds.trace, h.holds.made, fun e he => ?_⟩, ?_⟩, h.free⟩
  · rcases mem_keep he with rfl | he
    · exact h.free id hid
    · exact h.holds.unnamed e he
  · exact h.holds.running.imp_left fun hr => hr.congr rfl rfl rfl

/-- Whatever commands do, the transaction lasts until it is over. -/
theorem carried_lasts : Carried (Lasts server v c k) (fun _ id => id ≠ c) .any where
  toTends := supports_lasts.tends
  makes := fun name _ ht _ => supports_lasts.makes lasts_named name ht _
  names := fun h he _ => h.unnamed _ he
  named := lasts_named
  serves := supports_lasts.serves
  -- a transaction that is begun has a context of its own
  begins := fun {ids given other} _ hgiven => by
    rw [beginTransaction]
    refine (supports_lasts.tends.yields_startTransaction other hgiven).andThen fun id s hs => ?_
    have hid : id ≠ c := hs.free id List.mem_cons_self
    refine Yields.after (keeps_fits (keeps_lasts_recordTransaction hid other)) (fun _ => ?_) s hs
    refine Yields.after (keeps_fits (keeps_lasts_note _ _)) fun _ => ?_
    exact yields_pure fun id' hid' => List.mem_append_left ids hid'
  commits := fun {_ other} _ => keeps_fits (keeps_lasts_commitTransaction other)
  rollbacks := fun {_ other} _ => keeps_fits (keeps_lasts_rollbackTransaction other)

end Session

end Querysmith
