import Querysmith.Proofs.Session.Callback
import Querysmith.Proofs.Session.Grounded
import Querysmith.Proofs.Session.Sending
import Querysmith.Proofs.Transaction.Holding

/-!
# What comes of a transaction

An action in a transaction that returns has been committed, and one that fails has not, as far as
the action leaves the transaction alone. An action that rolls its own transaction back, or begins
another one in its place, may return without having been committed, since a COMMIT is then sent on
no context or on the other one. An action that has committed its own transaction may fail later.

## Key results

- `startTransaction_begun`: a transaction is begun on a context that nobody knows
- `commitTransaction_of_running`: a running transaction is committed on its own context
- `keeps_spares_rollbackTransaction`: what follows a failure commits nothing
- `inTransaction_verdict`: when a callback in a transaction returns
-/

namespace Querysmith

open Session EStateM

namespace Session

/-! ## Beginning -/

/-- A statement on a context that has nothing yet opens a connection and makes a cursor on it. -/
theorem runText_of_unopened {id : ContextId} {s : Session}
    (howns : (s.context id).ownsConnection = true) (hopened : (s.context id).opened = none)
    (hcursor : (s.context id).cursor = none) (sql : String) :
    (id.runText sql s).Meets
      (fun k t => Held id k t ∧ Advances s t ∧ t.contexts.length = s.contexts.length ∧
        t.trace.head? = some (.execute k (.str sql) none none))
      fun _ => True := by
  refine meets_bind ((cursor_outcome hcursor).mono_error fun _ _ => trivial) ?_
  rintro _ t ⟨u, k, hu, ht, rfl⟩
  have hid := lt_of_ownsConnection howns
  -- the connection was opened on the way, and its own cursor comes before this one
  have hheld : Held id k t ∧ Advances s t ∧ t.contexts.length = s.contexts.length := by
    rcases hu with hu | ⟨o, hu⟩
    · obtain ⟨o, ho, _⟩ := ht.uses.opened (by rw [ownsConnection_congr hu.contexts, howns])
      rw [opened_congr hu.contexts, hopened] at ho
      cases ho
    · have hcontext := context_of_set hu.contexts hid
      have hlength : u.contexts.length = s.contexts.length := by simp [hu.contexts]
      have hdrawn := context_of_set ht.contexts (hlength ▸ hid)
      refine ⟨⟨by rw [hdrawn], o, by rw [hdrawn, hcontext]; rfl, ?_⟩,
        hu.toAdvances.trans ht.toAdvances, by simp [ht.contexts, hlength]⟩
      intro hsame
      have hmade := hu.cursor_made
      have hfresh := ht.fresh
      rw [← hsame, hu.cursor_link] at hfresh
      exact absurd hmade (Nat.not_lt.2 hfresh)
  -- the statement comes last, and changes no context
  show ((do k.execute (.str sql) none; return k : Act CursorId) t).Meets _ _
  refine meets_bind ((execute_outcome k (.str sql) none t).mono_error fun _ _ => trivial) ?_
  rintro _ v ⟨hv, htrace⟩
  refine ⟨hheld.1.congr (cursor_congr hv.contexts id) (opened_congr hv.contexts id),
    hheld.2.1.trans hv.toAdvances, by rw [hv.contexts, hheld.2.2], by rw [htrace]; rfl⟩

/-- The context of a transaction that was begun on a new context. -/
structure Begun (server : Value) (c : ContextId) (u : Session) (k : CursorId) : Prop extends
    Held c k u, Hidden u c u where
  key : server.key? ≠ none
  begin_head : u.trace.head? = some (.execute k (.str Control.begin.text) none none)

/-- A transaction is begun on a context that nobody knows. -/
theorem startTransaction_begun {server : Value} {s u : Session} {c : ContextId} (hs : s.Grounded)
    (hstart : startTransaction server none s = .ok c u) : ∃ k, Begun server c u k := by
  have hmeets : (startTransaction server none s).Meets (fun c u => ∃ k, Begun server c u k)
      fun _ => True := by
    rw [startTransaction]
    refine meets_bind ((addServerContext_outcome server [] s).mono_error fun _ _ => trivial) ?_
    rintro id v ⟨rfl, hv⟩
    have hcontext : v.context ⟨s.contexts.length⟩ = { source := .server server [] } := by
      simp [context, hv]
    have hbegin : (ContextId.control ⟨s.contexts.length⟩ .begin v).Meets
        (fun _ u => ∃ k, Begun server ⟨s.contexts.length⟩ u k) fun _ => True := by
      cases hkey : server.key? with
      | none =>
        obtain ⟨e, hcontrol⟩ := control_of_key?_eq_none hkey hcontext .begin
        rw [hcontrol]
        exact trivial
      | some key =>
        refine meets_bind (runText_of_unopened (by rw [hcontext]; rfl) (by rw [hcontext])
          (by rw [hcontext]) Control.begin.text) ?_
        rintro k u ⟨hheld, hadvances, hlength, hhead⟩
        -- no name stands for the context: the names that there are stand for earlier ones
        refine ⟨k, ⟨hheld.congr rfl rfl, ⟨List.suffix_rfl, ?_, fun e he hid => ?_⟩, by simp [hkey],
          hhead⟩⟩
        · show s.contexts.length < u.contexts.length
          rw [hlength, hv]
          simp
        · have hnamed := hs.named e (by rw [hadvances.contextNames, hv] at he; exact he)
          rw [hid] at hnamed
          exact absurd hnamed (Nat.lt_irrefl _)
    -- a failing BEGIN is passed on once the context was closed
    refine meets_bind (meets_tryCatch hbegin fun e t _ => ?_) fun _ _ hu => hu
    exact meets_bind (close_outcome _ t |>.mono (fun _ _ _ => trivial) fun _ hf => hf.elim)
      fun _ _ _ => trivial
  rw [hstart] at hmeets
  exact hmeets

/-- A transaction that was begun is running once it is on record, whatever was in its place. -/
theorem recordTransaction_of_begun {server : Value} {u : Session} {c : ContextId} {k : CursorId}
    (h : Begun server c u k) :
    (recordTransaction server c u).Meets (fun _ => Lasts server u c k)
      fun v => u.trace <:+ v.trace := by
  -- the transaction is on record from here on
  have hlasts : Lasts server u c k (u.openTransaction server c) := by
    refine ⟨h.toHidden.mono List.suffix_rfl (Nat.le_refl _) rfl,
      .inl ⟨h.toHeld.congr rfl rfl, ?_⟩⟩
    show (u.transactions.insert server c).get? server = some c
    rw [Registry.get?_insert, if_pos (Value.sameKey_self h.key)]
  refine meets_recordTransaction (fun _ _ => List.suffix_rfl) (fun _ => hlasts) ?_
  intro other v _ hother hv
  -- what was open for the server before is given up, on another context
  exact ((keeps_lasts_giveUp hother).meets (rides_lasts.quiet hv hlasts)).mono_error
    fun _ ht => ht.trace

/-! ## Events -/

/-- Nothing that happens takes events away. -/
theorem supports_trace (l : List Event) : Supports (fun t => l <:+ t.trace) fun _ _ => True where
  rides := fun _ =>
    { quiet := fun ht h => ⟨h.holds.trans ht.trace, h.free⟩
      opens := fun _ ht h => ⟨h.holds.trans ht.trace, h.free⟩
      draws := fun _ ht h => ⟨h.holds.trans ht.trace, h.free⟩ }
  closes := fun _ ht h => ⟨h.holds.trans ht.trace, h.free⟩
  adds := fun _ h => ⟨h.holds, fun _ _ => trivial⟩
  controls := fun _ h => ⟨h.holds, h.free⟩

/-- Whatever is done, what has happened stays on the trace. -/
theorem lenient_trace (l : List Event) :
    Lenient (fun t => l <:+ t.trace) (fun _ _ => True) fun _ => True where
  toTends := (supports_trace l).tends
  registered := fun _ _ _ => trivial
  opens := fun _ _ h => ⟨h.holds, h.free⟩
  drops := fun _ h => ⟨h.holds, h.free⟩

/-- An action keeps the events when it does so wherever contexts may be got hold of. -/
private theorem keeps_trace_of_fits {α : Type} {l : List Event} {x : Act α} (ids : List ContextId)
    (h : Keeps (Fits (fun t => l <:+ t.trace) (fun _ _ => True) ids) x) :
    Keeps (fun t => l <:+ t.trace) x := fun s hs =>
  (h s ⟨hs, fun _ _ => trivial⟩).mono (fun _ _ ht => ⟨ht.1.holds, trivial⟩) fun _ ht => ht.holds

theorem keeps_trace_note (l : List Event) (level : Level) (text : String) :
    Keeps (fun t => l <:+ t.trace) (note level text) :=
  keeps_trace_of_fits [] ((supports_trace l).tends.keeps_calm (isCalm_note level text))

theorem keeps_trace_close (l : List Event) (id : ContextId) :
    Keeps (fun t => l <:+ t.trace) id.close :=
  keeps_trace_of_fits [id] ((supports_trace l).tends.access List.mem_cons_self).close

theorem keeps_trace_runText (l : List Event) (id : ContextId) (sql : String) :
    Keeps (fun t => l <:+ t.trace) (id.runText sql) :=
  keeps_trace_of_fits [] (((supports_trace l).rides []).keeps_run trivial _ _)

theorem keeps_trace_commitTransaction (l : List Event) (server : Value) :
    Keeps (fun t => l <:+ t.trace) (commitTransaction server) :=
  keeps_trace_of_fits [] ((lenient_trace l).keeps_commitTransaction trivial)

/-! ## Committing -/

/-- A running transaction is committed on its own context, or the call fails. -/
theorem commitTransaction_of_running {server : Value} {s : Session} {c : ContextId} {k : CursorId}
    (h : Running server c k s) :
    (commitTransaction server s).Meets
      (fun _ t => .execute k (.str Control.commit.text) none none :: s.trace <:+ t.trace)
      fun _ => True := by
  rw [commitTransaction]
  refine meets_bind ((openTransaction?_outcome server s).mono_error fun _ _ => trivial) ?_
  rintro context t ⟨rfl, rfl⟩
  rw [h.registered]
  -- COMMIT is the next event, and all that is done after it adds to the trace
  have hcontrol : (c.control .commit t).Meets
      (fun _ u => .execute k (.str Control.commit.text) none none :: t.trace <:+ u.trace)
      fun _ => True := by
    refine meets_bind ((runText_of_cursor h.cursor Control.commit.text).mono_error
      fun _ _ => trivial) ?_
    rintro cursor u ⟨_, _, htrace⟩
    exact ⟨[], htrace.symm⟩
  have hnote := fun l => keeps_trace_note l .info
    ("Committed transaction on server '" ++ server.text ++ "'")
  have hclose := (keeps_trace_close (.execute k (.str Control.commit.text) none none :: t.trace)
    c).bind fun _ => hnote _
  refine meets_bind hcontrol fun _ u hu => ?_
  exact (hclose (u.dropTransaction server) hu).mono (fun _ _ hv => hv.1) fun _ _ => trivial

/-! ## What commits nothing -/

/-- No COMMIT has succeeded since. -/
structure Spares (w t : Session) : Prop where
  trace : w.trace <:+ t.trace
  spares : ∃ new, t.sent = new ++ w.sent ∧ ∀ e ∈ new, ∀ k, ¬ e.Succeeds k .commit

namespace Spares

variable {w t u : Session}

theorem refl (w : Session) : Spares w w := ⟨List.suffix_rfl, [], rfl, nofun⟩

/-- Events that send nothing. -/
theorem of_sent_eq (h : Spares w t) (htrace : t.trace <:+ u.trace) (hsent : u.sent = t.sent) :
    Spares w u :=
  ⟨h.trace.trans htrace, by rw [hsent]; exact h.spares⟩

/-- A statement that is not COMMIT or has failed. -/
theorem of_sent_cons (h : Spares w t) {e : Event} (htrace : t.trace <:+ u.trace)
    (hsent : u.sent = e :: t.sent) (he : ∀ k, ¬ e.Succeeds k .commit) : Spares w u := by
  obtain ⟨new, hnew, hspares⟩ := h.spares
  refine ⟨h.trace.trans htrace, e :: new, by rw [hsent, hnew, List.cons_append], ?_⟩
  intro e' he'
  rcases List.mem_cons.1 he' with rfl | he'
  · exact he
  · exact hspares e' he'

/-- What was sent since is told apart from what was sent before. -/
theorem not_succeeds (h : Spares w t) {e : Event} (he : e ∈ since w t) (k : CursorId) :
    ¬ e.Succeeds k .commit := by
  obtain ⟨new, hnew, hspares⟩ := h.spares
  intro hcommit
  -- a commit is a statement, and all statements that were sent are spared
  have hstatement : e.isStatement = true := by
    cases e with
    | execute => rfl
    | executeMany => rfl
    | _ => cases hcommit
  have hmem := List.mem_filter.2 ⟨he, hstatement⟩
  rw [sent_since h.trace hnew] at hmem
  exact hspares e hmem k hcommit

end Spares

theorem keeps_spares_note (w : Session) (level : Level) (text : String) :
    Keeps (Spares w) (note level text) := by
  intro t ht
  have htrace := keeps_trace_note t.trace level text t List.suffix_rfl
  exact (htrace.and ((isCalm_note level text).keeps_sent t rfl)).mono
    (fun _ _ hu => ⟨ht.of_sent_eq hu.1.1 hu.2.1, trivial⟩) fun _ hu => ht.of_sent_eq hu.1 hu.2

theorem keeps_spares_close (w : Session) (id : ContextId) : Keeps (Spares w) id.close := by
  intro t ht
  have htrace := keeps_trace_close t.trace id t List.suffix_rfl
  exact (htrace.and (keeps_sent_close id t rfl)).mono
    (fun _ _ hu => ⟨ht.of_sent_eq hu.1.1 hu.2.1, trivial⟩) fun _ hu => ht.of_sent_eq hu.1 hu.2

/-- A statement that begins or ends a transaction commits nothing when it fails or is not COMMIT. -/
theorem control_spares {w t : Session} (h : Spares w t) (id : ContextId) (word : Control) :
    (id.control word t).Meets (fun _ u => word ≠ .commit → Spares w u) (Spares w) := by
  have htrace := keeps_trace_runText t.trace id word.text t List.suffix_rfl
  refine meets_bind ((htrace.and (runText_sends id word.text t)).mono_error ?_) ?_
  -- the statement was not sent at all, or it failed
  · rintro u ⟨htrace, hsent | ⟨cursor, reason, hsent⟩⟩
    · exact h.of_sent_eq htrace hsent
    · exact h.of_sent_cons htrace hsent fun k => by
        simp [Event.Succeeds, Event.outcome?]
  · rintro cursor u ⟨⟨htrace, _⟩, hsent⟩ hword
    refine h.of_sent_cons (u := { u with controls := _ }) htrace hsent fun k => ?_
    -- only COMMIT could commit something
    cases word with
    | commit => exact absurd rfl hword
    | _ => simp [Event.Succeeds, Event.outcome?, Control.text]

/-- A commit that fails has committed nothing. -/
theorem commitTransaction_spares (server : Value) (w : Session) :
    (commitTransaction server w).Meets (fun _ _ => True) (Spares w) := by
  rw [commitTransaction]
  refine meets_bind ((openTransaction?_outcome server w).mono_error
    fun _ ht => ht ▸ Spares.refl w) ?_
  rintro context t ⟨rfl, rfl⟩
  cases t.transactions.get? server with
  | none => exact trivial
  | some id =>
    refine meets_bind ((control_spares (Spares.refl t) id .commit).mono (fun _ _ _ => trivial)
      fun _ hu => hu) fun _ u (_ : True) => ?_
    -- nothing can fail once COMMIT has succeeded
    refine meets_bind (P := fun _ _ => True) trivial fun _ v _ => ?_
    refine meets_bind ((close_outcome id v).mono (fun _ _ _ => trivial) fun _ hf => hf.elim) ?_
    exact fun _ _ (_ : True) => trivial

theorem keeps_spares_rollbackTransaction (w : Session) (server : Value) :
    Keeps (Spares w) (rollbackTransaction server) := by
  intro s hs
  rw [rollbackTransaction]
  refine meets_bind ((takeTransaction_outcome server s).mono_error fun _ ht => ht.1 ▸ hs) ?_
  rintro context t ⟨_, rfl⟩
  have hdropped : Spares w (s.dropTransaction server) := hs.of_sent_eq List.suffix_rfl rfl
  cases context with
  | none => exact keeps_spares_note w _ _ _ hdropped
  | some id =>
    -- ROLLBACK is sent, and the context closed in any case
    have hgiveUp : Keeps (Spares w) id.giveUp := by
      refine Gives.tryFinally (fun t ht => ?_) (keeps_spares_close w id)
      exact (control_spares ht id .rollback).mono (fun _ _ hu => ⟨hu (by decide), trivial⟩)
        fun _ hu => hu
    exact (hgiveUp.bind fun _ => keeps_spares_note w _ _) _ hdropped

/-! ## What comes of an action in a transaction -/

/-- A COMMIT on the cursor did not fail, and no ROLLBACK was sent on it before. -/
def Committed (k : CursorId) (events : List Event) : Prop :=
  ∃ later e earlier, events = later ++ e :: earlier ∧ e.Succeeds k .commit ∧
    ∀ e' ∈ earlier, ¬ e'.Sends k .rollback

/-- The session in which an action inside a transaction has stopped, or the call has failed to
begin the transaction. -/
def callbackEnd {α : Type} (server : Value) (act : Act α) (s : Session) : Session :=
  match beginTransaction server none s with
  | .ok _ v => (act v).state
  | .error _ v => v

/-- A list that holds a successful COMMIT and no ROLLBACK. -/
theorem Committed.of_mem {k : CursorId} {events : List Event} {e : Event} (he : e ∈ events)
    (hcommit : e.Succeeds k .commit) (hnone : ¬ ∃ e ∈ events, e.Sends k .rollback) :
    Committed k events := by
  obtain ⟨later, earlier, rfl⟩ := List.append_of_mem he
  refine ⟨later, e, earlier, rfl, hcommit, fun e' he' hsends => hnone ⟨e', ?_, hsends⟩⟩
  exact List.mem_append_right _ (List.mem_cons_of_mem _ he')

/-- A commit stays one, whatever happens afterwards. -/
theorem Committed.append {k : CursorId} {events : List Event} (h : Committed k events)
    (more : List Event) : Committed k (more ++ events) := by
  obtain ⟨later, e, earlier, rfl, hcommit, hnone⟩ := h
  exact ⟨more ++ later, e, earlier, by rw [List.append_assoc], hcommit, hnone⟩

/-- An action that returns has been committed, unless it has rolled back itself. -/
private theorem committed_of_commit {server : Value} {u w : Session} {c : ContextId}
    {k : CursorId} (h : Lasts server u c k w) :
    (commitTransaction server w).Meets
      (fun _ t => ¬ (∃ e ∈ since u w, e.Sends k .rollback) → Committed k (since u t))
      fun _ => True := by
  rcases h.running with hrunning | ⟨e, he, hends⟩
  · -- the transaction is still running, and COMMIT is sent now
    refine (commitTransaction_of_running hrunning).mono (fun _ t ht hnone => ?_)
      fun _ _ => trivial
    have hwt := (List.suffix_cons _ w.trace).trans ht
    obtain ⟨more, hmore⟩ := ht
    refine ⟨more, _, since u w, ?_, Event.succeeds_execute k .commit none,
      fun e' he' hsends => hnone ⟨e', he', hsends⟩⟩
    refine List.append_cancel_right (?_ : _ ++ u.trace = _ ++ u.trace)
    rw [since_append (h.trace.trans hwt), List.append_assoc, List.cons_append,
      since_append h.trace, hmore]
  · -- the action has ended the transaction itself
    rcases hends with hcommit | hrollback
    · refine (keeps_trace_commitTransaction w.trace server w List.suffix_rfl).mono
        (fun _ t ht hnone => ?_) fun _ _ => trivial
      rw [since_trans h.trace ht.1]
      exact (Committed.of_mem he hcommit hnone).append _
    · cases hcommit : commitTransaction server w with
      | ok _ t => exact fun hnone => absurd ⟨e, he, hrollback⟩ hnone
      | error e' t => exact trivial

/-- What follows the failure of an action fails as well, and commits nothing. -/
private theorem spares_of_failure {w t : Session} (h : Spares w t) (server : Value) (e : Error)
    {α : Type} :
    ((do
      note .warning ("Transaction on server '" ++ server.text ++ "' failed: " ++ e.message)
      try rollbackTransaction server
      catch _ => note .error ("Rollback on server '" ++ server.text ++ "' failed")
      throw (.transactionFailed server e) : Act α) t).Meets (fun _ _ => False) (Spares w) := by
  refine meets_bind ((keeps_spares_note w _ _).meets h) ?_
  intro _ u hu
  -- whether the rollback fails or not, two notes are all that remains
  have hrollback : Keeps (Spares w) (tryCatchThe Error (rollbackTransaction server) fun _ =>
      note .error ("Rollback on server '" ++ server.text ++ "' failed")) :=
    Gives.tryCatch (keeps_spares_rollbackTransaction w server) fun _ => keeps_spares_note w _ _
  exact meets_bind (hrollback.meets hu) fun _ _ hv => hv

/-- What comes of an action that runs in a transaction: unless it has rolled the transaction back,
it has been committed when it returns, and when it fails nothing is committed any more. -/
private theorem inTransaction_outcome {α : Type} {server : Value} {act : Act α} {s u : Session}
    {c : ContextId} {k : CursorId} (h : Begun server c u k)
    (hstart : startTransaction server none s = .ok c u)
    (hact : Keeps (Lasts server u c k) act) :
    u.trace <:+ (callbackEnd server act s).trace ∧
      (inTransaction server none act s).Meets
        (fun _ t => ¬ (∃ e ∈ since u (callbackEnd server act s), e.Sends k .rollback) →
          Committed k (since u t))
        (Spares (callbackEnd server act s)) := by
  have hbegin : (beginTransaction server none s).Meets (fun _ => Lasts server u c k)
      fun v => u.trace <:+ v.trace := by
    rw [beginTransaction, bind_of_ok hstart]
    refine meets_bind (recordTransaction_of_begun h) fun _ v hv => ?_
    -- the call only takes a note of it then
    have hnote := (keeps_lasts_note .info
      ("Began transaction on server '" ++ server.text ++ "'") v hv)
    exact meets_bind (hnote.mono (fun _ _ hw => hw.1) fun _ hw => hw.trace) fun _ _ hw => hw
  -- BEGIN may succeed and the record of it fail; then the action is not run
  cases hbeginRun : beginTransaction server none s with
  | error e v =>
    have hend : callbackEnd server act s = v := by rw [callbackEnd, hbeginRun]
    rw [hbeginRun] at hbegin
    rw [hend, inTransaction, bind_of_error hbeginRun]
    exact ⟨hbegin, Spares.refl v⟩
  | ok c' v =>
    have hend : callbackEnd server act s = (act v).state := by rw [callbackEnd, hbeginRun]
    rw [hbeginRun] at hbegin
    have hlasts := hact.state hbegin
    rw [hend, inTransaction, bind_of_ok hbeginRun]
    refine ⟨hlasts.trace, meets_tryCatch (E := Spares (act v).state) ?_ fun e t ht => ?_⟩
    · -- COMMIT is sent only when the action returns; every failure goes on to ROLLBACK
      cases hactRun : act v with
      | error e w =>
        rw [bind_of_error hactRun]
        exact Spares.refl w
      | ok a w =>
        rw [hactRun] at hlasts
        rw [bind_of_ok hactRun]
        have hcommit := (committed_of_commit hlasts).and (commitTransaction_spares server w)
        refine meets_bind (hcommit.mono (fun _ _ ht => ht.1) fun _ ht => ht.2) ?_
        exact fun _ _ ht => ht
    · exact (spares_of_failure ht server e).mono (fun _ _ hf => hf.elim) fun _ hu => hu

/-- A callback in a transaction that returns has been committed on the context that the transaction
was begun on, with no ROLLBACK before, unless a ROLLBACK was sent on this context before the
callback was over. And one that has been committed so returns, unless a COMMIT has succeeded on this
context before the callback was over. -/
theorem inTransaction_verdict {α : Type} {server : Value} (callback : Callback α) {s u : Session}
    {c : ContextId} (hs : s.Grounded) (hstart : startTransaction server none s = .ok c u) :
    ∃ k, (u.context c).cursor = some (.handle k) ∧
      u.trace.head? = some (.execute k (.str "BEGIN") none none) ∧
      ((∃ a t, inTransaction server none callback.run s = .ok a t) →
        Committed k (since u (inTransaction server none callback.run s).state) ∨
          ∃ e ∈ since u (callbackEnd server callback.run s), e.Sends k .rollback) ∧
      (Committed k (since u (inTransaction server none callback.run s).state) →
        (∃ a t, inTransaction server none callback.run s = .ok a t) ∨
          ∃ e ∈ since u (callbackEnd server callback.run s), e.Succeeds k .commit) := by
  obtain ⟨k, hbegun⟩ := startTransaction_begun hs hstart
  have hcallback : Keeps (Lasts server u c k) callback.run := fun t ht => by
    -- no context of the caller is in play, since the callback names none
    have hfits : Fits (Lasts server u c k) (fun _ id => id ≠ c) [] t := ⟨ht, nofun⟩
    exact (carried_lasts.keeps_callback callback t hfits).mono
      (fun _ _ hv => ⟨hv.1.holds, trivial⟩) fun _ hv => hv.holds
  obtain ⟨hend, houtcome⟩ := inTransaction_outcome hbegun hstart hcallback
  -- the callback's own ROLLBACK, and its own COMMIT, are the two ways out
  refine ⟨k, hbegun.cursor, hbegun.begin_head, ?_, ?_⟩
  · intro ⟨a, t, hrun⟩
    rw [hrun] at houtcome ⊢
    by_cases hrollback : ∃ e ∈ since u (callbackEnd server callback.run s), e.Sends k .rollback
    · exact .inr hrollback
    · exact .inl (houtcome hrollback)
  · intro ⟨later, e, earlier, hevents, hcommit, _⟩
    cases hrun : inTransaction server none callback.run s with
    | ok a t => exact .inl ⟨a, t, rfl⟩
    | error e' t =>
      rw [hrun] at houtcome hevents
      have hmem : e ∈ since u t := hevents ▸ List.mem_append_right _ List.mem_cons_self
      -- after a failure no COMMIT succeeds, so it was one that the callback sent
      rw [since_trans hend houtcome.trace] at hmem
      rcases List.mem_append.1 hmem with hlate | hearly
      · exact absurd hcommit (houtcome.not_succeeds hlate k)
      · exact .inr ⟨e, hearly, hcommit⟩

/-- A session in which one server is known and nothing has happened. -/
def readySession : Session :=
  (onProfiles (ProfileBook.configure (.str "a") (.map [(.str "account", .str "x")])) {}).state

/-- The session that is ready for a transaction is grounded. -/
private theorem grounded_readySession : readySession.Grounded := by
  have hnames : readySession.contextNames = [] := rfl
  have hregistry : readySession.transactions.contexts = [] := rfl
  exact ⟨by simp [hnames], by simp [hregistry]⟩

/-- The transaction of this server is begun on the first context and its second cursor. -/
private theorem startTransaction_readySession : ∃ u,
    startTransaction (.str "a") none readySession = .ok ⟨0⟩ u ∧
      (u.context ⟨0⟩).cursor = some (.handle ⟨⟨0⟩, 1⟩) ∧
      u = (startTransaction (.str "a") none readySession).state := by
  have hvalue : (startTransaction (.str "a") none readySession).value? = some ⟨0⟩ := by
    decide +kernel
  exact ⟨_, Result.value?_eq_some_iff.1 hvalue, rfl, rfl⟩

/-- Whether the callback returns when it is run in a transaction of this server. -/
private def returns (callback : Callback Reply) : Bool :=
  (inTransaction (.str "a") none callback.run readySession).value?.isSome

/-- Whether a callback returns can be tested. -/
private theorem returns_iff {callback : Callback Reply} : returns callback = true ↔
    ∃ a t, inTransaction (.str "a") none callback.run readySession = .ok a t :=
  Result.isSome_value?_iff

/-- What happens once the transaction was begun in which the callback runs. -/
private def eventsOf (callback : Callback Reply) : List Event :=
  since (startTransaction (.str "a") none readySession).state
    (inTransaction (.str "a") none callback.run readySession).state

/-- A callback that handles a failure, and leaves its transaction alone otherwise. -/
def handlingCallback : Callback Reply :=
  .step (.fail (.driver "no")) fun _ =>
    .ofCommands [.query (.str "SELECT 1") none .rows { server := .str "a" }]

/-- A callback that handles a failing statement returns, and the transaction is committed. -/
theorem inTransaction_verdict_handling : ∃ u k,
    readySession.Grounded ∧ startTransaction (.str "a") none readySession = .ok ⟨0⟩ u ∧
    (∃ a t, inTransaction (.str "a") none handlingCallback.run readySession = .ok a t) ∧
    Committed k
      (since u (inTransaction (.str "a") none handlingCallback.run readySession).state) := by
  obtain ⟨u, hstart, hcursor, hu⟩ := startTransaction_readySession
  obtain ⟨k, hk, _, hcommitted, _⟩ :=
    inTransaction_verdict handlingCallback grounded_readySession hstart
  -- the callback is run, to see that it returns
  have hreturns := returns_iff.1 (show returns handlingCallback = true by decide +kernel)
  refine ⟨u, k, grounded_readySession, hstart, hreturns,
    (hcommitted hreturns).resolve_right ?_⟩
  cases hk.symm.trans hcursor
  rw [hu]
  decide +kernel

/-- A callback that rolls the transaction back in which it runs. -/
def rollbackCallback : Callback Reply := .ofCommands [.rollbackTransaction (.str "a")]

/-- A callback that fails once it has committed the transaction in which it runs. -/
def lateCallback : Callback Reply :=
  .ofCommands [.commitTransaction (.str "a"), .fail (.driver "no")]

/-- A callback that rolls its own transaction back returns although nothing was committed, and one
that commits it may fail afterwards. -/
theorem not_returns_iff_committed :
    (¬ ∀ (server : Value) (callback : Callback Reply) (s u : Session) (c : ContextId)
        (k : CursorId), s.Grounded → startTransaction server none s = .ok c u →
      (u.context c).cursor = some (.handle k) →
      (∃ a t, inTransaction server none callback.run s = .ok a t) →
      Committed k (since u (inTransaction server none callback.run s).state)) ∧
    ¬ ∀ (server : Value) (callback : Callback Reply) (s u : Session) (c : ContextId)
        (k : CursorId), s.Grounded → startTransaction server none s = .ok c u →
      (u.context c).cursor = some (.handle k) →
      Committed k (since u (inTransaction server none callback.run s).state) →
      ∃ a t, inTransaction server none callback.run s = .ok a t := by
  obtain ⟨u, hstart, hcursor, hu⟩ := startTransaction_readySession
  refine ⟨fun h => ?_, fun h => ?_⟩
  · have hreturns := returns_iff.1 (show returns rollbackCallback = true by decide +kernel)
    obtain ⟨later, e, earlier, hevents, hcommit, _⟩ :=
      h _ rollbackCallback readySession u ⟨0⟩ ⟨⟨0⟩, 1⟩ grounded_readySession hstart hcursor hreturns
    -- the callback rolls back and returns, so that nothing was committed
    have hnone : ∀ e ∈ eventsOf rollbackCallback, ¬ e.Succeeds ⟨⟨0⟩, 1⟩ .commit := by
      decide +kernel
    rw [eventsOf, ← hu, hevents] at hnone
    exact hnone e (List.mem_append_right _ List.mem_cons_self) hcommit
  -- the callback commits and then raises, so that the failure comes too late
  · have hcommit : ∃ e ∈ eventsOf lateCallback, e.Succeeds ⟨⟨0⟩, 1⟩ .commit := by decide +kernel
    have hnone : ¬ ∃ e ∈ eventsOf lateCallback, e.Sends ⟨⟨0⟩, 1⟩ .rollback := by decide +kernel
    obtain ⟨e, he, hcommit⟩ := hcommit
    have hcommitted := Committed.of_mem he hcommit hnone
    rw [eventsOf, ← hu] at hcommitted
    -- if the call returned, it would not have raised
    have hreturns := returns_iff.2
      (h _ lateCallback readySession u ⟨0⟩ ⟨⟨0⟩, 1⟩ grounded_readySession hstart hcursor hcommitted)
    exact absurd hreturns (show ¬ returns lateCallback = true by decide +kernel)

end Session

end Querysmith
