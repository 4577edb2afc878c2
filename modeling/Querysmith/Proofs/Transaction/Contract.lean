import Querysmith.Proofs.Session.Callback
import Querysmith.Proofs.Session.Routing
import Querysmith.Proofs.Transaction.Failure
import Querysmith.Proofs.Transaction.Standing

/-!
# What a transaction promises

A callback that leaves alone the transaction in which it runs gets what it was promised. When BEGIN
fails it does not run, and nothing is left behind. Otherwise its statements run on the context of
the transaction, which is committed when the callback returns and rolled back when it raises or
cannot be committed, and is over in any case.

## Main definitions

- `sendBegin`: the context for a transaction is got, and BEGIN is sent on it
- `Vacant`: the context that is given holds no transaction yet
- `Refused`: what a transaction leaves behind that was not begun
- `EndedBy`: the statements that have ended a transaction

## Key results

- `beginTransaction_stands`: a transaction that was begun stands
- `commitTransaction_of_stands`, `rollbackTransaction_of_stands`: how a transaction ends that stands
- `inTransaction_of_return`, `inTransaction_of_failure`: what follows when the callback has stopped
- `inTransaction_fulfils`: what comes of a callback in a transaction
-/

namespace Querysmith

open Session EStateM

namespace Session

variable {α : Type} {server : Value} {given : Option ContextId} {c : ContextId} {k : CursorId}
  {past : List (Control × Bool)} {s t u w : Session}

/-! ## Beginning -/

/-- The context for a transaction is got, and BEGIN is sent on it. -/
def sendBegin (server : Value) (given : Option ContextId) : Act (ContextId × CursorId) := do
  let context ← givenOrNew server given
  let cursor ← context.runText Control.begin.text
  return (context, cursor)

/-- A transaction is started when BEGIN succeeds. -/
theorem startTransaction_of_sendBegin (h : sendBegin server given s = .ok (c, k) u) :
    startTransaction server given s = .ok c { u with controls := (k, .begin) :: u.controls } := by
  obtain ⟨context, t, hcontext, hsent⟩ := bind_eq_ok_iff.1 h
  obtain ⟨cursor, v, hrun, hpair⟩ := bind_eq_ok_iff.1 hsent
  cases hpair
  have hcontrol : c.control .begin t = .ok () { u with controls := (k, .begin) :: u.controls } :=
    bind_of_ok hrun _
  rw [startTransaction, bind_of_ok hcontext]
  exact bind_of_ok (tryCatch_of_ok hcontrol _) _

/-- Where BEGIN fails, so does the transaction, for the same reason. -/
theorem startTransaction_of_sendBegin_error {e : Error}
    (h : sendBegin server given s = .error e u) :
    ∃ t, startTransaction server given s = .error e t ∧ (given ≠ none → t = u) := by
  rw [startTransaction]
  cases hcontext : givenOrNew server given s with
  | error e' t =>
    rw [sendBegin, bind_of_error hcontext] at h
    cases h
    exact ⟨u, bind_of_error hcontext _, fun _ => rfl⟩
  | ok c t =>
    rw [sendBegin, bind_of_ok hcontext] at h
    -- BEGIN is sent in both, and only the account of it is kept in one
    have hcontrol : c.control .begin t = .error e u := by
      cases hrun : c.runText Control.begin.text t with
      | ok cursor v =>
        rw [bind_of_ok hrun] at h
        cases h
      | error e' v =>
        rw [bind_of_error hrun] at h
        cases h
        exact bind_of_error hrun _
    rw [bind_of_ok hcontext]
    cases given with
    | some context =>
      -- a context of the caller is left as it is
      exact ⟨u, bind_of_error (tryCatch_of_error hcontrol _) _, fun _ => rfl⟩
    | none =>
      -- the context was made for the transaction, and closing it does not fail
      have hclose := close_outcome c u
      cases hrun : c.close u with
      | error e' v =>
        rw [hrun] at hclose
        exact hclose.elim
      | ok _ v =>
        refine ⟨v, bind_of_error ((tryCatch_of_error hcontrol _).trans ?_) _,
          fun hne => absurd rfl hne⟩
        exact bind_of_ok hrun _

/-- A transaction that was not begun has changed nothing in the registry. What it has opened for a
context of its own is closed, and no connection of a context of the caller was closed. -/
structure Refused (given : Option ContextId) (s t : Session) : Prop extends Undone given s t where
  spared : given ≠ none → closedLinks t.trace = closedLinks s.trace

/-- Statements close no connection. -/
private theorem rides_closedLinks (l : List LinkId) :
    Rides (fun s => closedLinks s.trace = l) fun _ => True where
  quiet := fun ht h => ht.closed.trans h
  opens := fun _ ht h => ht.closed.trans h
  draws := fun _ ht h => ht.closed.trans h

/-- A transaction is refused when BEGIN fails, whatever was to run in it. -/
theorem inTransaction_of_refused {e : Error} (h : sendBegin server given s = .error e u) :
    ∃ t, (∀ act : Act α, inTransaction server given act s = .error e t) ∧ Refused given s t := by
  obtain ⟨t, hstart, hsame⟩ := startTransaction_of_sendBegin_error h
  have hundone := startTransaction_undone server given s
  rw [hstart] at hundone
  refine ⟨t, fun act => ?_, hundone, fun hne => ?_⟩
  · rw [inTransaction, beginTransaction]
    exact bind_of_error (bind_of_error hstart _) _
  · obtain ⟨context, rfl⟩ := Option.ne_none_iff_exists'.1 hne
    -- a context that was given is not closed by a failing BEGIN
    have hkept : Keeps (fun t => closedLinks t.trace = closedLinks s.trace)
        (sendBegin server (some context)) :=
      (keeps_pure context).bind fun context =>
        ((rides_closedLinks _).keeps_run trivial _ _).bind fun _ => keeps_pure _
    have hclosed := hkept.state rfl
    rw [h] at hclosed
    rw [hsame hne]
    exact hclosed

/-- The context that is given, if one is, has been made and is on record for no server. -/
def Vacant (s : Session) (given : Option ContextId) : Prop :=
  ∀ c, given = some c → c.index < s.contexts.length ∧ ∀ key, s.transactions.get? key ≠ some c

/-- Before BEGIN is sent on a context. -/
private structure Ready (s : Session) (c : ContextId) (t : Session) : Prop where
  apart : t.Apart
  made : c.index < t.contexts.length
  sent : t.sent = s.sent
  transactions : t.transactions = s.transactions
  unregistered : ∀ key, s.transactions.get? key ≠ some c

/-- The context for a transaction is ready, whether it was given or is new. -/
private theorem givenOrNew_ready (hs : s.Sound) (hgiven : s.Vacant given) :
    (givenOrNew server given s).Meets (Ready s) fun _ => True := by
  cases given with
  | some context =>
    exact ⟨hs.toApart, (hgiven context rfl).1, rfl, rfl, (hgiven context rfl).2⟩
  | none =>
    refine (addServerContext_outcome server [] s).mono ?_ fun _ _ => trivial
    rintro id t ⟨rfl, rfl⟩
    have hnew : Context.IsNew { source := .server server [] } none none := ⟨rfl, nofun, nofun⟩
    refine ⟨hs.toApart.lends (Lends.nothing none s) hnew nofun rfl rfl, by simp, rfl, rfl,
      fun key hget => ?_⟩
    -- the contexts on record are there already
    exact absurd (hs.registered _ (Registry.mem_contexts hget)) (Nat.lt_irrefl _)

/-- After BEGIN has succeeded on a context. -/
private structure Started (s : Session) (c : ContextId) (k : CursorId) (t : Session) : Prop where
  owns : t.Owns c k
  sent : t.sent = .execute k (.str Control.begin.text) none none :: s.sent
  transactions : t.transactions = s.transactions
  unregistered : ∀ key, s.transactions.get? key ≠ some c

/-- Where BEGIN was sent, the transaction has started. -/
private theorem sendBegin_started (hs : s.Sound) (hgiven : s.Vacant given)
    (h : sendBegin server given s = .ok (c, k) u) : Started s c k u := by
  have hready : (givenOrNew server given s).Meets (Ready s) fun _ => True :=
    givenOrNew_ready hs hgiven
  obtain ⟨context, t, hcontext, hrest⟩ := bind_eq_ok_iff.1 h
  obtain ⟨cursor, v, hrun, hpair⟩ := bind_eq_ok_iff.1 hrest
  cases hpair
  rw [hcontext] at hready
  -- sending BEGIN leaves the registry as it is and the cursors apart
  have hkept : Keeps (fun v => v.Apart ∧ v.transactions = t.transactions)
      (c.runText Control.begin.text) :=
    (rides_apart.and (rides_transactions t.transactions)).keeps_run trivial _ _
  have houtcome := ((hkept t ⟨hready.apart, rfl⟩).and
    (runText_outcome hready.made Control.begin.text)).and (runText_sends c Control.begin.text t)
  rw [hrun] at houtcome
  obtain ⟨⟨⟨⟨happart, htransactions⟩, _⟩, hcursor, _⟩, hsent⟩ := houtcome
  exact ⟨happart.owned hcursor, by rw [hsent, hready.sent], htransactions.trans hready.transactions,
    hready.unregistered⟩

/-- Keeping account of BEGIN changes nothing else. -/
private theorem startTransaction_started (hs : s.Sound) (hgiven : s.Vacant given)
    (h : sendBegin server given s = .ok (c, k) u) :
    ∃ t, startTransaction server given s = .ok c t ∧ Started s c k t := by
  have hstarted := sendBegin_started hs hgiven h
  refine ⟨_, startTransaction_of_sendBegin h, ?_, hstarted.sent, hstarted.transactions,
    hstarted.unregistered⟩
  exact hstarted.owns.redraws (redraws_of_eq c rfl rfl) fun _ => rfl

/-- A transaction that was begun stands. -/
theorem beginTransaction_stands (hs : s.Sound) (hkey : server.key? ≠ none)
    (hnone : s.transactions.get? server = none) (hgiven : s.Vacant given)
    (h : sendBegin server given s = .ok (c, k) u) :
    ∃ v, beginTransaction server given s = .ok c v ∧
      Stands server c k ((.begin, true) :: s.controlsOn k) v := by
  obtain ⟨t, hstart, hstarted⟩ := startTransaction_started hs hgiven h
  have hsame := Value.sameKey_self hkey
  -- nothing is on record for the server, so nothing is given up
  have hrecord : recordTransaction server c t = .ok () (t.openTransaction server c) := by
    have hopen := openTransaction?_eq hkey t
    rw [hstarted.transactions, hnone] at hopen
    exact bind_of_ok hopen _
  -- the record is the only change to the registry
  have hregistry : ∀ key, (t.openTransaction server c).transactions.get? key =
      if server.sameKey key then some c else s.transactions.get? key := fun key => by
    rw [openTransaction, hstarted.transactions, Registry.get?_insert]
  -- BEGIN is the newest statement that the cursor has seen
  have hcontrols : t.controlsOn k = (.begin, true) :: s.controlsOn k := by
    rw [controlsOn_eq_sent, hstarted.sent, List.filterMap_cons_some
      (Event.control?_execute k .begin none none), ← controlsOn_eq_sent]
    rfl
  have hstands : Stands server c k ((.begin, true) :: s.controlsOn k)
      (t.openTransaction server c) := by
    refine ⟨?_, fun {key} hget => ?_, ?_, hcontrols⟩
    · rw [hregistry, if_pos hsame]
    · by_cases hserver : server.sameKey key
      · rwa [Value.sameKey_comm]
      · rw [hregistry, if_neg hserver] at hget
        exact absurd hget (hstarted.unregistered key)
    · exact hstarted.owns.redraws (redraws_of_eq c rfl rfl) fun _ => rfl
  refine ⟨_, ?_, hstands.calm ((isCalm_note .info
    ("Began transaction on server '" ++ server.text ++ "'")).state _)⟩
  rw [beginTransaction, bind_of_ok hstart, bind_of_ok hrecord]
  rfl

/-! ## Ending -/

/-- A statement to begin or end a transaction that was sent on the cursor of one that stands. -/
private theorem Stands.executed {word : Control} {failure : Option String}
    (h : Stands server c k past s) (ht : Quiet s t)
    (htrace : t.trace = .execute k (.str word.text) none failure :: s.trace) :
    Stands server c k ((word, failure.isNone) :: past) t where
  registered := by rw [ht.transactions, h.registered]
  only := by
    rw [ht.transactions]
    exact h.only
  owns := h.owns.redraws (ht.redraws c) fun _ => cursor_congr ht.contexts c
  -- the statement is the newest one on the trace
  controlsOn_eq := by
    rw [controlsOn, htrace, List.filterMap_cons_some (Event.control?_execute k word none failure),
      ← controlsOn, h.controlsOn_eq]

/-- A statement on the context of a transaction that stands is sent on its cursor. -/
private theorem Stands.runText_control (h : Stands server c k past s) (word : Control) :
    (c.runText word.text s).Meets
      (fun _ t => Stands server c k ((word, true) :: past) t ∧
        t.sent = .execute k (.str word.text) none none :: s.sent)
      fun t => ∃ reason, Stands server c k ((word, false) :: past) t ∧
        t.sent = .execute k (.str word.text) none (some reason) :: s.sent := by
  refine (runText_of_cursor h.owns.cursor word.text).mono ?_ ?_
  · rintro _ t ⟨_, ht, htrace⟩
    exact ⟨h.executed ht htrace, by rw [sent, htrace, List.filter_cons_of_pos rfl, ← sent]⟩
  · rintro t ⟨ht, reason, htrace⟩
    exact ⟨reason, h.executed ht htrace, by rw [sent, htrace, List.filter_cons_of_pos rfl, ← sent]⟩

/-- Keeping account of the statement changes nothing else. -/
private theorem Stands.control {cursor : CursorId} (h : Stands server c k past s) (word : Control)
    (hrun : c.runText word.text s = .ok cursor t) :
    ∃ u, c.control word s = .ok () u ∧ Stands server c k ((word, true) :: past) u ∧
      u.sent = .execute k (.str word.text) none none :: s.sent := by
  have hsent := h.runText_control word
  rw [hrun] at hsent
  exact ⟨_, bind_of_ok hrun _, hsent.1.of_registry rfl rfl rfl hsent.1.registered id, hsent.2⟩

/-- The transaction of the server is over and its context closed, and these statements and no others
were sent on the way, latest first. -/
structure EndedBy (server : Value) (c : ContextId) (statements : List Event) (s t : Session) :
    Prop where
  sent : t.sent = statements ++ s.sent
  unregistered : t.transactions.get? server = none
  closed : (t.context c).opened = none

/-- The statement that ended a transaction is the last one on its cursor. -/
theorem EndedBy.controlsOn_eq {word : Control} {bindings : Option (List Value)}
    {failure : Option String}
    (h : EndedBy server c [.execute k (.str word.text) bindings failure] s t) :
    t.controlsOn k = (word, failure.isNone) :: s.controlsOn k := by
  rw [controlsOn_eq_sent, h.sent, List.singleton_append,
    List.filterMap_cons_some (Event.control?_execute k word bindings failure), ← controlsOn_eq_sent]

private theorem EndedBy.calm {statements : List Event} (h : EndedBy server c statements s t)
    (hu : Calm t u) : EndedBy server c statements s u where
  sent := hu.sent.trans h.sent
  unregistered := by rw [hu.transactions, h.unregistered]
  closed := by rw [opened_congr hu.contexts, h.closed]

private theorem EndedBy.of_sent_eq {statements : List Event} (h : EndedBy server c statements t u)
    (ht : t.sent = s.sent) : EndedBy server c statements s u where
  sent := by rw [h.sent, ht]
  unregistered := h.unregistered
  closed := h.closed

/-- A transaction that was taken off the registry is over when its context is closed. -/
private theorem close_ended {statements : List Event} (hc : c.index < t.contexts.length)
    (hsent : t.sent = statements ++ s.sent) (hnone : t.transactions.get? server = none) :
    (c.close t).Meets (fun _ u => EndedBy server c statements s u) fun _ => False := by
  refine ((close_outcome c t).and (keeps_sent_close c t rfl)).mono ?_ fun _ hf => hf.1
  rintro _ u ⟨hu, hkept, _⟩
  -- closing leaves the registry as it is, and nothing open
  have hrest : u.transactions = t.transactions ∧ (u.context c).opened = none := by
    cases hopened : (t.context c).opened with
    | none =>
      rw [hopened] at hu
      subst hu
      exact ⟨rfl, hopened⟩
    | some o =>
      rw [hopened] at hu
      exact ⟨hu.transactions, by rw [context_of_set hu.contexts hc]; rfl⟩
  exact ⟨hkept.trans hsent, by rw [hrest.1, hnone], hrest.2⟩

/-- A transaction that stands is committed when COMMIT succeeds, and goes on standing when it
fails. -/
theorem commitTransaction_of_stands (h : Stands server c k past s) :
    match c.runText Control.commit.text s with
    | .ok _ _ => ∃ t, commitTransaction server s = .ok () t ∧
        EndedBy server c [.execute k (.str Control.commit.text) none none] s t
    | .error e t => commitTransaction server s = .error e t ∧
        ∃ reason, Stands server c k ((.commit, false) :: past) t ∧
          t.sent = .execute k (.str Control.commit.text) none (some reason) :: s.sent := by
  have hopen := openTransaction?_eq (Registry.key?_ne_none h.registered) s
  rw [h.registered] at hopen
  rw [commitTransaction, bind_of_ok hopen]
  cases hrun : c.runText Control.commit.text s with
  | error e t =>
    -- the entry stays on record when COMMIT fails, as nothing is done after it
    have hfails := h.runText_control .commit
    rw [hrun] at hfails
    exact ⟨bind_of_error (bind_of_error hrun _) _, hfails⟩
  | ok cursor t =>
    obtain ⟨u, hcontrol, hstands, hsent⟩ := h.control .commit hrun
    -- the context is closed last, which does not fail
    have hclose : (c.close (u.dropTransaction server)).Meets (fun _ v => EndedBy server c
        [.execute k (.str Control.commit.text) none none] s v) fun _ => False :=
      close_ended (lt_of_cursor hstands.owns.cursor) hsent (u.transactions.get?_erase_self server)
    cases hv : c.close (u.dropTransaction server) with
    | error e v =>
      rw [hv] at hclose
      exact hclose.elim
    | ok _ v =>
      rw [hv] at hclose
      refine ⟨_, ?_, hclose.calm ((isCalm_note .info
        ("Committed transaction on server '" ++ server.text ++ "'")).state v)⟩
      exact (bind_of_ok hcontrol _).trans (bind_of_ok hv _)

/-- A transaction that was taken off the registry is over when it is given up, whatever comes of its
ROLLBACK. -/
private theorem giveUp_ended (hcursor : (s.context c).cursor = some (.handle k))
    (hnone : s.transactions.get? server = none) :
    (c.giveUp s).Meets
      (fun _ t => ∃ failure,
        EndedBy server c [.execute k (.str Control.rollback.text) none failure] s t)
      fun t => ∃ failure,
        EndedBy server c [.execute k (.str Control.rollback.text) none failure] s t := by
  -- however ROLLBACK has ended, the context is closed then
  have hclose : ∀ {t failure} controls, Quiet s t →
      t.trace = .execute k (.str Control.rollback.text) none failure :: s.trace →
      (c.close { t with controls }).Meets (fun _ u => ∃ failure,
        EndedBy server c [.execute k (.str Control.rollback.text) none failure] s u)
        fun _ => False := by
    intro t failure controls ht htrace
    have hmade : c.index < t.contexts.length := ht.contexts ▸ lt_of_cursor hcursor
    have hsent : t.sent = .execute k (.str Control.rollback.text) none failure :: s.sent := by
      rw [sent, htrace, List.filter_cons_of_pos rfl, ← sent]
    have hregistry : t.transactions.get? server = none := by rw [ht.transactions, hnone]
    have hended : (c.close { t with controls }).Meets (fun _ u => EndedBy server c
        [.execute k (.str Control.rollback.text) none failure] s u) fun _ => False :=
      close_ended hmade hsent hregistry
    exact hended.mono (fun _ u hu => ⟨failure, hu⟩) fun _ hf => hf
  -- what is known between ROLLBACK and the closing of the context, for either outcome
  refine meets_tryFinally (P := fun _ u => ∃ t controls, Quiet s t ∧
    t.trace = .execute k (.str Control.rollback.text) none none :: s.trace ∧
      u = { t with controls })
    (E := fun t => Quiet s t ∧ ∃ reason,
      t.trace = .execute k (.str Control.rollback.text) none (some reason) :: s.trace) ?_ ?_ ?_
  · refine meets_bind (runText_of_cursor hcursor Control.rollback.text) ?_
    rintro cursor t ⟨_, ht, htrace⟩
    exact ⟨t, _, ht, htrace, rfl⟩
  · rintro _ _ ⟨t, controls, ht, htrace, rfl⟩
    exact (hclose controls ht htrace).mono_error fun _ hf => hf.elim
  · rintro t ⟨ht, reason, htrace⟩
    exact (hclose t.controls ht htrace).mono_error fun _ hf => hf.elim

/-- A transaction that stands is over after a rollback, whatever comes of its ROLLBACK. -/
theorem rollbackTransaction_of_stands (h : Stands server c k past s) :
    (rollbackTransaction server s).Meets
      (fun _ t => ∃ failure,
        EndedBy server c [.execute k (.str Control.rollback.text) none failure] s t)
      fun t => ∃ failure,
        EndedBy server c [.execute k (.str Control.rollback.text) none failure] s t := by
  rw [rollbackTransaction]
  refine meets_bind ((takeTransaction_outcome server s).mono_error ?_) ?_
  -- the server has a transaction, so it can be a key
  · rintro t ⟨_, e, hkey⟩
    exact absurd (Value.key?_of_asKey_error hkey) (Registry.key?_ne_none h.registered)
  rintro context t ⟨rfl, rfl⟩
  rw [h.registered]
  -- the entry is taken out first, then ROLLBACK is sent and the context closed
  have hgiveUp : (c.giveUp (s.dropTransaction server)).Meets _ _ :=
    giveUp_ended h.owns.cursor (s.transactions.get?_erase_self server)
  have hsame : (s.dropTransaction server).sent = s.sent := rfl
  refine meets_bind (hgiveUp.mono_error ?_) ?_
  · rintro t ⟨failure, ht⟩
    exact ⟨failure, ht.of_sent_eq hsame⟩
  · rintro _ t ⟨failure, ht⟩
    exact ⟨failure, (ht.of_sent_eq hsame).calm ((isCalm_note _ _).state t)⟩

/-- An action that fails in a transaction that stands then, or that cannot be committed, is followed
by one ROLLBACK, and its failure is the cause of the one that is reported. -/
theorem inTransaction_of_failure {act : Act α} {v : Session} {e : Error}
    (hbegin : beginTransaction server given s = .ok c v)
    (hfails : (do
      let result ← act
      commitTransaction server
      pure result : Act α) v = .error e w) (h : Stands server c k past w) :
    ∃ t failure, inTransaction server given act s = .error (.transactionFailed server e) t ∧
      t.controlsOn k = (.rollback, failure.isNone) :: past ∧
      EndedBy server c [.execute k (.str Control.rollback.text) none failure] w t := by
  -- the warning comes first, and the transaction stands as before
  have hwarned := (isCalm_note .warning
    ("Transaction on server '" ++ server.text ++ "' failed: " ++ e.message)).state w
  have hrollback := rollbackTransaction_of_stands (h.calm hwarned)
  rw [inTransaction, bind_of_ok hbegin]
  cases hrun : rollbackTransaction server _ with
  | ok _ t =>
    rw [hrun] at hrollback
    obtain ⟨failure, ht⟩ := hrollback
    have hended := ht.of_sent_eq hwarned.sent
    refine ⟨t, failure, (tryCatch_of_error hfails _).trans ?_, ?_, hended⟩
    · exact bind_of_ok (tryCatch_of_ok hrun _) _
    · rw [hended.controlsOn_eq, h.controlsOn_eq]
  | error e' t =>
    rw [hrun] at hrollback
    obtain ⟨failure, ht⟩ := hrollback
    -- the failure of ROLLBACK is logged, and that is all that comes of it
    have hended := (ht.of_sent_eq hwarned.sent).calm
      ((isCalm_note .error ("Rollback on server '" ++ server.text ++ "' failed")).state t)
    refine ⟨_, failure, (tryCatch_of_error hfails _).trans ?_, ?_, hended⟩
    · exact bind_of_ok ((tryCatch_of_error hrun _).trans rfl) _
    · rw [hended.controlsOn_eq, h.controlsOn_eq]

/-- An action that returns in a transaction that stands then is committed, or COMMIT fails and the
transaction is rolled back. -/
theorem inTransaction_of_return {act : Act α} {v : Session} {a : α}
    (hbegin : beginTransaction server given s = .ok c v) (hrun : act v = .ok a w)
    (h : Stands server c k past w) :
    match c.runText Control.commit.text w with
    | .ok _ _ => ∃ t, inTransaction server given act s = .ok a t ∧
        t.controlsOn k = (.commit, true) :: past ∧
        EndedBy server c [.execute k (.str Control.commit.text) none none] w t
    | .error e _ => ∃ t reason failure,
        inTransaction server given act s = .error (.transactionFailed server e) t ∧
        t.controlsOn k = (.rollback, failure.isNone) :: (.commit, false) :: past ∧
        EndedBy server c [.execute k (.str Control.rollback.text) none failure,
          .execute k (.str Control.commit.text) none (some reason)] w t := by
  have hcommit := commitTransaction_of_stands h
  cases hcommitRun : c.runText Control.commit.text w with
  | ok cursor x =>
    rw [hcommitRun] at hcommit
    obtain ⟨t, ht, hended⟩ := hcommit
    refine ⟨t, ?_, ?_, hended⟩
    -- nothing has failed, so the call returns what the action did
    · rw [inTransaction, bind_of_ok hbegin]
      exact tryCatch_of_ok ((bind_of_ok hrun _).trans (bind_of_ok ht _)) _
    · rw [hended.controlsOn_eq, h.controlsOn_eq]
      rfl
  | error e x =>
    rw [hcommitRun] at hcommit
    -- what COMMIT leaves behind is what a failing action would
    obtain ⟨hfails, reason, hstands, hsent⟩ := hcommit
    obtain ⟨t, failure, ht, hcontrols, hended⟩ := inTransaction_of_failure hbegin
      ((bind_of_ok hrun _).trans (bind_of_error hfails _)) hstands
    refine ⟨t, reason, failure, ht, hcontrols, ?_, hended.unregistered, hended.closed⟩
    rw [hended.sent, hsent]
    rfl

/-! ## Callbacks -/

/-- What comes of a callback in a transaction that leaves the transaction alone, on a server that
can be looked up, as every text can, and has no open transaction. When BEGIN fails, that is the
failure that is reported, whatever was to run. Otherwise the callback's statements on the server run
on the context of the transaction. It is committed when the callback returns. When the callback
raises or COMMIT fails it is rolled back, and that failure is the cause of the one that is reported,
whatever comes of ROLLBACK. -/
theorem inTransaction_fulfils (callback : Callback α) (hs : s.Sound) (hkey : server.key? ≠ none)
    (hnone : s.transactions.get? server = none) (hgiven : s.Vacant given)
    (hspares : ∀ c v, beginTransaction server given s = .ok c v →
      ∀ command t, callback.Reaches v command t → command.Obeys (sparing server c) t) :
    match sendBegin server given s with
    | .error e _ =>
      ∃ t, (∀ act : Act α, inTransaction server given act s = .error e t) ∧ Refused given s t
    | .ok (c, k) _ => ∃ v, beginTransaction server given s = .ok c v ∧
        (∀ command t, callback.Reaches v command t → command.RunsOn server c k t) ∧
        match callback.run v with
        | .error e w => ∃ t failure,
            inTransaction server given callback.run s = .error (.transactionFailed server e) t ∧
            t.controlsOn k = (.rollback, failure.isNone) :: (.begin, true) :: s.controlsOn k ∧
            EndedBy server c [.execute k (.str "ROLLBACK") none failure] w t
        | .ok a w =>
          match c.runText "COMMIT" w with
          | .ok _ _ => ∃ t, inTransaction server given callback.run s = .ok a t ∧
              t.controlsOn k = (.commit, true) :: (.begin, true) :: s.controlsOn k ∧
              EndedBy server c [.execute k (.str "COMMIT") none none] w t
          | .error e _ => ∃ t reason failure,
              inTransaction server given callback.run s = .error (.transactionFailed server e) t ∧
              t.controlsOn k = (.rollback, failure.isNone) :: (.commit, false) :: (.begin, true) ::
                s.controlsOn k ∧
              EndedBy server c [.execute k (.str "ROLLBACK") none failure,
                .execute k (.str "COMMIT") none (some reason)] w t := by
  cases hsend : sendBegin server given s with
  | error e u => exact inTransaction_of_refused hsend
  | ok pair u =>
    obtain ⟨c, k⟩ := pair
    obtain ⟨v, hbegin, hstands⟩ := beginTransaction_stands hs hkey hnone hgiven hsend
    have hobeys := fun {command t} => hspares c v hbegin command t
    have hfits :
        Fits (Stands server c k ((.begin, true) :: s.controlsOn k)) (fun _ => (· ≠ c)) [] v :=
      ⟨hstands, nofun⟩
    -- the transaction stands wherever the callback comes to, and where it has stopped
    have hcallback := carried_stands.meets_callback callback hobeys hfits
    refine ⟨v, hbegin, fun command t hreach => ?_, ?_⟩
    · have ht := carried_stands.holds_of_callback hreach hobeys hfits
      exact runsOn_of_registered ht.registered ht.owns.cursor command
    -- how the transaction ends depends on how the callback does
    · cases hrun : callback.run v with
      | error e w =>
        rw [hrun] at hcallback
        exact inTransaction_of_failure hbegin (bind_of_error hrun _) hcallback.holds
      | ok a w =>
        rw [hrun] at hcallback
        exact inTransaction_of_return hbegin hrun hcallback.holds

/-- A session in which two servers are known. The first connection refuses to commit and to roll
back. -/
def troubledSession : Session :=
  ((do
    onProfiles (ProfileBook.configure (.str "a") (.map [(.str "account", .str "x")]))
    onProfiles (ProfileBook.configure (.str "b") (.map [(.str "account", .str "y")])) : Act Unit)
    { supply := [{ failures := [(.str "COMMIT", "busy"), (.str "ROLLBACK", "lost")] }] }).state

/-- A statement on one server, and then, whatever came of it, one in a transaction on another
server. -/
def twoServers : Callback Reply :=
  .step (.query (.str "SELECT 1") none .rows { server := .str "a" }) fun _ =>
    .transaction
      (.step (.query (.str "SELECT 2") none .rows { server := .str "b" }) fun _ => .done ())
      { server := .str "b" } fun _ => .done .nothing

/-- They leave the transaction on the first server alone. -/
private theorem twoServers_obeys {v t : Session} {command : Command} {c : ContextId}
    (h : twoServers.Reaches v command t) : command.Obeys (sparing (.str "a") c) t := by
  have hplain : (Value.str "SELECT 1").IsPlain := by
    intro word
    cases word <;> simp [Control.text]
  have hother : (Value.str "b").sameKey (.str "a") = false := by decide
  have hfree : ∀ server t, Target.Obeys (sparing (.str "a") c) t { server } := by
    intro server t ref href
    cases href
  -- there are three commands that the run can come to
  cases h with
  | here h =>
    cases h with
    | head => exact ⟨hfree _ _, fun _ _ => hplain⟩
    | tail _ h => cases h
  | after h =>
    cases h with
    | begins => exact ⟨hfree _ _, hother⟩
    | inside _ _ h =>
      cases h with
      | here h =>
        cases h with
        | head => exact ⟨hfree _ _, fun _ heq => absurd heq (by simp [hother])⟩
        | tail _ h => cases h
      | after h => cases h
    | afterwards h => cases h

/-- The transaction on the first server has begun. -/
private def troubledStart : Session := (beginTransaction (.str "a") none troubledSession).state

/-- A transaction in which the statements succeed and COMMIT and ROLLBACK fail. -/
theorem inTransaction_fulfils_troubled : ∃ v w t e reason failure,
    beginTransaction (.str "a") none troubledSession = .ok ⟨0⟩ v ∧
    (∀ command t, twoServers.Reaches v command t → command.RunsOn (.str "a") ⟨0⟩ ⟨⟨0⟩, 1⟩ t) ∧
    (∃ reply, twoServers.run v = .ok reply w) ∧
    inTransaction (.str "a") none twoServers.run troubledSession =
      .error (.transactionFailed (.str "a") e) t ∧
    t.controlsOn ⟨⟨0⟩, 1⟩ = [(.rollback, failure.isNone), (.commit, false), (.begin, true)] ∧
    EndedBy (.str "a") ⟨0⟩ [.execute ⟨⟨0⟩, 1⟩ (.str "ROLLBACK") none failure,
      .execute ⟨⟨0⟩, 1⟩ (.str "COMMIT") none (some reason)] w t := by
  have hsound : troubledSession.Sound := sound_of_contexts_eq_nil rfl rfl rfl
  have hnone : troubledSession.transactions.get? (.str "a") = none := rfl
  have hfulfils := @inTransaction_fulfils Reply (.str "a") none troubledSession twoServers hsound
    (by decide) hnone nofun fun _ _ _ _ _ h => twoServers_obeys h
  -- BEGIN is sent, so the theorem describes the run from here on
  have hsend : (sendBegin (.str "a") none troubledSession).value? = some (⟨0⟩, ⟨⟨0⟩, 1⟩) := by
    decide +kernel
  rw [Result.value?_eq_some_iff.1 hsend] at hfulfils
  obtain ⟨v, hbegin, hruns, hrest⟩ := hfulfils
  obtain rfl : v = troubledStart := by
    rw [troubledStart, hbegin]
    rfl
  -- the callback returns, and so it is COMMIT that decides
  have hreturns : (twoServers.run troubledStart).value?.isSome = true := by decide +kernel
  obtain ⟨reply, w, hrun⟩ := Result.isSome_value?_iff.1 hreturns
  have hw : (twoServers.run troubledStart).state = w := by
    rw [hrun]
    rfl
  have hcommit : (ContextId.runText ⟨0⟩ "COMMIT" (twoServers.run troubledStart).state).value? =
      none := by decide +kernel
  obtain ⟨e, x, hcommit⟩ := Result.value?_eq_none_iff.1 hcommit
  rw [hw] at hcommit
  simp only [hrun, hcommit] at hrest
  obtain ⟨t, reason, failure, ht, hcontrols, hended⟩ := hrest
  have hfirst : troubledSession.controlsOn ⟨⟨0⟩, 1⟩ = [] := rfl
  rw [hfirst] at hcontrols
  exact ⟨_, _, t, e, reason, failure, hbegin, hruns, ⟨reply, hrun⟩, ht, hcontrols, hended⟩

end Session

end Querysmith
