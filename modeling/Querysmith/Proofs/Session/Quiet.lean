import Querysmith.Connection.Access
import Querysmith.Proofs.Keeping
import Querysmith.Proofs.Session.Change
import Querysmith.Session.Naming

/-!
# Quiet actions

Actions that open and close no connection and change no context: looking up settings and
credentials, making cursors, sending statements, and fetching rows. All of them but sending
statements are calm as well. Each is shown to be so once, so that whatever survives such changes is
kept by all of them.

## Key results

- `IsQuiet.keeps`, `IsCalm.keeps`: what survives quiet or calm changes is kept by such actions
- `SurvivesLookups.keeps_ofServer`: building a connector keeps what survives look-ups
- `isQuiet_execute`, `isCalm_fetchAll` and the like: so is the use of a cursor
-/

namespace Querysmith

open Session EStateM

/-- Wherever the action stops, there was only a quiet change. -/
def IsQuiet {α : Type} (x : Act α) : Prop := ∀ s, Keeps (Quiet s) x

/-- Wherever the action stops, there was only a calm change. -/
def IsCalm {α : Type} (x : Act α) : Prop := ∀ s, Keeps (Calm s) x

variable {α β : Type}

/-- A quiet action leaves a session to which nothing was opened or closed. -/
theorem IsQuiet.state {x : Act α} (h : IsQuiet x) (s : Session) : Quiet s (x s).state :=
  (h s).state (Quiet.refl s)

/-- A calm action ends in a session that is reached calmly. -/
theorem IsCalm.state {x : Act α} (h : IsCalm x) (s : Session) : Calm s (x s).state :=
  (h s).state (Calm.refl s)

/-- An action is quiet when what it leaves says so. -/
theorem isQuiet_of_state {x : Act α} (h : ∀ s, Quiet s (x s).state) : IsQuiet x :=
  fun _ => keeps_of_state fun t hst => hst.trans (h t)

/-- An action is calm when what it leaves says so. -/
theorem isCalm_of_state {x : Act α} (h : ∀ s, Calm s (x s).state) : IsCalm x :=
  fun _ => keeps_of_state fun t hst => hst.trans (h t)

theorem IsCalm.isQuiet {x : Act α} (h : IsCalm x) : IsQuiet x :=
  isQuiet_of_state fun s => (h.state s).toQuiet

/-- A property that survives quiet changes is kept by quiet actions. -/
theorem IsQuiet.keeps {J : Session → Prop} (hJ : ∀ {s t}, Quiet s t → J s → J t) {x : Act α}
    (h : IsQuiet x) : Keeps J x :=
  keeps_of_state fun s hs => hJ (h.state s) hs

/-- A calm action keeps what survives calm. -/
theorem IsCalm.keeps {J : Session → Prop} (hJ : ∀ {s t}, Calm s t → J s → J t) {x : Act α}
    (h : IsCalm x) : Keeps J x :=
  keeps_of_state fun s hs => hJ (h.state s) hs

/-! ## Rules -/

theorem isCalm_pure (a : α) : IsCalm (pure a : Act α) := fun _ => keeps_pure a

theorem isCalm_throw (e : Error) : IsCalm (throw e : Act α) := fun _ => gives_throw e

/-- Looking at the session is calm. -/
theorem isCalm_get : IsCalm (get : Act Session) := fun _ => gives_get.keeps

/-- A value or a failure that is at hand is calm. -/
theorem isCalm_ofExcept (x : Except Error α) : IsCalm (ofExcept x : Act α) :=
  fun _ => keeps_ofExcept x

/-- Calm actions one after the other are calm. -/
theorem IsCalm.bind {x : Act α} {f : α → Act β} (hx : IsCalm x) (hf : ∀ a, IsCalm (f a)) :
    IsCalm (x >>= f) := fun s => Keeps.bind (hx s) fun a => hf a s

/-- Quiet actions one after the other are quiet. -/
theorem IsQuiet.bind {x : Act α} {f : α → Act β} (hx : IsQuiet x) (hf : ∀ a, IsQuiet (f a)) :
    IsQuiet (x >>= f) := fun s => Keeps.bind (hx s) fun a => hf a s

/-- An event that opens and closes nothing. -/
theorem isQuiet_emit {e : Event} (hopened : e.opened? = none) (hclosed : e.closed? = none) :
    IsQuiet (emit e) := by
  refine isQuiet_of_state fun s => ?_
  have hs := Advances.refl s
  exact ⟨⟨rfl, rfl, rfl, List.suffix_cons e s.trace, hs.links, hs.cursors⟩, rfl,
    List.filterMap_cons_none hopened, List.filterMap_cons_none hclosed⟩

/-- An event that opens and closes nothing and is no statement. -/
theorem isCalm_emit {e : Event} (hopened : e.opened? = none) (hclosed : e.closed? = none)
    (hstatement : e.isStatement = false) : IsCalm (emit e) :=
  isCalm_of_state fun s => ⟨(isQuiet_emit hopened hclosed).state s,
    List.filter_cons_of_neg (by simp [hstatement])⟩

/-- A message to the log is calm. -/
theorem isCalm_note (level : Level) (text : String) : IsCalm (note level text) :=
  isCalm_emit rfl rfl rfl

theorem isQuiet_note (level : Level) (text : String) : IsQuiet (note level text) :=
  (isCalm_note level text).isQuiet

/-- Profiles are no part of the connections. -/
theorem isCalm_onProfiles (act : EStateM Error ProfileBook α) : IsCalm (onProfiles act) := by
  refine isCalm_of_state fun s => ?_
  have hs := Advances.refl s
  rw [onProfiles]
  split
  · exact ⟨⟨⟨rfl, rfl, rfl, hs.trace, hs.links, hs.cursors⟩, rfl, rfl, rfl⟩, rfl⟩
  · exact ⟨⟨⟨rfl, rfl, rfl, hs.trace, hs.links, hs.cursors⟩, rfl, rfl, rfl⟩, rfl⟩

/-- Naming a result is calm. -/
theorem isCalm_keepResult (name : String) (id : CursorId) : IsCalm (keepResult name id) := by
  refine isCalm_of_state fun s => ?_
  have hs := Advances.refl s
  exact ⟨⟨⟨rfl, rfl, rfl, hs.trace, hs.links, hs.cursors⟩, rfl, rfl, rfl⟩, rfl⟩

/-- Naming a registry is calm. -/
theorem isCalm_keepRegistry (name : String) (r : Registry) : IsCalm (keepRegistry name r) := by
  refine isCalm_of_state fun s => ?_
  have hs := Advances.refl s
  exact ⟨⟨⟨rfl, rfl, rfl, hs.trace, hs.links, hs.cursors⟩, rfl, rfl, rfl⟩, rfl⟩

/-! ## Connectors -/

/-- The property survives look-ups of secrets, which are told to the trace only. -/
structure SurvivesLookups (J : Session → Prop) : Prop where
  keyring : ∀ {s} service user, J s → J { s with trace := .keyring service user :: s.trace }
  loadKey : ∀ {s} text passphrase, J s → J { s with trace := .loadKey text passphrase :: s.trace }

namespace SurvivesLookups

variable {J : Session → Prop}

/-- Asking the keyring is a look-up. -/
theorem keeps_fromKeyring (h : SurvivesLookups J) (server : Value) (settings : Entries) :
    Keeps J (Credential.fromKeyring server settings) := by
  simp only [Credential.fromKeyring]
  split
  · -- no keyring is asked after the failure
    exact Gives.bind (V := fun _ => False) (gives_throw _) fun _ hf => hf.elim
  · refine (keeps_modify fun _ => h.keyring _ _).bind fun _ => gives_get.bind fun s _ => ?_
    split
    · exact keeps_pure _
    · exact keeps_pure _

/-- The password is found by look-ups. -/
theorem keeps_findPassword (h : SurvivesLookups J) (server : Value) (settings : Entries) :
    Keeps J (Credential.findPassword server settings) := by
  rw [Credential.findPassword]
  split
  · exact (keeps_ofExcept _).bind fun _ => keeps_pure _
  · refine gives_get.bind fun s _ => (keeps_ofExcept _).bind fun secret => ?_
    split
    · exact keeps_pure _
    · split
      · exact (h.keeps_fromKeyring server settings).bind fun _ => keeps_pure _
      · exact keeps_pure _

/-- Loading a key is a look-up. -/
theorem keeps_loadKey (h : SurvivesLookups J) (path : Path) (passphrase : Option String) :
    Keeps J (Credential.loadKey path passphrase) := by
  rw [Credential.loadKey]
  refine gives_get.bind fun s _ => (keeps_ofExcept _).bind fun text => ?_
  split
  · exact gives_throw _
  · refine (keeps_modify fun _ => h.loadKey _ _).bind fun _ => ?_
    split
    · exact gives_throw _
    · exact keeps_pure _

/-- The key is found by look-ups. -/
theorem keeps_findKey (h : SurvivesLookups J) (settings : Entries) :
    Keeps J (Credential.findKey settings) := by
  rw [Credential.findKey]
  refine gives_get.bind fun s _ => (keeps_ofExcept _).bind fun path =>
    (keeps_ofExcept _).bind fun passphrase => ?_
  refine Gives.tryCatch ?_ fun e => gives_throw _
  exact (h.keeps_loadKey path passphrase).bind fun _ => keeps_pure _

/-- Building a connector looks settings and secrets up and does nothing else. -/
theorem keeps_ofServer (h : SurvivesLookups J) (server : Value) (overrides : Entries) :
    Keeps J (Connector.ofServer server overrides) := by
  rw [Connector.ofServer]
  refine gives_get.bind fun s _ => (keeps_ofExcept _).bind fun profile =>
    (keeps_ofExcept _).bind fun usesKey => ?_
  split
  · exact (h.keeps_findKey _).bind fun _ => keeps_pure _
  · exact (h.keeps_findPassword server _).bind fun _ => keeps_pure _

end SurvivesLookups

/-- Making a connector is calm. -/
theorem isCalm_ofServer (server : Value) (overrides : Entries) :
    IsCalm (Connector.ofServer server overrides) := fun _ =>
  SurvivesLookups.keeps_ofServer
    { keyring := fun service user h =>
        h.trans ((isCalm_emit (e := .keyring service user) rfl rfl rfl).state _)
      loadKey := fun text passphrase h =>
        h.trans ((isCalm_emit (e := .loadKey text passphrase) rfl rfl rfl).state _) }
    server overrides

/-! ## Cursors -/

/-- A connection that keeps its cursors, or gets more of them, is put in its place. -/
private theorem quiet_setLink {s : Session} {id : LinkId} {l : Link}
    (h : (s.link id).cursors.length ≤ l.cursors.length) : Quiet s (s.setLink id l) := by
  have hlength : (s.setLink id l).links.length = s.links.length := by simp [setLink]
  refine ⟨⟨rfl, rfl, rfl, List.suffix_rfl, Nat.le_of_eq hlength.symm, ?_⟩, rfl, rfl, rfl⟩
  intro other hother
  by_cases hindex : id.index = other.index
  · have hid : id = other := by cases id; cases other; cases hindex; rfl
    subst hid
    simpa [link, setLink, hother] using h
  · simp [link, setLink, hindex]

/-- Connections are no part of the trace. -/
private theorem calm_setLink {s : Session} {id : LinkId} {l : Link}
    (h : (s.link id).cursors.length ≤ l.cursors.length) : Calm s (s.setLink id l) :=
  ⟨quiet_setLink h, rfl⟩

/-- Making a cursor is calm. -/
theorem isCalm_makeCursor (id : LinkId) : IsCalm id.makeCursor := by
  refine isCalm_of_state fun s => ?_
  have hgrow : (s.link id).cursors.length ≤ (s.link id).addCursor.cursors.length := by
    simp [Link.addCursor]
  exact (calm_setLink hgrow).trans
    ((isCalm_emit rfl rfl rfl).state (s.setLink id (s.link id).addCursor))

/-- A new cursor comes behind those of its connection. -/
theorem makeCursor_eq (id : LinkId) (s : Session) :
    id.makeCursor s = .ok ⟨id, (s.link id).cursors.length⟩
      { s.setLink id (s.link id).addCursor with
        trace := .cursor ⟨id, (s.link id).cursors.length⟩ :: s.trace } := rfl

/-- The new cursor comes behind those that were there. -/
theorem makeCursor_outcome (id : LinkId) (s : Session) :
    (id.makeCursor s).Meets
      (fun k t => Calm s t ∧ k.link = id ∧ k.index = (s.link id).cursors.length ∧
        (id.index < s.links.length → k.index < (t.link id).cursors.length)) fun _ => False := by
  refine ⟨(isCalm_makeCursor id).state s, rfl, rfl, fun hid => ?_⟩
  show (s.link id).cursors.length < ((s.setLink id (s.link id).addCursor).link id).cursors.length
  simp [link, setLink, hid, Link.addCursor]

private theorem length_modifyCursor (l : Link) (index : Nat) (f : Cursor → Cursor) :
    (l.modifyCursor index f).cursors.length = l.cursors.length := by
  simp [Link.modifyCursor]

/-- A statement leaves as many cursors as there were. -/
private theorem length_send (l : Link) (index : Nat) (sql : Value) :
    (l.send index sql).1.cursors.length = l.cursors.length := by
  rw [Link.send]
  split
  · rfl
  · exact length_modifyCursor _ _ _

/-- Taking the next response is calm. -/
theorem isCalm_send (id : CursorId) (sql : Value) : IsCalm (id.send sql) := by
  refine isCalm_of_state fun s => ?_
  exact calm_setLink (Nat.le_of_eq (length_send _ _ _).symm)

/-- Raising a failure is calm. -/
theorem isCalm_raise (failure : Option String) : IsCalm (CursorId.raise failure) := by
  cases failure with
  | none => exact isCalm_pure ()
  | some reason => exact isCalm_throw _

/-- A statement is quiet, and is recorded. -/
theorem isQuiet_execute (id : CursorId) (sql : Value) (bindings : Option (List Value)) :
    IsQuiet (id.execute sql bindings) := by
  rw [CursorId.execute]
  exact (isCalm_send id sql).isQuiet.bind fun failure =>
    (isQuiet_emit rfl rfl).bind fun _ => (isCalm_raise failure).isQuiet

/-- A statement that is sent is recorded, with the reason if it fails. -/
theorem execute_outcome (id : CursorId) (sql : Value) (bindings : Option (List Value))
    (s : Session) :
    (id.execute sql bindings s).Meets
      (fun _ t => Quiet s t ∧ t.trace = .execute id sql bindings none :: s.trace)
      fun t => Quiet s t ∧
        ∃ reason, t.trace = .execute id sql bindings (some reason) :: s.trace := by
  have hquiet := (isQuiet_execute id sql bindings).state s
  -- the connection answers first, then the event is noted, and then a failure is raised
  have hread : id.execute sql bindings s =
      CursorId.raise ((s.link id.link).send id.index sql).2
        { s.setLink id.link ((s.link id.link).send id.index sql).1 with
          trace := .execute id sql bindings ((s.link id.link).send id.index sql).2 :: s.trace } :=
    rfl
  rw [hread] at hquiet ⊢
  cases hfailure : ((s.link id.link).send id.index sql).2 with
  | none =>
    rw [hfailure] at hquiet
    exact ⟨hquiet, rfl⟩
  | some reason =>
    rw [hfailure] at hquiet
    exact ⟨hquiet, reason, rfl⟩

/-- A statement for many rows is quiet. -/
theorem isQuiet_executeMany (id : CursorId) (sql : Value) (rows : List (List Value)) :
    IsQuiet (id.executeMany sql rows) := by
  rw [CursorId.executeMany]
  exact (isCalm_send id sql).isQuiet.bind fun failure =>
    (isQuiet_emit rfl rfl).bind fun _ => (isCalm_raise failure).isQuiet

/-- Taking rows off a result is calm. -/
theorem isCalm_setRest (id : CursorId) (rest : Option (List Row)) : IsCalm (id.setRest rest) := by
  refine isCalm_of_state fun s => ?_
  exact calm_setLink (Nat.le_of_eq (length_modifyCursor _ _ _).symm)

/-- Fetching a row is calm. -/
theorem isCalm_fetchOne (id : CursorId) : IsCalm id.fetchOne := by
  rw [CursorId.fetchOne]
  refine (isCalm_emit rfl rfl rfl).bind fun _ => isCalm_get.bind fun s => ?_
  split
  · exact (isCalm_setRest id _).bind fun _ => isCalm_pure _
  · exact isCalm_pure _

/-- Fetching all rows is calm. -/
theorem isCalm_fetchAll (id : CursorId) : IsCalm id.fetchAll := by
  rw [CursorId.fetchAll]
  refine (isCalm_emit rfl rfl rfl).bind fun _ => isCalm_get.bind fun s => ?_
  split
  · exact (isCalm_setRest id _).bind fun _ => isCalm_pure _
  · exact isCalm_pure _

/-- Fetching a frame is calm. -/
theorem isCalm_fetchFrame (id : CursorId) : IsCalm id.fetchFrame := by
  rw [CursorId.fetchFrame]
  refine (isCalm_emit rfl rfl rfl).bind fun _ => isCalm_get.bind fun s => ?_
  dsimp only
  split
  · exact isCalm_ofExcept _
  · exact isCalm_throw _

theorem isCalm_rowCount (id : CursorId) : IsCalm id.rowCount := by
  rw [CursorId.rowCount]
  exact isCalm_get.bind fun s => isCalm_pure _

theorem isCalm_lastRowId (id : CursorId) : IsCalm id.lastRowId := by
  rw [CursorId.lastRowId]
  exact isCalm_get.bind fun s => isCalm_pure _

theorem isCalm_allRows (id : CursorId) : IsCalm id.allRows := by
  rw [CursorId.allRows]
  exact (isCalm_fetchAll id).bind fun _ => isCalm_pure _

/-- Reading a result as a frame changes nothing. -/
theorem isCalm_toFrame (id : CursorId) (lowercase : Bool) : IsCalm (id.toFrame lowercase) := by
  -- the names of columns are changed or not, which is no matter of the session
  have hnames : ∀ frame renamed : Frame,
      IsCalm (if lowercase then return renamed else return frame : Act Frame) := by
    intro frame renamed
    split
    · exact isCalm_pure _
    · exact isCalm_pure _
  rw [CursorId.toFrame]
  refine isCalm_get.bind fun s => ?_
  dsimp only
  split
  · exact (isCalm_fetchFrame id).bind fun frame => hnames frame _
  · split
    · exact (isCalm_pure _).bind fun frame => hnames frame _
    · refine (isCalm_fetchAll id).bind fun _ => ?_
      exact (isCalm_ofExcept _).bind fun frame => hnames frame _

end Querysmith
