import Querysmith.Connection.Access
import Querysmith.Proofs.Outcome

/-!
# Actions that do not look at contexts

Much of what a session does has nothing to do with contexts: it neither depends on them nor changes
any. Among it are the driver's own actions, the making of connectors with all the look-ups of
credentials, and statements on cursors that are at hand.

- `isApart_ofServer`, `isApart_openLink`: how connections for a server come about
- `isApart_execute`: statements
-/

namespace EStateM

variable {ε σ τ α : Type}

/-- The outcome with another state. -/
def Result.mapState (f : σ → τ) : Result ε σ α → Result ε τ α
  | .ok a s => .ok a (f s)
  | .error e s => .error e (f s)

end EStateM

namespace Querysmith

open EStateM Session

variable {α β : Type}

/-- An action does the same whatever the contexts are, and leaves them as they are. -/
def IsApart (act : Act α) : Prop :=
  ∀ s cs, act { s with contexts := cs } = (act s).mapState fun t => { t with contexts := cs }

theorem isApart_pure (a : α) : IsApart (pure a) := fun _ _ => rfl

theorem isApart_throw (e : Error) : IsApart (throw e : Act α) := fun _ _ => rfl

theorem isApart_ofExcept (x : Except Error α) : IsApart (ofExcept x) := by
  cases x with
  | ok a => exact isApart_pure a
  | error e => exact isApart_throw e

theorem isApart_emit (e : Event) : IsApart (emit e) := fun _ _ => rfl

/-- Of two actions apart from contexts the one after the other is so too. -/
theorem IsApart.bind {x : Act α} {f : α → Act β} (hx : IsApart x) (hf : ∀ a, IsApart (f a)) :
    IsApart (x >>= f) := by
  intro s cs
  show EStateM.bind x f _ = (EStateM.bind x f s).mapState _
  simp only [EStateM.bind, hx s cs]
  cases x s with
  | ok a t => exact hf a t cs
  | error e t => rfl

/-- An action may read whatever does not depend on the contexts. -/
theorem isApart_get_bind {f : Session → Act α} (hf : ∀ s, IsApart (f s))
    (hsame : ∀ s cs, f { s with contexts := cs } = f s) : IsApart (get >>= f) := by
  intro s cs
  rw [get_bind, get_bind, hsame s cs]
  exact hf s s cs

/-- An action that handles the failures of another is apart from contexts where both are. -/
theorem IsApart.tryCatch {x : Act α} {handle : Error → Act α} (hx : IsApart x)
    (hhandle : ∀ e, IsApart (handle e)) : IsApart (tryCatchThe Error x handle) := by
  intro s cs
  cases h : x s with
  | ok a t =>
    rw [tryCatch_of_ok h, tryCatch_of_ok ((hx s cs).trans (by rw [h]; rfl))]
    rfl
  | error e t =>
    rw [tryCatch_of_error h, tryCatch_of_error ((hx s cs).trans (by rw [h]; rfl))]
    exact hhandle e t cs

/-- Opening a connection does not look at contexts. -/
theorem isApart_connect (settings : Settings) : IsApart (LinkId.connect settings) := by
  intro s cs
  unfold LinkId.connect
  rw [get_bind, get_bind]
  show EStateM.bind (set _) _ _ = (EStateM.bind (set _) _ _).mapState _
  cases (s.supply.head?.getD {}).refusal <;> rfl

/-- Making a cursor does not look at contexts. -/
theorem isApart_makeCursor (id : LinkId) : IsApart id.makeCursor := fun _ _ => rfl

/-- A statement goes to a cursor, whatever context that belongs to. -/
theorem isApart_execute (id : CursorId) (sql : Value) (values : Option (List Value)) :
    IsApart (id.execute sql values) := by
  have hsend : IsApart (id.send sql) := fun _ _ => rfl
  refine hsend.bind fun failure => (isApart_emit _).bind fun _ => ?_
  cases failure with
  | none => exact isApart_pure _
  | some reason => exact isApart_throw _

namespace Credential

/-- The keyring is asked without a look at contexts. -/
theorem isApart_fromKeyring (server : Value) (settings : Entries) :
    IsApart (fromKeyring server settings) := by
  unfold fromKeyring
  dsimp only
  split
  · exact isApart_throw _
  · refine (isApart_emit _).bind fun _ => isApart_get_bind (fun s => ?_) fun _ _ => rfl
    split <;> exact isApart_pure _

/-- The password is found without a look at contexts. -/
theorem isApart_findPassword (server : Value) (settings : Entries) :
    IsApart (findPassword server settings) := by
  unfold findPassword
  split
  · exact (isApart_ofExcept _).bind fun _ => isApart_pure _
  · refine isApart_get_bind (fun s => (isApart_ofExcept _).bind fun found => ?_) fun _ _ => rfl
    -- the keyring is asked only where the profile says so
    cases found with
    | some secret => exact isApart_pure _
    | none =>
      show IsApart (if _ then _ else _)
      split
      · exact (isApart_fromKeyring server settings).bind fun _ => isApart_pure _
      · exact isApart_pure _

/-- The key is loaded without a look at contexts. -/
theorem isApart_loadKey (path : Path) (passphrase : Option String) :
    IsApart (loadKey path passphrase) := by
  unfold loadKey
  refine isApart_get_bind (fun s => (isApart_ofExcept _).bind fun found => ?_) fun _ _ => rfl
  cases found with
  | none => exact isApart_throw _
  | some text =>
    refine (isApart_emit _).bind fun _ => ?_
    split
    · exact isApart_throw _
    · exact isApart_pure _

/-- The file of the key is found without a look at contexts. -/
theorem isApart_findKey (settings : Entries) : IsApart (findKey settings) := by
  unfold findKey
  refine isApart_get_bind (fun s => ?_) fun _ _ => rfl
  refine (isApart_ofExcept _).bind fun path => (isApart_ofExcept _).bind fun passphrase => ?_
  exact IsApart.tryCatch ((isApart_loadKey path passphrase).bind fun _ => isApart_pure _)
    fun _ => isApart_throw _

end Credential

/-- Making a connector does not look at contexts. -/
theorem isApart_ofServer (server : Value) (overrides : Entries) :
    IsApart (Connector.ofServer server overrides) := by
  unfold Connector.ofServer
  refine isApart_get_bind (fun s => ?_) fun _ _ => rfl
  refine (isApart_ofExcept _).bind fun profile => (isApart_ofExcept _).bind fun asksForKey => ?_
  cases asksForKey with
  | true => exact (Credential.isApart_findKey _).bind fun _ => isApart_pure _
  | false => exact (Credential.isApart_findPassword server _).bind fun _ => isApart_pure _

/-- Opening a connection with a connector does not look at contexts. -/
theorem isApart_openLink (c : Connector) : IsApart c.openLink := by
  unfold Connector.openLink
  dsimp only
  split
  · exact isApart_throw _
  · exact (isApart_connect _).bind fun link =>
      (isApart_makeCursor link).bind fun _ => isApart_pure _

end Querysmith
