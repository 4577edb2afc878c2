import Querysmith.Proofs.Connection.Settings
import Querysmith.Proofs.Keeping

/-!
# Which password is forwarded

Without key pair authentication a connector has the password that its settings resolve to: the one
among them, else the one in the environment variable that they name, else the one in the keyring.
Which of them counts depends on whether an entry is there, is empty, or counts as true.

## Main definitions

- `resolved`: the password that settings resolve to
- `Unresolvable`: when settings resolve to none because they cannot be used

## Key results

- `findPassword_meets`: how the password is found
- `Connector.parameters_with_password`: what the parameters of a connector are
-/

namespace Querysmith

open EStateM

namespace Password

variable (env : Environment) (server : Value) (look : Value → Option Value)

/-- The password in the environment variable that `password_env` names. -/
def inVariable : Option String :=
  match look (.str "password_env") with
  | some (.str name) => if name = "" then none else env.nonEmptyVariable name
  | _ => none

/-- Whether the keyring is asked. -/
def asksKeyring : Bool := ((look (.str "use_keyring")).getD .null).isTrue

/-- The user that the keyring is asked for. -/
def keyringUser : Value := (look (.str "keyring_username")).getD ((look (.str "user")).getD .null)

/-- The password in the keyring. -/
def inKeyring : Option String :=
  let service := (look (.str "keyring_service")).getD (.str ("sqlfluent." ++ server.text))
  if asksKeyring look then (env.password? service (keyringUser look)).filter fun s => s ≠ ""
  else none

/-- The password that settings resolve to: the one among them, else the one in the environment,
else the one in the keyring. -/
def resolved : Option String :=
  ((look (.str "password")).map Value.text).or
    ((inVariable env look).or (inKeyring env server look))

/-- The settings name no environment variable where they should. -/
def Misnamed : Prop :=
  ∃ v, look (.str "password_env") = some v ∧ v.isTrue = true ∧ ∀ name, v ≠ .str name

/-- What keeps a password from being looked for to the end. -/
inductive Unresolvable : Prop where
  /-- The password among the settings holds an integer that is too long to be written. -/
  | unwritable {v : Value} : look (.str "password") = some v → v.holdsLongInteger = true →
      Unresolvable
  | misnamed : look (.str "password") = none → Misnamed look → Unresolvable
  /-- The keyring would be asked for nobody. -/
  | nobody : look (.str "password") = none → inVariable env look = none →
      asksKeyring look = true → (keyringUser look).isTrue = false → Unresolvable

end Password

open Password

namespace Credential

/-- The credential that a password makes. -/
def ofPassword : Option String → Credential
  | none => .absent
  | some text => .password text

variable {server : Value} {settings : Entries} {s : Session}

/-- No variable has a name that is no text. -/
theorem fromVariable_of_misnamed (env : Environment) (h : Misnamed settings.get?) :
    ∃ e, fromVariable env (settings.setting "password_env") = .error e := by
  obtain ⟨v, hv, htrue, hname⟩ := h
  have hsetting : settings.setting "password_env" = v := by
    rw [Entries.setting, Entries.setting?, hv]
    rfl
  rw [hsetting]
  unfold fromVariable
  rw [if_pos htrue]
  split
  · next name => exact absurd rfl (hname name)
  · exact ⟨_, rfl⟩

/-- With a proper name, or none, the variable is looked up. -/
theorem fromVariable_of_not_misnamed (env : Environment) (h : ¬ Misnamed settings.get?) :
    fromVariable env (settings.setting "password_env") = .ok (inVariable env settings.get?) := by
  rw [Entries.setting, Entries.setting?]
  unfold fromVariable inVariable
  -- no entry, an entry that names a variable, or one that counts as none
  cases hv : settings.get? (.str "password_env") with
  | none => rfl
  | some v =>
    by_cases htrue : v.isTrue = true
    · obtain ⟨name, rfl⟩ : ∃ name, v = .str name := by
        by_contra hname
        exact h ⟨v, hv, htrue, fun name he => hname ⟨name, he⟩⟩
      have hname : name ≠ "" := by simpa [Value.isTrue] using htrue
      simp [htrue, hname]
    · -- what does not count as true names no variable
      cases v with
      | str name =>
        have hname : name = "" := by simpa [Value.isTrue] using htrue
        simp [hname, Value.isTrue]
      | _ => simp [htrue]

/-- The keyring gives the password of a user, and has to be asked for one. -/
theorem fromKeyring_meets (h : asksKeyring settings.get? = true) :
    (fromKeyring server settings s).Meets
      (fun credential _ => credential = ofPassword (inKeyring s.environment server settings.get?) ∧
        (keyringUser settings.get?).isTrue = true)
      fun _ => (keyringUser settings.get?).isTrue = false := by
  have huser : (settings.setting? "keyring_username").getD (settings.setting "user") =
      keyringUser settings.get? := rfl
  unfold fromKeyring inKeyring
  rw [if_pos h, huser]
  cases hasked : (keyringUser settings.get?).isTrue with
  | false => exact rfl
  | true =>
    -- asking is noted first, in the same environment
    refine meets_bind (P := fun _ (t : Session) => t.environment = s.environment) ?_ ?_
    · exact rfl
    intro _ t ht
    refine meets_bind (P := fun (u : Session) _ => u.environment = s.environment) ?_ ?_
    · exact ht
    intro u _ hu
    rw [← hu]
    -- an empty secret counts as none
    cases hfound : (u.environment.password? ((settings.setting? "keyring_service").getD
        (.str ("sqlfluent." ++ server.text))) (keyringUser settings.get?)).filter
          fun s => s ≠ "" with
    | none => exact ⟨congrArg ofPassword hfound.symm, rfl⟩
    | some secret => exact ⟨congrArg ofPassword hfound.symm, rfl⟩

/-- A password among the settings is taken out of them. -/
theorem findPassword_of_inline {v : Value} (h : settings.get? (.str "password") = some v) :
    findPassword server settings s = if v.holdsLongInteger then .error .integerTooLong s
      else .ok (.password v.text, settings.erase (.str "password")) s := by
  have hsetting : settings.setting? "password" = some v := h
  unfold findPassword
  rw [hsetting]
  simp only [Value.writtenText]
  split
  · rfl
  · rfl

/-- Without one it is looked for elsewhere. -/
theorem findPassword_of_none (h : settings.get? (.str "password") = none) :
    (findPassword server settings s).Meets
      (fun found _ => found = (ofPassword ((inVariable s.environment settings.get?).or
          (inKeyring s.environment server settings.get?)), settings) ∧
        ¬ Unresolvable s.environment settings.get?)
      fun _ => Unresolvable s.environment settings.get? := by
  have hsetting : settings.setting? "password" = none := h
  unfold findPassword
  rw [hsetting]
  dsimp only
  rw [get_bind]
  by_cases hnamed : Misnamed settings.get?
  · obtain ⟨e, he⟩ := fromVariable_of_misnamed s.environment hnamed
    rw [he]
    exact .misnamed h hnamed
  rw [bind_of_ok (ofExcept_of_ok (fromVariable_of_not_misnamed s.environment hnamed) s)]
  -- what is left to go wrong is that the keyring is asked for nobody
  have hresolvable : (inVariable s.environment settings.get? = none →
      asksKeyring settings.get? = true → (keyringUser settings.get?).isTrue = true) →
      ¬ Unresolvable s.environment settings.get? := by
    rintro hall (⟨hv, -⟩ | ⟨-, hmisnamed⟩ | ⟨-, hvariable, hasks, huser⟩)
    · simp [h] at hv
    · exact hnamed hmisnamed
    · simp [hall hvariable hasks] at huser
  -- the variable comes before the keyring
  cases hvariable : inVariable s.environment settings.get? with
  | some secret => exact ⟨rfl, hresolvable (by simp [hvariable])⟩
  | none =>
    have hasks : (settings.setting "use_keyring").isTrue = asksKeyring settings.get? := rfl
    dsimp only
    rw [hasks]
    cases hasked : asksKeyring settings.get? with
    | false => exact ⟨by simp [inKeyring, hasked]; rfl, hresolvable (by simp [hasked])⟩
    | true =>
      refine meets_bind ((fromKeyring_meets hasked).mono (fun _ _ hfound => hfound)
        fun _ huser => .nobody h hvariable hasked huser) ?_
      rintro credential t ⟨rfl, huser⟩
      exact ⟨rfl, hresolvable fun _ _ => huser⟩

/-- The password is the one that the settings resolve to, and the settings are left without it. -/
theorem findPassword_meets (server : Value) (settings : Entries) (s : Session) :
    (findPassword server settings s).Meets
      (fun found _ => found = (ofPassword (resolved s.environment server settings.get?),
          settings.erase (.str "password")) ∧ ¬ Unresolvable s.environment settings.get?)
      fun _ => Unresolvable s.environment settings.get? := by
  cases hinline : settings.get? (.str "password") with
  | none =>
    rw [Entries.erase_of_get?_eq_none hinline, resolved, hinline]
    exact findPassword_of_none hinline
  | some v =>
    -- the password among the settings comes first, whatever it is
    rw [findPassword_of_inline hinline, resolved, hinline]
    split
    · next hlong => exact .unwritable hinline hlong
    · next hlong =>
      refine ⟨rfl, ?_⟩
      rintro (⟨hv, hlong'⟩ | ⟨hnone⟩ | ⟨hnone⟩)
      · simp_all
      · simp [hinline] at hnone
      · simp [hinline] at hnone

end Credential

/-! ## The connector -/

namespace Connector

/-- A password takes the place of a setting of its name. -/
theorem forwards_password {c : Connector} {password : Option String} {settings : Entries}
    (hcredential : c.credential = .ofPassword password)
    (hsettings : c.settings = settings.erase (.str "password")) :
    c.parameters.Forwards settings.get? "password"
      (password.map fun text => .value (.str text)) := by
  refine forwards_of_get? (by decide) fun key => ?_
  -- the password of the profile is not forwarded as a plain setting
  have herased : ∀ key, c.settings.get? key =
      if (Value.str "password").sameKey key then none else settings.get? key := by
    intro key
    rw [hsettings, Entries.get?_erase, Value.sameKey_comm]
  -- without a password none is set, otherwise it takes the place of the setting
  cases password with
  | none =>
    simp only [parameters, hcredential, Credential.ofPassword]
    rw [get?_forwarded, herased]
    cases (Value.str "password").sameKey key <;> cases isForwarded key <;> rfl
  | some text =>
    simp only [parameters, hcredential, Credential.ofPassword]
    rw [get?_setParameter, get?_forwarded, herased]
    split
    · rfl
    · rfl

end Connector

end Querysmith
