import Querysmith.Connection.Connector
import Querysmith.Proofs.Entries
import Querysmith.Proofs.Outcome

/-!
# What a connector forwards

The settings of a connector are those of a profile with overrides on top. The parameters of its
connections are these settings without the ones that tell where credentials are found, and the
credential, which takes the place of a setting of its name.

## Main definitions

- `layered`: the value of a setting in a profile with overrides on top
- `Settings.Forwards`: parameters hold settings and a credential

## Key results

- `Entries.get?_update`: overrides win, the last one first
- `Connector.forwards_of_get?`, `Connector.forwards_key`: what is found among the parameters
-/

namespace Querysmith

namespace Value

/-- A text is the same key as itself only. -/
theorem sameKey_str_iff {key : Value} {name : String} :
    key.sameKey (.str name) = true ↔ key = .str name := by
  refine ⟨fun h => ?_, fun h => by simp [h]⟩
  obtain ⟨k, hk, hname⟩ := sameKey_iff.1 h
  obtain rfl : [.str name] = k := by simpa [key?] using hname
  fun_cases key? key <;> simp_all [key?, Option.bind_eq_some_iff]

/-- Only a text is the same key as a text. -/
theorem sameKey_str_eq_false_iff {key : Value} {name : String} :
    key.sameKey (.str name) = false ↔ key ≠ .str name := by
  rw [← Bool.not_eq_true, sameKey_str_iff]

end Value

/-! ## Entries -/

namespace Entries

variable {entries : Entries}

/-- Setting an entry changes what is found under its key, and nothing else. -/
theorem get?_set (entries : Entries) (key value other : Value) :
    (entries.set key value).get? other =
      if key.sameKey other then some value else entries.get? other := by
  fun_induction entries.set key value with
  | case1 => rw [get?_cons]
  -- the entry is replaced in place
  | case2 e rest h =>
    rw [get?_cons, get?_cons, Value.sameKey_trans h]
    split
    · rfl
    · rfl
  | case3 e rest h ih =>
    rw [get?_cons, get?_cons, ih]
    by_cases hkey : key.sameKey other
    · -- what is found under the key is not in front of its entry
      have hother : e.1.sameKey other = false := by
        rw [Value.sameKey_congr (a := other) (b := key)]
        · simpa using h
        · rwa [Value.sameKey_comm]
      simp [hkey, hother]
    · simp [hkey]

/-- Updates win, the last one first. -/
theorem get?_update (entries updates : Entries) (key : Value) :
    (entries.update updates).get? key =
      (Entries.get? updates.reverse key).or (entries.get? key) := by
  -- induction from the end, since the last update is the one that counts
  induction updates using List.reverseRecOn with
  | nil => rfl
  | append_singleton updates e ih =>
    rw [← update_append, List.reverse_append, List.reverse_singleton, List.singleton_append,
      get?_cons]
    show ((entries.update updates).set e.1 e.2).get? key = _
    rw [get?_set, ih]
    split
    · rfl
    · rfl

/-- A filter on keys keeps or drops all that is found under one. -/
theorem get?_filter {p : Value → Bool} (hp : ∀ a b : Value, a.sameKey b = true → p a = p b)
    (entries : Entries) (key : Value) :
    Entries.get? (entries.filter fun e => p e.1) key =
      if p key then entries.get? key else none := by
  induction entries with
  | nil => simp [get?]
  | cons e rest ih =>
    rw [List.filter_cons, get?_cons]
    -- an entry under the key goes or stays with all others under it
    by_cases hkey : e.1.sameKey key
    · rw [hp _ _ hkey]
      split
      · rw [get?_cons, if_pos hkey]
      · next h => rw [ih, if_neg h]
    · rw [if_neg hkey, ← ih]
      split
      · rw [get?_cons, if_neg hkey]
      · rfl

/-- Erasing an entry drops what is found under its key, and nothing else. -/
theorem get?_erase (entries : Entries) (other key : Value) :
    (entries.erase other).get? key = if key.sameKey other then none else entries.get? key := by
  have hfilter := get?_filter (p := fun k => !k.sameKey other)
    (fun a b h => by rw [Value.sameKey_trans h]) entries key
  rw [erase, hfilter]
  cases key.sameKey other <;> rfl

/-- A key that is not there can be taken out. -/
theorem erase_of_get?_eq_none {key : Value} (h : entries.get? key = none) :
    entries.erase key = entries := by
  rw [erase, List.filter_eq_self]
  simpa [get?] using h

end Entries

/-- The value of a setting in a profile with overrides on top, where the last override wins. -/
def layered (profile overrides : Entries) (key : Value) : Option Value :=
  (Entries.get? overrides.reverse key).or (profile.get? key)

/-! ## Parameters -/

namespace Settings

/-- The value of a parameter. -/
def get? (ps : Settings) (key : Value) : Option Setting :=
  (ps.find? fun p => p.1.sameKey key).map Prod.snd

theorem get?_cons (p : Value × Setting) (ps : Settings) (key : Value) :
    get? (p :: ps) key = if p.1.sameKey key then some p.2 else get? ps key := by
  unfold get?
  by_cases h : p.1.sameKey key <;> simp [h]

/-- Settings that are values are found like the entries that they were made from. -/
theorem get?_map_value (entries : Entries) (key : Value) :
    get? (entries.map fun e => (e.1, Setting.value e.2)) key =
      (entries.get? key).map .value := by
  induction entries with
  | nil => rfl
  | cons e rest ih =>
    rw [List.map_cons, get?_cons, Entries.get?_cons, ih]
    split
    · rfl
    · rfl

/-- The settings that tell where credentials are found. -/
def sources : List String :=
  ["password_env", "use_keyring", "keyring_service", "keyring_username",
   "private_key_passphrase_env", "private_key_file"]

/-- Parameters hold the settings that `look` finds, without those that tell where credentials are
found, and a credential under its name. -/
structure Forwards (look : Value → Option Value) (name : String) (credential : Option Setting)
    (ps : Settings) : Prop where
  credential : get? ps (.str name) = credential
  withheld : ∀ other ∈ sources, get? ps (.str other) = none
  rest : ∀ key, key ≠ .str name → (∀ other ∈ sources, key ≠ .str other) →
    get? ps key = (look key).map .value

/-- What is found under a key depends on the setting of that key only. -/
theorem Forwards.congr {look look' : Value → Option Value} {name : String}
    {credential : Option Setting} {ps ps' : Settings} (h : Forwards look name credential ps)
    (h' : Forwards look' name credential ps') {key : Value} (hkey : look' key = look key) :
    get? ps' key = get? ps key := by
  by_cases hname : key = .str name
  · rw [hname, h.credential, h'.credential]
  · by_cases hsource : ∃ other ∈ sources, key = .str other
    · obtain ⟨other, hother, rfl⟩ := hsource
      rw [h.withheld other hother, h'.withheld other hother]
    · have hothers : ∀ other ∈ sources, key ≠ .str other := fun other hother he =>
        hsource ⟨other, hother, he⟩
      rw [h.rest key hname hothers, h'.rest key hname hothers, hkey]

end Settings

namespace Connector

/-- Exactly the names of sources are held back. -/
theorem isForwarded_eq_false_iff {key : Value} :
    isForwarded key = false ↔ ∃ name ∈ Settings.sources, key = .str name := by
  have hsources : localSettings = Settings.sources := rfl
  cases key with
  | str s => simp [isForwarded, hsources]
  | _ => simp [isForwarded]

/-- Whether a setting is forwarded depends on its key only. -/
theorem isForwarded_congr {a b : Value} (h : a.sameKey b = true) :
    isForwarded a = isForwarded b := by
  by_cases ha : ∃ s, a = .str s
  · -- a text is no other key, and what is no text is forwarded
    obtain ⟨s, rfl⟩ := ha
    rw [Value.sameKey_comm, Value.sameKey_str_iff] at h
    rw [h]
  · by_cases hb : ∃ s, b = .str s
    · obtain ⟨s, rfl⟩ := hb
      exact absurd ⟨s, Value.sameKey_str_iff.1 h⟩ ha
    -- neither is a text, and what is withheld are texts
    · have hother : ∀ {v : Value}, (¬ ∃ s, v = .str s) → isForwarded v = true := by
        intro v hv
        rw [← Bool.not_eq_false, isForwarded_eq_false_iff]
        exact fun ⟨s, _, hs⟩ => hv ⟨s, hs⟩
      rw [hother ha, hother hb]

/-- Behind a parameter of another name nothing changes for the one that is set. -/
theorem setParameter_cons {p : Value × Setting} {name : String}
    (h : p.1.sameKey (.str name) = false) (ps : Settings) (s : Setting) :
    setParameter (p :: ps) name s = p :: setParameter ps name s := by
  simp only [setParameter, List.any_cons, h, Bool.false_or, List.map_cons]
  split
  · rfl
  · rfl

/-- A parameter that was set is found, and nothing else is changed. -/
theorem get?_setParameter (ps : Settings) (name : String) (s : Setting) (key : Value) :
    Settings.get? (setParameter ps name s) key =
      if (Value.str name).sameKey key then some s else Settings.get? ps key := by
  -- values that are replaced under the name stand under no other key
  have hreplaced : ∀ ps : Settings, (Value.str name).sameKey key = false →
      Settings.get? (ps.map fun p => if p.1.sameKey (.str name) then (p.1, s) else p) key =
        Settings.get? ps key := by
    intro ps hkey
    induction ps with
    | nil => rfl
    -- every entry under the name gets the new value, so that the first one has it
    | cons p ps ih =>
      rw [List.map_cons, Settings.get?_cons, Settings.get?_cons, ih]
      split
      · next h => simp [Value.sameKey_trans h, hkey]
      · rfl
  induction ps with
  | nil =>
    show Settings.get? [(.str name, s)] key = _
    rw [Settings.get?_cons]
  | cons p ps ih =>
    cases hp : p.1.sameKey (.str name) with
    | false =>
      rw [setParameter_cons hp, Settings.get?_cons, Settings.get?_cons, ih]
      by_cases hkey : (Value.str name).sameKey key
      · rw [← Value.sameKey_congr hkey, hp]
        simp
      · simp [hkey]
    | true =>
      have hset : setParameter (p :: ps) name s = (p.1, s) ::
          ps.map fun p => if p.1.sameKey (.str name) then (p.1, s) else p := by
        simp [setParameter, hp]
      rw [hset, Settings.get?_cons, Settings.get?_cons, Value.sameKey_trans hp]
      by_cases hkey : (Value.str name).sameKey key
      · simp [hkey]
      · simp [hkey, hreplaced ps (by simpa using hkey)]

/-- The settings that are meant for the driver. -/
theorem get?_forwarded (settings : Entries) (key : Value) :
    Settings.get? ((settings.filter fun e => isForwarded e.1).map
      fun e => (e.1, Setting.value e.2)) key =
        if isForwarded key then (settings.get? key).map .value else none := by
  rw [Settings.get?_map_value, Entries.get?_filter (fun a b => isForwarded_congr)]
  split
  · rfl
  · rfl

/-- What parameters forward is read off what is found in them. -/
theorem forwards_of_get? {look : Value → Option Value} {name : String}
    {credential : Option Setting} {ps : Settings} (hname : name ∉ Settings.sources)
    (h : ∀ key, Settings.get? ps key = if (Value.str name).sameKey key then credential
      else if isForwarded key then (look key).map .value else none) :
    Settings.Forwards look name credential ps where
  credential := by simp [h]
  withheld other hother := by
    -- a source of passwords is never the name that the credential has
    have hne : name ≠ other := fun he => hname (he ▸ hother)
    simp [h, hne, isForwarded_eq_false_iff.2 ⟨other, hother, rfl⟩]
  rest key hkey hothers := by
    have hforwarded : isForwarded key = true := by
      rw [← Bool.not_eq_false, isForwarded_eq_false_iff]
      exact fun ⟨other, hmem, he⟩ => hothers other hmem he
    rw [h, Value.sameKey_comm, Value.sameKey_str_eq_false_iff.2 hkey, hforwarded]
    rfl

/-- A private key takes the place of a setting of its name. -/
theorem forwards_key {c : Connector} {k : PrivateKey} (h : c.credential = .key k) :
    c.parameters.Forwards c.settings.get? "private_key" (some (.key k)) := by
  refine forwards_of_get? (by decide) fun key => ?_
  simp only [parameters, h]
  rw [get?_setParameter, get?_forwarded]

/-- Overrides lie on top of a profile. -/
theorem get?_update_eq (profile overrides : Entries) :
    (profile.update overrides).get? = layered profile overrides :=
  funext fun key => Entries.get?_update profile overrides key

/-- A connector with a profile goes on to find its credential. -/
theorem ofServer_of_load {server : Value} {overrides profile : Entries} {s : Session} {uses : Bool}
    (hload : s.environment.load s.profiles server = .ok profile)
    (huses : Credential.usesKeyPair (profile.update overrides) = .ok uses) :
    ofServer server overrides s =
      (if uses then do
        let credential ← Credential.findKey (profile.update overrides)
        return { server, settings := profile.update overrides, credential }
      else do
        let (credential, settings) ← Credential.findPassword server (profile.update overrides)
        return { server, settings, credential } : Act Connector) s := by
  rw [ofServer, EStateM.get_bind, EStateM.bind_of_ok (EStateM.ofExcept_of_ok hload s),
    EStateM.bind_of_ok (EStateM.ofExcept_of_ok huses s)]

/-- No connector is made from settings with an authenticator that is no text. -/
theorem ofServer_of_error {server : Value} {overrides profile : Entries} {s : Session} {e : Error}
    (hload : s.environment.load s.profiles server = .ok profile)
    (huses : Credential.usesKeyPair (profile.update overrides) = .error e) :
    ofServer server overrides s = .error e s := by
  rw [ofServer, EStateM.get_bind, EStateM.bind_of_ok (EStateM.ofExcept_of_ok hload s),
    EStateM.bind_of_error (EStateM.ofExcept_of_error huses s)]

end Connector

end Querysmith
