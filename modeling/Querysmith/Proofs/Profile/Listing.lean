import Querysmith.Proofs.Profile.Registered
import Querysmith.Proofs.Profile.Tables

/-!
# Listed servers and loaded profiles

The servers are listed and a profile is loaded by two readers of the same places, the book of
profiles and the profile file. A listed server that is registered has the profile that it was given,
whatever the file says. The others are the keys of the file, tables or not, so that a listed server
can be loaded when its value in the file can be read as a table, and a file made of tables makes no
exception.

## Main definitions

- `Environment.fileProfiles`: the entries of the profile file, none when there is no file

## Key results

- `Environment.listed_iff`: the listed names are those that are registered or in the file
- `Environment.load_of_file`: what is loaded for a name that is not registered
- `Environment.loads_iff_listed`: which of the listed servers can be loaded
-/

namespace Querysmith

/-- Something is found under a key when an entry has the same key. -/
theorem Entries.isSome_get?_iff {entries : Entries} {key : Value} :
    (entries.get? key).isSome = true ↔ ∃ e ∈ entries, e.1.sameKey key = true := by
  simp [Entries.get?, List.find?_isSome]

namespace ProfileBook

variable {book : ProfileBook} {name : Value}

/-- A book contains a profile when one was registered under the same key. -/
theorem contains_iff :
    book.contains name = true ↔ ∃ p ∈ book.profiles, p.1.sameKey name = true := by
  simp [contains, get?, List.find?_isSome]

/-- No profile is found exactly where none is contained. -/
theorem get?_eq_none_iff : book.get? name = none ↔ book.contains name = false := by
  simp [contains]

/-- A name that is registered can be looked up. -/
theorem asKey_of_get? {profile : Entries} (h : book.get? name = some profile) :
    name.asKey = .ok name := by
  obtain ⟨p, -, hp⟩ := contains_iff.1 (show book.contains name = true by simp [contains, h])
  obtain ⟨k, -, hk⟩ := Value.sameKey_iff.1 hp
  exact Value.asKey_of_key? (by simp [hk])

end ProfileBook

namespace Environment

variable {env : Environment} {book : ProfileBook} {path name : Value} {file : Entries}

/-- The entries of the profile file; a missing file has none. -/
def fileProfiles (env : Environment) (path : Value) : Except Error Entries :=
  match env.resolveProfiles path with
  | .error (.noDefaultProfiles _) => .ok []
  | .error e => .error e
  | .ok path => do
    if !(← env.files.contains path) then return []
    env.readProfiles path

/-- The registered names are listed, and then the keys of the file that are none of them. -/
theorem listServers_eq (env : Environment) (book : ProfileBook) (path : Value) :
    env.listServers book path = (env.fileProfiles path).map fun file =>
      book.servers ++ (file.map Prod.fst).filter fun name => !book.contains name := by
  -- a missing file, the default one or one that was named, counts as empty
  have hempty : (.ok book.servers : Except Error (List Value)) =
      (Except.ok []).map fun file : Entries =>
        book.servers ++ (file.map Prod.fst).filter fun name => !book.contains name := by
    simp [Except.map]
  rw [listServers, fileProfiles]
  cases env.resolveProfiles path with
  | error e => cases e <;> first | exact hempty | rfl
  | ok p =>
    cases hfound : env.files.contains p with
    | error e => simp only [hfound]; rfl
    | ok found =>
      simp only [hfound, Except.ok_bind]
      cases found with
      | false => exact hempty
      | true => cases env.readProfiles p <;> rfl

/-- The file is missing, or it is read. -/
theorem fileProfiles_cases (h : env.fileProfiles path = .ok file) :
    (∃ e, env.resolveProfiles path = .error e) ∧ file = [] ∨
      ∃ p, env.resolveProfiles path = .ok p ∧
        (env.files.contains p = .ok false ∧ file = [] ∨
          env.files.contains p = .ok true ∧ env.readProfiles p = .ok file) := by
  rw [fileProfiles] at h
  -- a path that cannot be had is a missing file, unless it is an error of another kind
  split at h
  · cases h
    exact .inl ⟨⟨_, ‹_›⟩, rfl⟩
  · cases h
  · obtain ⟨found, hfound, h⟩ := Except.bind_eq_ok_iff.1 h
    cases found with
    | false =>
      cases h
      exact .inr ⟨_, ‹_›, .inl ⟨hfound, rfl⟩⟩
    | true => exact .inr ⟨_, ‹_›, .inr ⟨hfound, h⟩⟩

/-- The names in a file are texts, each of them there once. -/
theorem fileProfiles_named (h : env.fileProfiles path = .ok file) : file.Named := by
  obtain ⟨-, rfl⟩ | ⟨p, -, ⟨-, rfl⟩ | ⟨-, hread⟩⟩ := fileProfiles_cases h
  · exact Entries.named_nil
  · exact Entries.named_nil
  · obtain ⟨text, -, hread⟩ := Except.bind_eq_ok_iff.1 hread
    cases text with
    | none => cases hread
    | some text => exact Toml.parse_named hread

/-- A registered profile is loaded, whatever the file says. -/
theorem load_of_registered {profile : Entries} (h : book.get? name = some profile)
    (env : Environment) (path : Value) : env.load book name path = .ok profile := by
  rw [load, ProfileBook.asKey_of_get? h, Except.ok_bind, h]
  rfl

/-- A failure, where nothing is found. -/
theorem error_iff_of_none {e : Error} {profile : Entries} :
    (.error e : Except Error Entries) = .ok profile ↔
      ∃ value, none = some value ∧ Entries.ofValue value = .ok profile := by
  simp

/-- What is loaded for a name that is not registered. -/
theorem load_of_file (hfile : env.fileProfiles path = .ok file) (hname : book.get? name = none)
    {profile : Entries} :
    env.load book name path = .ok profile ↔
      ∃ value, file.get? name = some value ∧ Entries.ofValue value = .ok profile := by
  cases hkey : name.asKey with
  | error e =>
    -- what cannot be a key is refused, and is not found in a file either
    have hget : file.get? name = none := by
      simp [Entries.get?, Value.sameKey_of_key?_eq_none (Value.key?_of_asKey_error hkey)]
    rw [load, hkey, hget]
    exact error_iff_of_none
  | ok key =>
    obtain ⟨-, rfl⟩ := Value.asKey_eq_ok_iff.1 hkey
    rw [load, hkey, Except.ok_bind, hname]
    -- there is no path, no file, or a file that was read
    obtain ⟨⟨e, he⟩, rfl⟩ | ⟨p, hp, ⟨hfound, rfl⟩ | ⟨hfound, hread⟩⟩ := fileProfiles_cases hfile
    · rw [he]
      exact error_iff_of_none
    · rw [hp, Except.ok_bind, hfound]
      exact error_iff_of_none
    · rw [hp, Except.ok_bind, hfound, Except.ok_bind]
      show (env.readProfiles p >>= _) = _ ↔ _
      rw [hread, Except.ok_bind]
      cases file.get? key with
      | none => exact error_iff_of_none
      | some value => simp

/-! ## Both readers -/

/-- The listed names are those that are registered or in the file. -/
theorem listed_iff {names : List Value} (h : env.listServers book path = .ok names) :
    ∃ file, env.fileProfiles path = .ok file ∧ ∀ name,
      (∃ n ∈ names, n.sameKey name = true) ↔
        book.contains name = true ∨ (file.get? name).isSome = true := by
  rw [listServers_eq, Except.map_eq_ok_iff] at h
  obtain ⟨file, hfile, rfl⟩ := h
  refine ⟨file, hfile, fun name => ?_⟩
  rw [ProfileBook.contains_iff, Entries.isSome_get?_iff]
  -- a name is listed once, as it is registered if it is
  constructor
  · rintro ⟨n, hn, hname⟩
    rcases List.mem_append.1 hn with hn | hn
    · obtain ⟨p, hp, rfl⟩ := List.mem_map.1 hn
      exact .inl ⟨p, hp, hname⟩
    · obtain ⟨e, he, rfl⟩ := List.mem_map.1 (List.mem_of_mem_filter hn)
      exact .inr ⟨e, he, hname⟩
  · rintro (⟨p, hp, hname⟩ | ⟨e, he, hname⟩)
    · exact ⟨p.1, List.mem_append_left _ (List.mem_map_of_mem hp), hname⟩
    · -- a key of the file that is registered is listed as it is registered
      by_cases hcontains : book.contains e.1 = true
      · obtain ⟨p, hp, hsame⟩ := ProfileBook.contains_iff.1 hcontains
        refine ⟨p.1, List.mem_append_left _ (List.mem_map_of_mem hp), ?_⟩
        rw [Value.sameKey_trans hsame, hname]
      · refine ⟨e.1,
          List.mem_append_right _ (List.mem_filter.2 ⟨List.mem_map_of_mem he, ?_⟩), hname⟩
        simpa using hcontains

/-- No name is listed twice. -/
theorem distinct_listServers {names : List Value}
    (hbook : book.profiles.Pairwise fun a b => a.1.sameKey b.1 = false)
    (h : env.listServers book path = .ok names) :
    names.Pairwise fun a b => a.sameKey b = false := by
  rw [listServers_eq, Except.map_eq_ok_iff] at h
  obtain ⟨file, hfile, rfl⟩ := h
  have hkeys : (file.map Prod.fst).Pairwise fun a b => a.sameKey b = false :=
    List.pairwise_map.2 (fileProfiles_named hfile).distinct
  -- registered names come first, and names of the file that are registered are left out
  refine List.pairwise_append.2 ⟨List.pairwise_map.2 hbook, hkeys.sublist List.filter_sublist, ?_⟩
  intro a ha b hb
  obtain ⟨p, hp, rfl⟩ := List.mem_map.1 ha
  have hfree : book.contains b = false := by simpa using (List.mem_filter.1 hb).2
  by_contra hsame
  have := ProfileBook.contains_iff.2 ⟨p, hp, by simpa using hsame⟩
  simp [hfree] at this

/-- The servers are listed without repetition, the registered ones first and in the order of their
registration. A registered server has the profile that it was given first since it was taken out
last. The servers that can be loaded are listed, and a listed one can be loaded unless it is not
registered and its value in the file cannot be read as a table. -/
theorem loads_iff_listed (calls : List ProfileCall) {names : List Value}
    (h : env.listServers (ProfileCall.play calls {}) path = .ok names) :
    names.Pairwise (fun a b => a.sameKey b = false) ∧
    (ProfileCall.standing calls).map Prod.fst <+: names ∧
    (∀ name profile, ProfileCall.registered? name calls = some profile →
      ∀ (env : Environment) path, env.load (ProfileCall.play calls {}) name path = .ok profile) ∧
    ∃ file, env.fileProfiles path = .ok file ∧
      (∀ name, (∃ profile, env.load (ProfileCall.play calls {}) name path = .ok profile) ↔
        (∃ n ∈ names, n.sameKey name = true) ∧
          ∀ value, ProfileCall.registered? name calls = none → file.get? name = some value →
            ∃ profile, Entries.ofValue value = .ok profile) ∧
      ((∀ e ∈ file, ∃ table, e.2 = .map table) →
        ∀ name, (∃ profile, env.load (ProfileCall.play calls {}) name path = .ok profile) ↔
          ∃ n ∈ names, n.sameKey name = true) := by
  have hbook := ProfileCall.profiles_play calls
  obtain ⟨file, hfile, hlisted⟩ := listed_iff h
  -- a profile is loaded from the book or else from the file
  have hloads : ∀ name, (∃ profile, env.load (ProfileCall.play calls {}) name path = .ok profile) ↔
      (∃ n ∈ names, n.sameKey name = true) ∧
        ∀ value, ProfileCall.registered? name calls = none → file.get? name = some value →
          ∃ profile, Entries.ofValue value = .ok profile := by
    intro name
    rw [hlisted, ← ProfileCall.get?_play]
    -- the file counts for a name only when it is not registered
    cases hname : (ProfileCall.play calls {}).get? name with
    | some profile =>
      have hcontains : (ProfileCall.play calls {}).contains name = true := by
        rw [ProfileBook.contains, hname, Option.isSome_some]
      exact iff_of_true ⟨profile, load_of_registered hname env path⟩
        ⟨.inl hcontains, fun _ hnone => absurd hnone (by simp)⟩
    | none =>
      rw [ProfileBook.get?_eq_none_iff.1 hname]
      simp only [load_of_file hfile hname]
      cases hvalue : file.get? name with
      | none => simp
      | some value => simp
  refine ⟨distinct_listServers (ProfileCall.distinct_play calls) h, ?_, ?_, file, hfile, hloads, ?_⟩
  · rw [listServers_eq, Except.map_eq_ok_iff] at h
    obtain ⟨file, -, rfl⟩ := h
    rw [← hbook]
    exact List.prefix_append _ _
  · intro name profile hname env path
    rw [← ProfileCall.get?_play] at hname
    exact load_of_registered hname env path
  -- an entry that is a table can be read as settings
  · intro htables name
    rw [hloads, and_iff_left]
    intro value _ hvalue
    obtain ⟨e, he, rfl⟩ := Option.map_eq_some_iff.1 hvalue
    obtain ⟨table, htable⟩ := htables e (List.mem_of_find?_eq_some he)
    exact ⟨table, by rw [htable]; rfl⟩

/-- A name that is registered twice, taken out and registered again. -/
def repeatedRegistrations : List ProfileCall :=
  [.register (.str "a") (.map [(.str "account", .str "x")]),
    .register (.str "a") (.map [(.str "account", .str "y")]),
    .unregister (.str "a"),
    .configure (.str "a") (.map [(.str "account", .str "z")]),
    .configure (.str "a") (.map [(.str "account", .str "w")])]

/-- Nothing but a file with a list of tables. -/
def looseEnvironment : Environment where
  files := { files := [(["s.toml"], "[[c]]\n")] }

/-- The list of tables is listed as a server and cannot be loaded. -/
theorem loads_iff_listed_loose :
    looseEnvironment.listServers (ProfileCall.play repeatedRegistrations {}) (.str "/s.toml") =
        .ok [.str "a", .str "c"] ∧
      looseEnvironment.load (ProfileCall.play repeatedRegistrations {}) (.str "a")
          (.str "/s.toml") =
        .ok [(.str "account", .str "z")] ∧
      ¬∃ profile, looseEnvironment.load (ProfileCall.play repeatedRegistrations {}) (.str "c")
        (.str "/s.toml") = .ok profile := by
  -- a list of tables is an entry of the file, but no profile
  have hread : looseEnvironment.fileProfiles (.str "/s.toml") =
      .ok [(.str "c", .list [.map []])] := rfl
  have hnames : looseEnvironment.listServers (ProfileCall.play repeatedRegistrations {})
      (.str "/s.toml") = .ok [.str "a", .str "c"] := by
    rw [listServers_eq, hread]
    rfl
  obtain ⟨-, -, hregistered, file, hfile, hloads, -⟩ :=
    loads_iff_listed repeatedRegistrations hnames
  obtain rfl := Except.ok.inj (hread.symm.trans hfile)
  refine ⟨hnames, hregistered _ _ rfl _ _, fun hc => ?_⟩
  -- the name is listed, and its entry cannot be read as settings
  obtain ⟨profile, hprofile⟩ := ((hloads _).1 hc).2 (.list [.map []]) rfl rfl
  cases hprofile

end Environment

end Querysmith
