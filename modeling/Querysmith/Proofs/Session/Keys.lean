import Querysmith.Database.Registry
import Querysmith.Profile.Book
import Querysmith.Proofs.Outcome

/-!
# Values that are no keys

Some values are refused as keys, and some are the same key as nothing, not even as themselves. The
former are among the latter. Nothing is found under them, neither a transaction nor a profile.

## Key results

- `key?_of_asKey_error`: what is refused as a key is the same key as nothing
- `Registry.get?_of_key?_eq_none`: no transaction is open for such a server
- `Environment.load_of_key?_eq_none`: no profile is found for it
-/

namespace Querysmith

namespace Value

/-- A key is looked up as it is. -/
theorem asKey_eq_ok_iff {v key : Value} : v.asKey = .ok key ↔ v.keyFault? = none ∧ key = v := by
  rw [asKey]
  cases v.keyFault? <;> simp [eq_comm]

mutual
/-- A value that is refused as a key is the same key as nothing. -/
private theorem key?_of_keyFault? : (v : Value) → {e : Error} → v.keyFault? = some e →
    v.key? = none
  | .list _, _, _ => by simp [key?]
  | .map _, _, _ => by simp [key?]
  | .decimal (.undefined _ true _ _), _, _ => by simp [key?]
  | .tuple items, e, h => by
    rw [keyFault?] at h
    simp [key?, keys?_of_keysFault? items h]
  | .null, _, h | .omitted, _, h | .bool _, _, h | .int _, _, h | .float _, _, h
  | .str _, _, h | .bytes _, _, h | .moment _, _, h | .function, _, h
  | .decimal (.finite ..), _, h | .decimal (.infinite _), _, h
  | .decimal (.undefined _ false _ _), _, h => by simp [keyFault?] at h

/-- A list with something in it that can be no key is none. -/
private theorem keys?_of_keysFault? : (vs : List Value) → {e : Error} →
    keysFault? vs = some e → keys? vs = none
  | [], _, h => by simp [keysFault?] at h
  | v :: rest, e, h => by
    rw [keysFault?] at h
    cases hfault : v.keyFault? with
    | some fault => simp [keys?, key?_of_keyFault? v hfault]
    | none =>
      rw [hfault] at h
      simp [keys?, keys?_of_keysFault? rest h]
end

/-- What is refused as a key is the same key as nothing. -/
theorem key?_of_asKey_error {v : Value} {e : Error} (h : v.asKey = .error e) : v.key? = none := by
  rw [asKey] at h
  cases hfault : v.keyFault? with
  | some fault => exact key?_of_keyFault? v hfault
  | none =>
    rw [hfault] at h
    exact nomatch h

/-- A value that has a key is looked up as it is. -/
theorem asKey_of_key? {v : Value} (h : v.key? ≠ none) : v.asKey = .ok v := by
  cases hasKey : v.asKey with
  | error e => exact absurd (key?_of_asKey_error hasKey) h
  | ok key =>
    obtain ⟨_, rfl⟩ := asKey_eq_ok_iff.1 hasKey
    rfl

/-- A value that has a key is the same key as itself. -/
theorem sameKey_self {v : Value} (h : v.key? ≠ none) : v.sameKey v = true := by
  obtain ⟨k, hk⟩ := Option.ne_none_iff_exists'.1 h
  exact sameKey_iff.2 ⟨k, hk, hk⟩

/-- Nothing is the same key as a value without one. -/
theorem sameKey_of_key?_eq_none {v : Value} (h : v.key? = none) (key : Value) :
    key.sameKey v = false := by
  rw [Bool.eq_false_iff, ne_eq, sameKey_iff]
  intro ⟨k, _, hk⟩
  exact nomatch h.symm.trans hk

end Value

variable {server : Value}

/-- No transaction is open for such a server. -/
theorem Registry.get?_of_key?_eq_none (h : server.key? = none) (r : Registry) :
    r.get? server = none := by
  simp [get?, Value.sameKey_of_key?_eq_none h]

/-- What a registry has is under a key. -/
theorem Registry.key?_ne_none {r : Registry} {c : ContextId} (h : r.get? server = some c) :
    server.key? ≠ none :=
  fun hnone => nomatch (get?_of_key?_eq_none hnone r).symm.trans h

/-- Values that are the same key have the same transaction. -/
theorem Registry.get?_congr {other : Value} (h : other.sameKey server = true) (r : Registry) :
    r.get? other = r.get? server := by
  simp only [get?, Value.sameKey_congr h]

/-- A server for which a transaction is open is the same key as itself. -/
theorem Registry.sameKey_self {r : Registry} {c : ContextId} (h : r.get? server = some c) :
    server.sameKey server = true :=
  Value.sameKey_self (key?_ne_none h)

/-- A server that was taken out has no transaction, also when it is the same key as nothing. -/
theorem Registry.get?_erase_self (r : Registry) (server : Value) :
    (r.erase server).get? server = none := by
  cases hget : r.get? server with
  | none => rw [get?_erase, hget, ite_self]
  | some c => rw [get?_erase, sameKey_self hget, if_pos rfl]

/-- No profile is found for such a server, neither in the book nor in a file. -/
theorem Environment.load_of_key?_eq_none (h : server.key? = none) (env : Environment)
    (book : ProfileBook) : ∃ e, env.load book server = .error e := by
  have hbook : book.get? server = none := by
    simp [ProfileBook.get?, Value.sameKey_of_key?_eq_none h]
  have hfile : ∀ entries : Entries, entries.get? server = none := by
    intro entries
    simp [Entries.get?, Value.sameKey_of_key?_eq_none h]
  cases hload : env.load book server with
  | error e => exact ⟨e, rfl⟩
  | ok profile =>
    rw [load] at hload
    obtain ⟨key, hkey, hlookup⟩ := Except.bind_eq_ok_iff.1 hload
    obtain ⟨_, rfl⟩ := Value.asKey_eq_ok_iff.1 hkey
    -- it is not in the book, so the file is read, if there is one
    rw [hbook] at hlookup
    obtain ⟨path, _, hread⟩ := Except.bind_eq_ok_iff.1 hlookup
    obtain ⟨found, _, hread⟩ := Except.bind_eq_ok_iff.1 hread
    cases found with
    | false => exact nomatch hread
    | true =>
      obtain ⟨all, _, hread⟩ := Except.bind_eq_ok_iff.1 hread
      rw [hfile] at hread
      exact nomatch hread

end Querysmith
