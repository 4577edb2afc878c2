import Querysmith.Error
import Querysmith.Number.Scaled

/-!
# Keys

When two values are the same key: texts and byte strings by content, numbers of all kinds by
value, days and times by kind and by what they stand for, and tuples item by item. The key of a
value says all that counts. A value that is no number, though its kind is a number's, is the same
key as itself and as no other: what counts is the place that it comes from. A block of calls is the
same key as nothing.

* `sameKey_iff`   two values are the same key when they have one key in common
* `sameKey_comm`, `sameKey_trans`   hence the relation is symmetric and transitive
-/

namespace Querysmith

/-- A part of a key. -/
inductive KeyPart where
  | null
  | omitted
  | str (s : String)
  | bytes (content : List UInt8)
  | number (n : Scaled)
  | infinite (negative : Bool)
  /-- No number, from a place. -/
  | undefined (origin : Nat)
  /-- A day, a time or both. -/
  | moment (key : String × Bool × Int)
  /-- A tuple: as many keys follow. -/
  | tuple (size : Nat)
  deriving DecidableEq, Repr

/-- What counts of a value that is a key: a tuple stands in front of its items. -/
abbrev Key := List KeyPart

namespace Value

mutual
/-- The key of a value, unless the value is the same as nothing. -/
def key? : Value → Option Key
  | .null => some [.null]
  | .omitted => some [.omitted]
  | .bool b => some [.number (.ofInt (if b then 1 else 0))]
  | .int n => some [.number (.ofInt n)]
  | .float (.finite negative m e) => some [.number (.ofBinary negative m e)]
  | .float (.infinite negative) => some [.infinite negative]
  | .float (.undefined origin) => some [.undefined origin]
  | .decimal (.finite negative c e) => some [.number (.ofNat negative c e)]
  | .decimal (.infinite negative) => some [.infinite negative]
  | .decimal (.undefined _ false _ origin) => some [.undefined origin]
  | .decimal (.undefined _ true _ _) => none
  | .str s => some [.str s]
  | .bytes content => some [.bytes content]
  | .moment m => some [.moment m.key]
  | .tuple items => do
    let keys ← keys? items
    pure (.tuple items.length :: keys)
  | .list _ => none
  | .map _ => none
  | .function => none

/-- The keys of a row of values, one behind the other. -/
def keys? : List Value → Option Key
  | [] => some []
  | v :: rest => do
    let key ← v.key?
    let keys ← keys? rest
    pure (key ++ keys)
end

/-- Whether two values are the same key. -/
def sameKey (a b : Value) : Bool :=
  match a.key?, b.key? with
  | some k, some l => k = l
  | _, _ => false

theorem sameKey_iff {a b : Value} :
    a.sameKey b = true ↔ ∃ k, a.key? = some k ∧ b.key? = some k := by
  unfold sameKey
  split
  · next k l ha hb => simp [ha, hb, eq_comm]
  · next h =>
    simp only [Bool.false_eq_true, false_iff, not_exists, not_and]
    intro k ha hb
    exact h k k ha hb

theorem sameKey_comm (a b : Value) : a.sameKey b = b.sameKey a := by
  rw [Bool.eq_iff_iff, sameKey_iff, sameKey_iff]
  exact exists_congr fun _ => and_comm

theorem sameKey_trans {a b c : Value} (h : a.sameKey b = true) :
    a.sameKey c = b.sameKey c := by
  obtain ⟨k, ha, hb⟩ := sameKey_iff.1 h
  simp [sameKey, ha, hb]

/-- Values that are the same key are the same key as the same values. -/
theorem sameKey_congr {a b : Value} (h : a.sameKey b = true) (key : Value) :
    key.sameKey a = key.sameKey b := by
  rw [sameKey_comm key, sameKey_comm key, sameKey_trans h]

/-- Of two values that are different keys, at most one is the same key as a third value. -/
theorem sameKey_eq_false {a b c : Value} (hab : a.sameKey b = false) (hac : a.sameKey c = true) :
    b.sameKey c = false := by
  rw [sameKey_comm, ← sameKey_trans hac, hab]

@[simp] theorem sameKey_str (s t : String) : (Value.str s).sameKey (.str t) = decide (s = t) := by
  simp [sameKey, key?]

mutual
/-- What keeps a value from being a key. -/
def keyFault? : Value → Option Error
  | .list _ => some (.notHashable "list")
  | .map _ => some (.notHashable "dict")
  | .decimal (.undefined _ true _ _) => some .signalingKey
  | .tuple items => keysFault? items
  | _ => none

/-- What keeps the first such value of a row from being a key. -/
def keysFault? : List Value → Option Error
  | [] => none
  | v :: rest =>
    match v.keyFault? with
    | some fault => some fault
    | none => keysFault? rest
end

/-- Refuses what cannot be a key. -/
def asKey (v : Value) : Except Error Value :=
  match v.keyFault? with
  | some fault => .error fault
  | none => .ok v

end Value

end Querysmith
