import Mathlib.Data.List.Induction
import Querysmith.Value.Items

/-!
# Maps by key

A map has no key twice. Setting keys one after the other gives every key one entry, which stands
where the key was set first and has the value that it was set to last.

## Main definitions

- `Distinct`: no key has two entries
- `merged`: the entries that a row of settings comes to

## Key results

- `Distinct.set`: a key that is set does not get a second entry
- `update_nil`: setting the keys of a row one after the other merges the row
-/

namespace Querysmith.Entries

variable {entries : Entries}

/-- No key has two entries. -/
def Distinct (entries : Entries) : Prop := entries.Pairwise fun a b => a.1.sameKey b.1 = false

theorem get?_cons (e : Value × Value) (entries : Entries) (key : Value) :
    get? (e :: entries) key = if e.1.sameKey key then some e.2 else get? entries key := by
  unfold get?
  by_cases h : e.1.sameKey key <;> simp [h]

/-- With one entry for each key, an entry is found under its own key, if that is one. -/
theorem Distinct.get?_of_mem (h : entries.Distinct) {e : Value × Value} (he : e ∈ entries)
    (hkey : e.1.sameKey e.1 = true) : entries.get? e.1 = some e.2 := by
  induction entries with
  | nil => cases he
  | cons f rest ih =>
    obtain ⟨hhead, hrest⟩ := List.pairwise_cons.1 h
    rw [get?_cons]
    rcases List.mem_cons.1 he with rfl | he
    · rw [if_pos hkey]
    · rw [if_neg (by simp [hhead e he]), ih hrest he]

/-- Updates follow one another as one update. -/
theorem update_append (entries xs ys : Entries) :
    (entries.update xs).update ys = entries.update (xs ++ ys) := by
  rw [update, update, update, List.foldl_append]

/-! ## Setting a key -/

/-- The keys stay as they are when the key has an entry, and otherwise it is added. -/
theorem mem_set {key value : Value} {e : Value × Value} (h : e ∈ entries.set key value) :
    (∃ f ∈ entries, f.1 = e.1) ∨ e.1 = key := by
  fun_induction entries.set key value with
  | case1 =>
    obtain rfl : e = (key, value) := by simpa using h
    exact .inr rfl
  -- the first entry under the key is replaced, where it stands
  | case2 f rest =>
    rcases List.mem_cons.1 h with rfl | h
    · exact .inl ⟨f, List.mem_cons_self, rfl⟩
    · exact .inl ⟨e, List.mem_cons_of_mem _ h, rfl⟩
  | case3 f rest _ ih =>
    rcases List.mem_cons.1 h with rfl | h
    · exact .inl ⟨e, List.mem_cons_self, rfl⟩
    · rcases ih h with ⟨g, hg, hkey⟩ | hkey
      · exact .inl ⟨g, List.mem_cons_of_mem _ hg, hkey⟩
      · exact .inr hkey

/-- A key that is set does not get a second entry. -/
theorem Distinct.set (h : entries.Distinct) (key value : Value) :
    (entries.set key value).Distinct := by
  fun_induction entries.set key value with
  | case1 => exact List.pairwise_singleton _ _
  | case2 e rest =>
    obtain ⟨hhead, hrest⟩ := List.pairwise_cons.1 h
    exact List.pairwise_cons.2 ⟨hhead, hrest⟩
  | case3 e rest hkey ih =>
    obtain ⟨hhead, hrest⟩ := List.pairwise_cons.1 h
    refine List.pairwise_cons.2 ⟨fun f hf => ?_, ih hrest⟩
    -- keys behind the first one are old keys or the one that is set
    rcases mem_set hf with ⟨g, hg, hsame⟩ | hsame
    · rw [← hsame]
      exact hhead g hg
    · rw [hsame]
      simpa using hkey

/-- The entries for other keys than `key`. -/
def others (key : Value) (entries : Entries) : Entries :=
  entries.filter fun e => !key.sameKey e.1

/-- Setting a key makes no difference to the entries for others. -/
theorem others_set_of_sameKey {key other : Value} (h : key.sameKey other = true)
    (entries : Entries) (value : Value) :
    others key (entries.set other value) = others key entries := by
  fun_induction entries.set other value with
  | case1 => simp [others, h]
  | case2 e rest he =>
    have hkey : key.sameKey e.1 = true := by rw [Value.sameKey_congr he, h]
    simp [others, hkey]
  | case3 e rest _ ih =>
    rw [others, others] at ih ⊢
    rw [List.filter_cons, List.filter_cons, ih]

/-- A key is set in the same place when the entries for a different key are left out. -/
theorem others_set_of_ne {key other : Value} (h : key.sameKey other = false)
    (entries : Entries) (value : Value) :
    others key (entries.set other value) = (others key entries).set other value := by
  fun_induction entries.set other value with
  | case1 => simp [others, h, set]
  | case2 e rest he =>
    -- the entry that is set is not for the key that is left out
    have hkey : key.sameKey e.1 = false := by rw [Value.sameKey_congr he, h]
    simp [others, hkey, set, he]
  | case3 e rest he ih =>
    rw [others, others] at ih ⊢
    by_cases hkey : key.sameKey e.1
    · simp [hkey, ih]
    · simp [hkey, ih, set, he]

/-! ## Settings one after the other -/

/-- The value that a key is set to last, by an entry or by one of those behind it. -/
def lastValue (e : Value × Value) (later : Entries) : Value :=
  (get? later.reverse e.1).getD e.2

/-- What a row of settings comes to: each key once, in the place where it is set first, with the
value that it is set to last. -/
def merged : Entries → Entries
  | [] => []
  | e :: later => (e.1, lastValue e later) :: others e.1 (merged later)

/-- The last value of a key is the one that was set last. -/
theorem lastValue_concat (e : Value × Value) (later : Entries) (key value : Value) :
    lastValue e (later ++ [(key, value)]) =
      if e.1.sameKey key then value else lastValue e later := by
  rw [lastValue, List.reverse_append, List.reverse_singleton, List.singleton_append, get?_cons,
    Value.sameKey_comm]
  split
  · rfl
  · rfl

/-- A setting behind the others replaces a value in its place, or adds a key at the end. -/
theorem merged_concat (log : Entries) (key value : Value) :
    merged (log ++ [(key, value)]) = (merged log).set key value := by
  induction log with
  | nil => rfl
  | cons e later ih =>
    rw [List.cons_append, merged, merged, set, ih, lastValue_concat]
    by_cases h : e.1.sameKey key
    · rw [if_pos h, if_pos h, others_set_of_sameKey h]
    · rw [if_neg h, if_neg h, others_set_of_ne (by simpa using h)]

/-- Setting the keys of a row one after the other merges the row. -/
theorem update_nil (log : Entries) : update [] log = merged log := by
  induction log using List.reverseRecOn with
  | nil => rfl
  | append_singleton log e ih =>
    rw [← update_append, ih, merged_concat]
    rfl

/-- A merged row has no key twice. -/
theorem distinct_merged (log : Entries) : (merged log).Distinct := by
  induction log with
  | nil => exact List.Pairwise.nil
  | cons e later ih =>
    rw [merged]
    refine List.pairwise_cons.2 ⟨fun f hf => ?_, ih.sublist List.filter_sublist⟩
    simpa using (List.mem_filter.1 hf).2

end Querysmith.Entries
