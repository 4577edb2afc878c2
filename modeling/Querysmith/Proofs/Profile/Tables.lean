import Querysmith.Profile.Toml
import Querysmith.Proofs.Entries
import Querysmith.Proofs.Outcome

/-!
# The keys of a profile file

Whatever a file of profiles says, reading it gives a table whose keys are texts, and no key twice:
every statement of a file sets at most one key of the outermost table.

## Key results

- `changeTable_named`: a table stays so when a table in it is changed
- `parse_named`: a file is such a table
-/

namespace Querysmith

/-- The keys are texts, and no key has two entries. -/
structure Entries.Named (entries : Entries) : Prop where
  distinct : entries.Distinct
  texts : ∀ e ∈ entries, ∃ s, e.1 = .str s

theorem Entries.named_nil : Entries.Named [] := ⟨List.Pairwise.nil, by simp⟩

/-- Setting a value under a text keeps the names in order. -/
theorem Entries.Named.set {entries : Entries} (h : entries.Named) (key : String) (value : Value) :
    (entries.set (.str key) value).Named := by
  refine ⟨h.distinct.set _ _, fun e he => ?_⟩
  rcases Entries.mem_set he with ⟨f, hf, hkey⟩ | hkey
  · rw [← hkey]
    exact h.texts f hf
  · exact ⟨key, hkey⟩

namespace Toml

/-! ## Changes of tables -/

/-- The change keeps the keys of the table that it is made to as they have to be. -/
def KeepsNamed (change : Entries → Option Entries) : Prop :=
  ∀ ⦃entries entries'⦄, change entries = some entries' → Entries.Named entries →
    Entries.Named entries'

/-- A change that changes nothing. -/
theorem keepsNamed_some : KeepsNamed some := by
  rintro entries _ ⟨⟩ h
  exact h

/-- Setting a new value under a text. -/
theorem keepsNamed_setNew (key : String) (value : Value) : KeepsNamed (setNew key value) := by
  intro entries entries' hchange h
  unfold setNew at hchange
  split at hchange
  · cases hchange
    exact h.set key value
  · cases hchange

/-- Adding an item under a text. -/
theorem keepsNamed_addItem (key : String) : KeepsNamed (addItem key) := by
  intro entries entries' hchange h
  unfold addItem at hchange
  split at hchange
  · cases hchange
    exact h.set key _
  · cases hchange
    exact h.set key _
  · cases hchange

/-- A table is changed itself, or one of its keys is set. -/
theorem changeTable_named {change : Entries → Option Entries} (hchange : KeepsNamed change)
    (path : List String) : KeepsNamed fun entries => changeTable change entries path := by
  intro entries entries' h hnamed
  cases path with
  | nil => exact hchange h hnamed
  | cons name path =>
    obtain ⟨value, rfl⟩ : ∃ value, entries' = entries.set (.str name) value := by
      -- the key is new, or has a table for its value, or a list with a table at its end
      simp only [changeTable] at h
      split at h
      · obtain ⟨inner, -, h⟩ := Option.bind_eq_some_iff.1 h
        exact ⟨_, (Option.some.inj h).symm⟩
      · obtain ⟨inner, -, h⟩ := Option.bind_eq_some_iff.1 h
        exact ⟨_, (Option.some.inj h).symm⟩
      · split at h
        · obtain ⟨inner, -, h⟩ := Option.bind_eq_some_iff.1 h
          exact ⟨_, (Option.some.inj h).symm⟩
        · cases h
      · cases h
    exact hnamed.set name value

/-- What is made is made, unless it would overwrite something. -/
theorem unlessOverwritten_eq_ok_iff {α : Type} {made : Option α} {a : α} :
    unlessOverwritten made = .ok a ↔ made = some a := by
  cases made <;> simp [unlessOverwritten]

/-- Naming the place of a fault changes no success. -/
theorem located_eq_ok_iff {α : Type} {rest : List Char} {x : Except Cause α} {a : α} :
    located rest x = .ok a ↔ x = .ok a := by
  cases x <;> simp [located, fail]

/-! ## Statements -/

/-- Declaring a table keeps names texts. -/
theorem declare_named {d d' : Document} {path : List String} (h : d.declare path = .ok d')
    (hd : d.entries.Named) : d'.entries.Named := by
  simp only [Document.declare] at h
  split at h
  · cases h
  · obtain ⟨entries, hentries, h⟩ := Except.bind_eq_ok_iff.1 h
    cases h
    exact changeTable_named keepsNamed_some _ (unlessOverwritten_eq_ok_iff.1 hentries) hd

/-- Declaring an item of a list of tables keeps every entry named. -/
theorem declareItem_named {d d' : Document} {path : List String} (h : d.declareItem path = .ok d')
    (hd : d.entries.Named) : d'.entries.Named := by
  simp only [Document.declareItem] at h
  split at h
  · cases h
  · obtain ⟨entries, hentries, h⟩ := Except.bind_eq_ok_iff.1 h
    cases h
    exact changeTable_named (keepsNamed_addItem _) _ (unlessOverwritten_eq_ok_iff.1 hentries) hd

/-- Setting a value keeps every entry named. -/
theorem setValue_named {d d' : Document} {key : List String} {value : Value}
    (h : d.setValue key value = .ok d') (hd : d.entries.Named) : d'.entries.Named := by
  simp only [Document.setValue] at h
  split at h
  · cases h
  · split at h
    · cases h
    · obtain ⟨entries, hentries, h⟩ := Except.bind_eq_ok_iff.1 h
      cases h
      exact changeTable_named (keepsNamed_setNew _ _) _ (unlessOverwritten_eq_ok_iff.1 hentries) hd

/-- The header of a table. -/
theorem readHeader_named {d d' : Document} {cs rest : List Char}
    (h : readHeader d cs = .ok (d', rest)) (hd : d.entries.Named) : d'.entries.Named := by
  obtain ⟨⟨path, ahead⟩, -, h⟩ := Except.bind_eq_ok_iff.1 h
  obtain ⟨e, he, h⟩ := Except.bind_eq_ok_iff.1 h
  have hnamed := declare_named (located_eq_ok_iff.1 he) hd
  split at h
  · cases h
    exact hnamed
  · cases h

/-- The header of an item. -/
theorem readItemHeader_named {d d' : Document} {cs rest : List Char}
    (h : readItemHeader d cs = .ok (d', rest)) (hd : d.entries.Named) : d'.entries.Named := by
  obtain ⟨⟨path, ahead⟩, -, h⟩ := Except.bind_eq_ok_iff.1 h
  obtain ⟨e, he, h⟩ := Except.bind_eq_ok_iff.1 h
  have hnamed := declareItem_named (located_eq_ok_iff.1 he) hd
  split at h
  · cases h
    exact hnamed
  · cases h

/-- An assignment. -/
theorem readAssignment_named {d d' : Document} {cs rest : List Char}
    (h : readAssignment d cs = .ok (d', rest)) (hd : d.entries.Named) : d'.entries.Named := by
  obtain ⟨⟨⟨key, value⟩, ahead⟩, -, h⟩ := Except.bind_eq_ok_iff.1 h
  obtain ⟨e, he, h⟩ := Except.bind_eq_ok_iff.1 h
  cases h
  exact setValue_named (located_eq_ok_iff.1 he) hd

/-- Any statement of the file. -/
theorem readStatement_named {d d' : Document} {cs rest : List Char}
    (h : readStatement d cs = .ok (d', rest)) (hd : d.entries.Named) : d'.entries.Named := by
  unfold readStatement at h
  -- nothing, an item of a list, a table, or an assignment, by the first characters
  split at h
  · cases h
    exact hd
  · exact readItemHeader_named h hd
  · exact readHeader_named h hd
  · split at h
    · exact readAssignment_named h hd
    · split at h
      · cases h
        exact hd
      · cases h

/-- All statements, one after the other. -/
theorem readDocument_named {fuel : Nat} {d d' : Document} {cs : List Char}
    (h : readDocument fuel d cs = .ok d') (hd : d.entries.Named) : d'.entries.Named := by
  -- the fuel bounds the statements, each of which keeps the keys texts
  induction fuel generalizing d cs with
  | zero => cases h
  | succ fuel ih =>
    rw [readDocument] at h
    obtain ⟨⟨e, rest⟩, he, h⟩ := Except.bind_eq_ok_iff.1 h
    obtain ⟨rest', -, h⟩ := Except.bind_eq_ok_iff.1 h
    have hnamed := readStatement_named he hd
    split at h
    · cases h
      exact hnamed
    · exact ih h hnamed
    · cases h

/-- The keys of a file of profiles are texts, and no key has two entries. -/
theorem parse_named {s : String} {entries : Entries} (h : parse s = .ok entries) :
    entries.Named := by
  simp only [parse] at h
  split at h
  · cases h
    exact readDocument_named ‹_› Entries.named_nil
  · cases h

end Toml

end Querysmith
