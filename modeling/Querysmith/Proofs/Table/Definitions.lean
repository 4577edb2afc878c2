import Querysmith.Blueprint.Basic

/-!
# Definitions by key

A blueprint has one definition for each key. Setting the definition of a key leaves the other keys
alone, and editing one leaves the keys as they are.

## Key results

- `get?_set_self`, `get?_set_of_ne`: what is found after a definition was set
- `get?_edit`: what is found after one was edited
- `mem_iff_get?`: with one definition for each key, what is found is what is there
-/

namespace Querysmith.Definitions

variable {ds : Definitions} {key : String}

/-- No key has two definitions. -/
def Distinct (ds : Definitions) : Prop := (ds.map Prod.fst).Nodup

theorem get?_cons (d : String × String) (ds : Definitions) (key : String) :
    get? (d :: ds) key = if d.1 = key then some d.2 else get? ds key := by
  unfold get?
  by_cases h : d.1 = key <;> simp [h]

@[simp] theorem get?_set_self (ds : Definitions) (key definition : String) :
    (ds.set key definition).get? key = some definition := by
  fun_induction ds.set key definition with
  | case1 => simp [get?]
  | case2 d rest h => simp [get?]
  | case3 d rest h ih => rw [get?_cons, if_neg h, ih]

theorem get?_set_of_ne {key' : String} (h : key ≠ key') (ds : Definitions) (definition : String) :
    (ds.set key definition).get? key' = ds.get? key' := by
  fun_induction ds.set key definition with
  | case1 => simp [get?, h]
  | case2 d rest hd => rw [get?_cons, get?_cons, if_neg h, if_neg (hd ▸ h)]
  | case3 d rest hd ih => rw [get?_cons, get?_cons, ih]

/-- An edit shows under its key only. -/
theorem get?_edit (ds : Definitions) (key key' : String) (f : String → String) :
    (ds.edit key f).get? key' =
      if key' = key then (ds.get? key').map f else ds.get? key' := by
  induction ds with
  | nil => simp [edit, get?]
  | cons d ds ih =>
    have hcons : edit (d :: ds) key f = (if d.1 = key then (d.1, f d.2) else d) :: edit ds key f :=
      rfl
    rw [hcons, get?_cons, get?_cons, ih]
    -- the entry is edited, or it is not the one that is looked for
    by_cases hd : d.1 = key
    · subst hd
      by_cases hkey : d.1 = key'
      · simp [hkey]
      · simp [hkey, Ne.symm hkey]
    · by_cases hkey : d.1 = key'
      · subst hkey
        simp [hd]
      · simp [hd, hkey]

theorem mem_keys_set {k definition : String} (h : k ∈ (ds.set key definition).map Prod.fst) :
    k = key ∨ k ∈ ds.map Prod.fst := by
  fun_induction ds.set key definition with
  | case1 => simpa using h
  | case2 d rest hd => simp_all
  | case3 d rest hd ih =>
    rcases List.mem_cons.mp h with rfl | h
    · exact .inr (by simp)
    · exact (ih h).imp_right fun h => List.mem_cons_of_mem _ h

/-- Setting a definition keeps the keys distinct. -/
theorem Distinct.set (h : ds.Distinct) (key definition : String) :
    (ds.set key definition).Distinct := by
  fun_induction ds.set key definition with
  | case1 => simp [Distinct]
  | case2 d rest hd => simpa [Distinct, ← hd] using h
  | case3 d rest hd ih =>
    have h : d.1 ∉ rest.map Prod.fst ∧ (rest.map Prod.fst).Nodup := List.nodup_cons.mp h
    exact List.nodup_cons.mpr ⟨fun hmem => (mem_keys_set hmem).elim hd h.1, ih h.2⟩

theorem keys_edit (ds : Definitions) (key : String) (f : String → String) :
    (ds.edit key f).map Prod.fst = ds.map Prod.fst := by
  rw [edit, List.map_map]
  refine List.map_congr_left fun d _ => ?_
  by_cases hd : d.1 = key <;> simp [hd]

theorem Distinct.edit (h : ds.Distinct) (key : String) (f : String → String) :
    (ds.edit key f).Distinct := by
  rw [Distinct, keys_edit]
  exact h

theorem mem_of_get? {definition : String} (h : ds.get? key = some definition) :
    (key, definition) ∈ ds := by
  unfold get? at h
  obtain ⟨d, hfind, rfl⟩ := Option.map_eq_some_iff.mp h
  obtain rfl : d.1 = key := by simpa using List.find?_some hfind
  exact List.mem_of_find?_eq_some hfind

/-- With one definition for each key, what is found is what is there. -/
theorem Distinct.mem_iff_get? (h : ds.Distinct) {definition : String} :
    (key, definition) ∈ ds ↔ ds.get? key = some definition := by
  refine ⟨fun hmem => ?_, mem_of_get?⟩
  induction ds with
  | nil => cases hmem
  | cons d ds ih =>
    have h : d.1 ∉ ds.map Prod.fst ∧ (ds.map Prod.fst).Nodup := List.nodup_cons.mp h
    rw [get?_cons]
    rcases List.mem_cons.mp hmem with rfl | hmem
    · simp
    -- the key of a later entry is not that of the first
    · have hkey : ¬ d.1 = key := by
        rintro rfl
        exact h.1 (List.mem_map.mpr ⟨_, hmem, rfl⟩)
      rw [if_neg hkey]
      exact ih h.2 hmem

end Querysmith.Definitions
