import Querysmith.Database.Registry
import Mathlib.Data.List.Perm.Basic

/-!
# Contexts of open transactions

A registry in which no server has two entries holds one context for each of its servers. Recording
a transaction and taking one out adds and removes a context, up to the order of the entries.

## Key results

- `Registry.Distinct.insert`, `Registry.Distinct.erase`: no server gets two entries
- `Registry.contexts_perm`: a server's context and those of the other servers
- `Registry.contexts_insert`: the same after a transaction was recorded
-/

namespace Querysmith.Registry

variable {r : Registry} {server : Value} {c : ContextId}

/-- The contexts that hold open transactions. -/
def contexts (r : Registry) : List ContextId := r.active.map Prod.snd

/-- No server has two entries. -/
def Distinct (r : Registry) : Prop := r.active.Pairwise fun a b => a.1.sameKey b.1 = false

theorem Distinct.erase (h : r.Distinct) (server : Value) : (r.erase server).Distinct :=
  h.sublist List.filter_sublist

/-- The keys stay as they are when the server has an entry, and otherwise the server's is added. -/
private theorem mem_insertInto {active : List (Value × ContextId)} {e : Value × ContextId}
    (he : e ∈ insertInto server c active) :
    (∃ f ∈ active, f.1 = e.1) ∨ e.1 = server := by
  induction active with
  | nil =>
    obtain rfl : e = (server, c) := by simpa [insertInto] using he
    exact .inr rfl
  | cons f rest ih =>
    rw [insertInto] at he
    -- an entry under the key is replaced where it stands, otherwise one is added
    split at he
    · rcases List.mem_cons.1 he with rfl | he
      · exact .inl ⟨f, List.mem_cons_self, rfl⟩
      · exact .inl ⟨e, List.mem_cons_of_mem _ he, rfl⟩
    · rcases List.mem_cons.1 he with rfl | he
      · exact .inl ⟨_, List.mem_cons_self, rfl⟩
      · rcases ih he with ⟨g, hg, hkey⟩ | hkey
        · exact .inl ⟨g, List.mem_cons_of_mem _ hg, hkey⟩
        · exact .inr hkey

/-- Recording a transaction keeps the servers distinct. -/
theorem Distinct.insert (h : r.Distinct) (server : Value) (c : ContextId) :
    (r.insert server c).Distinct := by
  obtain ⟨active⟩ := r
  simp only [Distinct, Registry.insert] at h ⊢
  induction active with
  | nil => simp [insertInto]
  | cons e rest ih =>
    obtain ⟨hhead, hrest⟩ := List.pairwise_cons.1 h
    rw [insertInto]
    -- a replaced entry keeps its key
    split
    · exact List.pairwise_cons.2 ⟨hhead, hrest⟩
    · rename_i hserver
      refine List.pairwise_cons.2 ⟨fun f hf => ?_, ih hrest⟩
      rcases mem_insertInto hf with ⟨g, hg, hkey⟩ | hkey
      · rw [← hkey]
        exact hhead g hg
      · rw [hkey]
        simpa using hserver

theorem mem_contexts (hget : r.get? server = some c) : c ∈ r.contexts := by
  obtain ⟨e, he, rfl⟩ := Option.map_eq_some_iff.1 hget
  exact List.mem_map_of_mem (List.mem_of_find?_eq_some he)

/-- A context on record is the one that was recorded last or was there before. -/
theorem mem_contexts_insert {id : ContextId} (h : id ∈ (r.insert server c).contexts) :
    id = c ∨ id ∈ r.contexts := by
  obtain ⟨active⟩ := r
  simp only [contexts, Registry.insert] at h ⊢
  induction active with
  | nil => simpa [insertInto] using h
  | cons e rest ih =>
    rw [insertInto] at h
    -- an entry under the key is replaced, otherwise it is looked for further behind
    split at h
    · rcases List.mem_cons.1 h with hid | hid
      · exact .inl hid
      · exact .inr (List.mem_cons_of_mem _ hid)
    · rcases List.mem_cons.1 h with hid | hid
      · exact .inr (hid ▸ List.mem_cons_self)
      · exact (ih hid).imp_right (List.mem_cons_of_mem _)

theorem mem_contexts_erase {id : ContextId} (h : id ∈ (r.erase server).contexts) :
    id ∈ r.contexts :=
  (List.filter_sublist.map Prod.snd).subset h

/-- The context of a server and the contexts of the others. -/
theorem contexts_perm (h : r.Distinct) (hget : r.get? server = some c) :
    r.contexts.Perm (c :: (r.erase server).contexts) := by
  obtain ⟨active⟩ := r
  simp only [Distinct, get?, contexts, Registry.erase] at h hget ⊢
  induction active with
  | nil => simp at hget
  | cons e rest ih =>
    obtain ⟨hhead, hrest⟩ := List.pairwise_cons.1 h
    by_cases hserver : e.1.sameKey server
    · have hothers : rest.filter (fun f => !f.1.sameKey server) = rest :=
        List.filter_eq_self.2 fun f hf => by
          simp [Value.sameKey_eq_false (hhead f hf) hserver]
      obtain rfl : e.2 = c := by simpa [hserver] using hget
      simp [hserver, hothers]
    -- the entry stands further behind
    · have hlater := ih hrest (by simpa [hserver] using hget)
      simp only [List.filter_cons, hserver, Bool.not_false, if_true, List.map_cons]
      exact (hlater.cons e.2).trans (List.Perm.swap c e.2 _)

/-- The recorded context and the contexts of the other servers. -/
theorem contexts_insert (h : r.Distinct) (server : Value) (c : ContextId) :
    (r.insert server c).contexts.Perm (c :: (r.erase server).contexts) := by
  obtain ⟨active⟩ := r
  simp only [Distinct, contexts, Registry.erase, Registry.insert] at h ⊢
  induction active with
  | nil => simp [insertInto]
  | cons e rest ih =>
    obtain ⟨hhead, hrest⟩ := List.pairwise_cons.1 h
    -- either the first entry is replaced, or it stays in front
    by_cases hserver : e.1.sameKey server
    · have hothers : rest.filter (fun f => !f.1.sameKey server) = rest :=
        List.filter_eq_self.2 fun f hf => by
          simp [Value.sameKey_eq_false (hhead f hf) hserver]
      simp [insertInto, hserver, hothers]
    · simp only [insertInto, List.filter_cons, hserver, Bool.not_false, if_true, List.map_cons,
        Bool.false_eq_true, if_false]
      exact ((ih hrest).cons e.2).trans (List.Perm.swap c e.2 _)

/-- A server without an entry has nothing to take out. -/
theorem erase_of_get?_eq_none (hget : r.get? server = none) : r.erase server = r := by
  obtain ⟨active⟩ := r
  simp only [get?, Option.map_eq_none_iff, List.find?_eq_none] at hget
  simp only [Registry.erase, Registry.mk.injEq, List.filter_eq_self]
  intro e he
  simpa using hget e he

end Querysmith.Registry
