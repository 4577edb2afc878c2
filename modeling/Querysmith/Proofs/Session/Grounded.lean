import Querysmith.Proofs.Session.Callback
import Querysmith.Proofs.Transaction.Registry

/-!
# Contexts that exist

Contexts are only ever added. So the contexts that are named or on record exist, in every session
that commands lead to.

## Key results

- `Grounded.callback`: no callback names or records a context that does not exist
-/

namespace Querysmith

open Session EStateM

namespace Session

/-- The contexts that are named or hold open transactions exist. -/
structure Grounded (s : Session) : Prop where
  named : ∀ e ∈ s.contextNames, e.2.index < s.contexts.length
  registered : ∀ id ∈ s.transactions.contexts, id.index < s.contexts.length

/-- A context exists. -/
def Has (s : Session) (id : ContextId) : Prop := id.index < s.contexts.length

/-- The names and the registry stay, and contexts are added at most. -/
private theorem fits_of_le {ids : List ContextId} {s t : Session} (h : Fits Grounded Has ids s)
    (hnames : t.contextNames = s.contextNames) (hregistry : t.transactions = s.transactions)
    (hlength : s.contexts.length ≤ t.contexts.length) : Fits Grounded Has ids t := by
  refine ⟨⟨fun e he => ?_, fun id hid => ?_⟩, fun id hid => ?_⟩
  · rw [hnames] at he
    exact Nat.lt_of_lt_of_le (h.1.named e he) hlength
  · rw [hregistry] at hid
    exact Nat.lt_of_lt_of_le (h.1.registered id hid) hlength
  · exact Nat.lt_of_lt_of_le (h.2 id hid) hlength

/-- A change of one context leaves as many as there were. -/
private theorem length_of_set {s t : Session} {id : ContextId} {c : Context}
    (h : t.contexts = s.contexts.set id.index c) : s.contexts.length ≤ t.contexts.length := by
  exact Nat.le_of_eq (by rw [h, List.length_set])

/-- That contexts are there is enough to run commands on. -/
theorem supports_grounded : Supports Grounded Has where
  rides := fun _ =>
    { quiet := fun ht h =>
        fits_of_le h ht.contextNames ht.transactions (Nat.le_of_eq (by rw [ht.contexts]))
      opens := fun _ ht h =>
        fits_of_le h ht.contextNames ht.transactions (length_of_set ht.contexts)
      draws := fun _ ht h =>
        fits_of_le h ht.contextNames ht.transactions (length_of_set ht.contexts) }
  closes := fun _ ht h => fits_of_le h ht.contextNames ht.transactions (length_of_set ht.contexts)
  -- the new context is there once it is added
  adds := fun {ids s} c h => by
    have hgrown : Fits Grounded Has ids { s with contexts := s.contexts ++ [c] } :=
      fits_of_le h rfl rfl (by simp)
    refine ⟨hgrown.1, fun id hid => ?_⟩
    rcases List.mem_cons.1 hid with rfl | hid
    · simp [Has]
    · exact hgrown.2 id hid
  controls := fun _ h => fits_of_le h rfl rfl (Nat.le_refl _)

/-- It asks nothing of what is done in between. -/
theorem lenient_grounded : Lenient Grounded Has fun _ => True where
  toTends := supports_grounded.tends
  registered := fun _ h hget => h.registered _ (Registry.mem_contexts hget)
  opens := fun _ hid h => by
    refine ⟨⟨h.1.named, fun id' hid' => ?_⟩, h.2⟩
    rcases Registry.mem_contexts_insert hid' with rfl | hid'
    · exact h.2 _ hid
    · exact h.1.registered id' hid'
  drops := fun _ h =>
    ⟨⟨h.1.named, fun id hid => h.1.registered id (Registry.mem_contexts_erase hid)⟩, h.2⟩

private theorem grounded_named {ids : List ContextId} {id : ContextId} {s : Session} (name : String)
    (hid : id ∈ ids) (h : Fits Grounded Has ids s) :
    Fits Grounded Has ids { s with contextNames := keep name id s.contextNames } := by
  refine ⟨⟨fun e he => ?_, h.1.registered⟩, h.2⟩
  rcases mem_keep he with rfl | he
  · exact h.2 _ hid
  · exact h.1.named e he

/-- Every command keeps contexts where they are. -/
theorem carried_grounded : Carried Grounded Has .any where
  toTends := supports_grounded.tends
  makes := fun name _ ht _ => supports_grounded.makes grounded_named name ht _
  names := fun h he _ => h.named _ he
  named := grounded_named
  serves := supports_grounded.serves
  begins := fun _ => lenient_grounded.yields_beginTransaction trivial
  commits := fun _ => lenient_grounded.keeps_commitTransaction trivial
  rollbacks := fun _ => lenient_grounded.keeps_rollbackTransaction trivial

/-- No callback names or records a context that does not exist, however it ends. -/
theorem Grounded.callback {α : Type} {s : Session} (h : s.Grounded) (callback : Callback α) :
    (callback.run s).state.Grounded := by
  have hfits : Fits Grounded Has [] s := ⟨h, nofun⟩
  exact ((carried_grounded.keeps_callback callback).state hfits).holds

end Session

end Querysmith
