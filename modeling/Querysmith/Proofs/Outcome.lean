/-!
# Outcomes of computations

What a computation that succeeded went through. Chains of computations are taken apart one at a
time, so that no proof has to unfold how they are chained.
-/

namespace Except

/-- A chain succeeds when both of its parts do. -/
theorem bind_eq_ok_iff {ε α β : Type} {x : Except ε α} {f : α → Except ε β} {b : β} :
    (x >>= f) = .ok b ↔ ∃ a, x = .ok a ∧ f a = .ok b := by
  cases x with
  | error e => simp [bind, Except.bind]
  | ok a => simp [bind, Except.bind]

theorem ok_bind {ε α β : Type} (a : α) (f : α → Except ε β) : (Except.ok a >>= f) = f a := rfl

/-- A value that was changed was there before. -/
theorem map_eq_ok_iff {ε α β : Type} {x : Except ε α} {f : α → β} {b : β} :
    x.map f = .ok b ↔ ∃ a, x = .ok a ∧ f a = b := by
  cases x <;> simp [Except.map]

theorem map_eq_error_iff {ε α β : Type} {x : Except ε α} {f : α → β} {e : ε} :
    x.map f = .error e ↔ x = .error e := by
  cases x <;> simp [Except.map]

end Except

namespace EStateM

variable {ε σ α β : Type}

/-- A chain succeeds when both of its parts do, the second where the first has stopped. -/
theorem bind_eq_ok_iff {x : EStateM ε σ α} {f : α → EStateM ε σ β} {s : σ} {b : β} {t : σ} :
    (x >>= f) s = .ok b t ↔ ∃ a u, x s = .ok a u ∧ f a u = .ok b t := by
  show EStateM.bind x f s = _ ↔ _
  cases h : x s with
  | error e u => simp [EStateM.bind, h]
  | ok a u =>
    simp only [EStateM.bind, h, Result.ok.injEq]
    constructor
    · intro hf
      exact ⟨a, u, ⟨rfl, rfl⟩, hf⟩
    · rintro ⟨_, _, ⟨rfl, rfl⟩, hf⟩
      exact hf

/-- A computation whose value is dropped has given one. -/
theorem ok_of_discard {x : EStateM ε σ α} {s u : σ} (h : discard x s = .ok () u) :
    ∃ a, x s = .ok a u := by
  revert h
  show EStateM.map _ x s = _ → _
  unfold EStateM.map
  cases x s with
  | error e t => exact nofun
  | ok a t =>
    rintro ⟨⟩
    exact ⟨a, rfl⟩

/-- A chain goes on where its first part has stopped. -/
theorem bind_of_ok {x : EStateM ε σ α} {s : σ} {a : α} {u : σ} (h : x s = .ok a u)
    (f : α → EStateM ε σ β) : (x >>= f) s = f a u := by
  show EStateM.bind x f s = _
  simp [EStateM.bind, h]

/-- A chain depends on its first part through the outcome of that part only. -/
theorem bind_congr_left {x y : EStateM ε σ α} {s : σ} (h : x s = y s) (f : α → EStateM ε σ β) :
    (x >>= f) s = (y >>= f) s := by
  show EStateM.bind x f s = EStateM.bind y f s
  simp only [EStateM.bind, h]

/-- A chain stops where its first part has failed. -/
theorem bind_of_error {x : EStateM ε σ α} {s : σ} {e : ε} {u : σ} (h : x s = .error e u)
    (f : α → EStateM ε σ β) : (x >>= f) s = .error e u := by
  show EStateM.bind x f s = _
  simp [EStateM.bind, h]

/-- A chain that reads the state goes on with it. -/
theorem get_bind (f : σ → EStateM ε σ β) (s : σ) : (get >>= f) s = f s s := rfl

/-- A value that is at hand is given, and the state stays. -/
theorem ofExcept_of_ok {x : Except ε α} {a : α} (h : x = .ok a) (s : σ) :
    (ofExcept x : EStateM ε σ α) s = .ok a s := by
  rw [h]
  rfl

/-- A failure that is at hand is raised, and the state stays. -/
theorem ofExcept_of_error {x : Except ε α} {e : ε} (h : x = .error e) (s : σ) :
    (ofExcept x : EStateM ε σ α) s = .error e s := by
  rw [h]
  rfl

/-- What does not fail is not handled. -/
theorem tryCatch_of_ok {x : EStateM ε σ α} {s : σ} {a : α} {u : σ} (h : x s = .ok a u)
    (handle : ε → EStateM ε σ α) : tryCatchThe ε x handle s = .ok a u := by
  show EStateM.tryCatch x handle s = _
  delta EStateM.tryCatch
  simp only [h]

/-- A failure is handled where it has stopped. -/
theorem tryCatch_of_error {x : EStateM ε σ α} {s : σ} {e : ε} {u : σ} (h : x s = .error e u)
    (handle : ε → EStateM ε σ α) : tryCatchThe ε x handle s = handle e u := by
  show EStateM.tryCatch x handle s = _
  delta EStateM.tryCatch
  simp only [h]
  rfl

/-- A failure goes on after what is done at the end. -/
theorem tryFinally_of_error {x : EStateM ε σ α} {after : EStateM ε σ β} {s t u : σ} {e : ε} {b : β}
    (h : x s = .error e t) (hafter : after t = .ok b u) : tryFinally x after s = .error e u := by
  have hread : tryFinally x after s =
      EStateM.map Prod.fst (tryFinally' x fun _ => after) s := rfl
  rw [hread]
  simp only [EStateM.map, tryFinally', h, hafter]

end EStateM
