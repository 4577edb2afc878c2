import Querysmith.Proofs.Outcome

/-!
# What computations keep

A computation keeps a property of the state when the property holds afterwards whenever it held
before, whether the computation gives a value or fails. The rules follow the ways in which
computations are put together, so that a property is checked against single changes of the state
only. Properties that relate the state to an earlier one are kept in the same sense, with the
earlier state fixed.

## Key results

- `Gives.bind`, `Gives.tryCatch`, `Gives.tryFinally`: compound computations
- `Gives.mapM`: a computation for each item of a list
-/

namespace EStateM

variable {ε σ α β : Type} {J : σ → Prop} {V : α → Prop} {W : β → Prop}

/-- The state in which a computation has stopped. -/
def Result.state : Result ε σ α → σ
  | .ok _ s => s
  | .error _ s => s

/-- The value that a computation has given. -/
def Result.value? : Result ε σ α → Option α
  | .ok a _ => some a
  | .error .. => none

/-- `P` holds of the value and the state, or `E` of the state after a failure. -/
def Result.Meets (P : α → σ → Prop) (E : σ → Prop) : Result ε σ α → Prop
  | .ok a s => P a s
  | .error _ s => E s

/-- The computation keeps `J`, and a value that it gives has the property `V`. -/
def Gives (J : σ → Prop) (V : α → Prop) (x : EStateM ε σ α) : Prop :=
  ∀ s, J s → (x s).Meets (fun a t => J t ∧ V a) J

/-- The computation keeps `J`. -/
abbrev Keeps (J : σ → Prop) (x : EStateM ε σ α) : Prop := Gives J (fun _ => True) x

/-- There is a value where the computation has succeeded. -/
theorem Result.value?_eq_some_iff {r : Result ε σ α} {a : α} :
    r.value? = some a ↔ r = .ok a r.state := by
  cases r <;> simp [value?, state]

theorem Result.isSome_value?_iff {r : Result ε σ α} :
    r.value?.isSome = true ↔ ∃ a t, r = .ok a t := by
  cases r <;> simp [value?]

/-- There is none where it has failed. -/
theorem Result.value?_eq_none_iff {r : Result ε σ α} : r.value? = none ↔ ∃ e t, r = .error e t := by
  cases r <;> simp [value?]

/-- What meets conditions meets weaker ones. -/
theorem Result.Meets.mono {P P' : α → σ → Prop} {E E' : σ → Prop} {r : Result ε σ α}
    (h : r.Meets P E) (hP : ∀ a s, P a s → P' a s) (hE : ∀ s, E s → E' s) : r.Meets P' E' := by
  cases r with
  | ok a s => exact hP a s h
  | error e s => exact hE s h

theorem Result.Meets.mono_error {P : α → σ → Prop} {E E' : σ → Prop} {r : Result ε σ α}
    (h : r.Meets P E) (hE : ∀ s, E s → E' s) : r.Meets P E' := h.mono (fun _ _ hs => hs) hE

/-- Conditions that are met one by one are met together. -/
theorem Result.Meets.and {P P' : α → σ → Prop} {E E' : σ → Prop} {r : Result ε σ α}
    (h : r.Meets P E) (h' : r.Meets P' E') :
    r.Meets (fun a s => P a s ∧ P' a s) fun s => E s ∧ E' s := by
  cases r with
  | ok a s => exact ⟨h, h'⟩
  | error e s => exact ⟨h, h'⟩

/-- What holds wherever a computation stops. -/
theorem Result.meets_state_iff {E : σ → Prop} {r : Result ε σ α} :
    r.Meets (fun _ => E) E ↔ E r.state := by
  cases r <;> exact Iff.rfl

/-- A value that is given is the one that the computation gives. -/
theorem meets_self (x : EStateM ε σ α) (s : σ) :
    (x s).Meets (fun a t => x s = .ok a t) fun _ => True := by
  cases x s with
  | ok a t => exact rfl
  | error e t => exact trivial

/-- A chain goes on from the value and the state of its first part. -/
theorem meets_bind {x : EStateM ε σ α} {f : α → EStateM ε σ β} {s : σ} {P : α → σ → Prop}
    {Q : β → σ → Prop} {E : σ → Prop} (hx : (x s).Meets P E)
    (hf : ∀ a t, P a t → (f a t).Meets Q E) : ((x >>= f) s).Meets Q E := by
  cases hr : x s with
  | ok a t =>
    rw [hr] at hx
    rw [bind_of_ok hr]
    exact hf a t hx
  | error e t =>
    rw [hr] at hx
    rw [bind_of_error hr]
    exact hx

/-- A value that is given in the end makes no difference to the state. -/
theorem state_bind_pure (x : EStateM ε σ α) (b : β) (s : σ) :
    ((x >>= fun _ => pure b) s).state = (x s).state := by
  cases hr : x s with
  | ok a t =>
    rw [bind_of_ok hr]
    rfl
  | error e t =>
    rw [bind_of_error hr]
    rfl

theorem Gives.meets {x : EStateM ε σ α} (h : Gives J V x) {s : σ} (hs : J s) :
    (x s).Meets (fun _ => J) J := (h s hs).mono (fun _ _ ht => ht.1) fun _ ht => ht

/-- The condition holds of the state that is left, also after a failure. -/
theorem Gives.state {x : EStateM ε σ α} (h : Gives J V x) {s : σ} (hs : J s) : J (x s).state := by
  have hx := h s hs
  cases hr : x s with
  | ok a t =>
    rw [hr] at hx
    exact hx.1
  | error e t =>
    rw [hr] at hx
    exact hx

/-- A computation keeps what holds wherever it stops. -/
theorem keeps_of_state {x : EStateM ε σ α} (h : ∀ s, J s → J (x s).state) : Keeps J x := by
  intro s hs
  have hx := h s hs
  cases hr : x s with
  | ok a t =>
    rw [hr] at hx
    exact ⟨hx, trivial⟩
  | error e t =>
    rw [hr] at hx
    exact hx

/-- What gives values of a kind gives those of a wider kind. -/
theorem Gives.mono {V' : α → Prop} {x : EStateM ε σ α} (h : Gives J V x) (hV : ∀ a, V a → V' a) :
    Gives J V' x := fun s hs =>
  (h s hs).mono (fun a _ ha => ⟨ha.1, hV a ha.2⟩) fun _ ht => ht

/-- What gives values of a kind keeps the condition. -/
theorem Gives.keeps {x : EStateM ε σ α} (h : Gives J V x) : Keeps J x := h.mono fun _ _ => trivial

theorem gives_pure {a : α} (h : V a) : Gives J V (pure a : EStateM ε σ α) := fun _ hs => ⟨hs, h⟩

theorem keeps_pure (a : α) : Keeps J (pure a : EStateM ε σ α) := gives_pure trivial

theorem gives_throw (e : ε) : Gives J V (throw e : EStateM ε σ α) := fun _ hs => hs

/-- A value or a failure that is at hand changes nothing. -/
theorem keeps_ofExcept (x : Except ε α) : Keeps J (ofExcept x : EStateM ε σ α) := by
  cases x with
  | error e => exact gives_throw e
  | ok a => exact keeps_pure a

/-- What is read is a state that has the property. -/
theorem gives_get : Gives J J (get : EStateM ε σ σ) := fun _ hs => ⟨hs, hs⟩

/-- A change that keeps the condition. -/
theorem keeps_modify {f : σ → σ} (h : ∀ s, J s → J (f s)) :
    Keeps J (modify f : EStateM ε σ PUnit) := fun s hs => ⟨h s hs, trivial⟩

/-- A chain keeps what both of its parts keep; the second may rely on the value of the first. -/
theorem Gives.bind {x : EStateM ε σ α} {f : α → EStateM ε σ β} (hx : Gives J V x)
    (hf : ∀ a, V a → Gives J W (f a)) : Gives J W (x >>= f) :=
  fun s hs => meets_bind (hx s hs) fun a t ht => hf a ht.2 t ht.1

/-- A chain whose second part does not rely on the value of the first. -/
theorem Keeps.bind {x : EStateM ε σ α} {f : α → EStateM ε σ β} (hx : Keeps J x)
    (hf : ∀ a, Gives J W (f a)) : Gives J W (x >>= f) :=
  Gives.bind hx fun a _ => hf a

/-- A failure that is caught goes on where it has stopped. -/
theorem meets_tryCatch {x : EStateM ε σ α} {handle : ε → EStateM ε σ α} {s : σ} {P : α → σ → Prop}
    {E E' : σ → Prop} (hx : (x s).Meets P E) (hhandle : ∀ e t, E t → (handle e t).Meets P E') :
    (tryCatchThe ε x handle s).Meets P E' := by
  cases hr : x s with
  | ok a t =>
    rw [hr] at hx
    rw [tryCatch_of_ok hr]
    exact hx
  | error e t =>
    rw [hr] at hx
    rw [tryCatch_of_error hr]
    exact hhandle e t hx

/-- A failure that is handled keeps the condition like what handles it. -/
theorem Gives.tryCatch {x : EStateM ε σ α} {handle : ε → EStateM ε σ α} (hx : Gives J V x)
    (hhandle : ∀ e, Gives J V (handle e)) :
    Gives J V (tryCatchThe ε x handle) := fun s hs =>
  meets_tryCatch (hx s hs) fun e => hhandle e

/-- What is done at the end is done whatever has come before it. -/
theorem meets_tryFinally {x : EStateM ε σ α} {after : EStateM ε σ β} {s : σ} {P Q : α → σ → Prop}
    {E E' : σ → Prop} (hx : (x s).Meets P E)
    (hok : ∀ a t, P a t → (after t).Meets (fun _ u => Q a u) E')
    (herror : ∀ t, E t → (after t).Meets (fun _ => E') E') :
    (tryFinally x after s).Meets Q E' := by
  -- what is done at the end is handed on with the result, and dropped again
  have hread : tryFinally x after s =
      EStateM.map Prod.fst (tryFinally' x fun _ => after) s := rfl
  rw [hread]
  -- the end is reached with a result or with an error, and may fail in either case
  cases hr : x s with
  | ok a t =>
    rw [hr] at hx
    have ht := hok a t hx
    simp only [EStateM.map, tryFinally', hr]
    cases hu : after t with
    | ok b u =>
      rw [hu] at ht
      exact ht
    | error e u =>
      rw [hu] at ht
      exact ht
  | error e t =>
    rw [hr] at hx
    have ht := herror t hx
    simp only [EStateM.map, tryFinally', hr]
    cases hu : after t with
    | ok b u =>
      rw [hu] at ht
      exact ht
    | error e' u =>
      rw [hu] at ht
      exact ht

/-- It starts where the computation before it has stopped. -/
theorem state_tryFinally {x : EStateM ε σ α} {after : EStateM ε σ β} {s : σ} {E : σ → Prop}
    (h : (after (x s).state).Meets (fun _ => E) E) : E (tryFinally x after s).state := by
  refine Result.meets_state_iff.1 (meets_tryFinally (P := fun _ t => t = (x s).state)
    (E := fun t => t = (x s).state) (Result.meets_state_iff.2 rfl) ?_ ?_)
  · rintro a _ rfl
    exact h
  · rintro _ rfl
    exact h

/-- A value stays given when something that keeps the condition is done at the end in any case. -/
theorem Gives.tryFinally {x : EStateM ε σ α} {after : EStateM ε σ β} (hx : Gives J V x)
    (hafter : Keeps J after) : Gives J V (tryFinally x after) := fun s hs =>
  meets_tryFinally (hx s hs)
    (fun _ t ht => (hafter t ht.1).mono (fun _ _ hu => ⟨hu.1, ht.2⟩) fun _ hu => hu)
    fun _ ht => hafter.meets ht

/-- A computation for each item of a list. -/
theorem Gives.mapM {f : α → EStateM ε σ β} {as : List α} (h : ∀ a ∈ as, Gives J W (f a)) :
    Gives J (fun bs : List β => ∀ b ∈ bs, W b) (as.mapM f) := by
  induction as with
  | nil =>
    rw [List.mapM_nil]
    exact gives_pure (by simp)
  | cons a rest ih =>
    rw [List.mapM_cons]
    refine (h a List.mem_cons_self).bind fun b hb => ?_
    refine (ih fun a' ha' => h a' (List.mem_cons_of_mem _ ha')).bind fun bs hbs => ?_
    exact gives_pure (by simpa using ⟨hb, hbs⟩)

end EStateM
