import Querysmith.Call.Signature
import Querysmith.Proofs.Outcome

/-!
# Arguments and their parameters

When the arguments of a written call fit a signature, and what they are put to. A call that fits a
signature also fits one with another parameter that can be left out, and leaves it out.

## Key results

- `bind_eq_ok_iff`: the calls that fit a signature, and their arguments by parameter
- `bind_of_rest`, `bind_of_default`: a parameter more, with an argument in order or left out
-/

namespace Querysmith.Signature

variable {α : Type} {sig : Signature} {ofDefault : Value → α} {call : Call α}

/-- An argument by name is taken when there is such a parameter that has none in order. -/
theorem checkNamed_eq_ok_iff {name : String} {u : Unit} :
    sig.checkNamed call name = .ok u ↔ sig.isGiven? call name = some false := by
  unfold checkNamed
  rcases sig.isGiven? call name with _ | _ | _ <;> simp

/-- Arguments by name are taken when each of them is. -/
theorem mapM_checkNamed_eq_ok_iff {named : List (String × α)} :
    (∃ u, named.mapM (fun e => sig.checkNamed call e.1) = .ok u) ↔
      ∀ e ∈ named, sig.isGiven? call e.1 = some false := by
  induction named with
  | nil => simp [pure, Except.pure]
  | cons e rest ih =>
    rw [List.forall_mem_cons, ← ih, ← checkNamed_eq_ok_iff (u := ())]
    simp only [List.mapM_cons, Except.bind_eq_ok_iff]
    -- all checks are made in order, so each has passed once the list has
    constructor
    · rintro ⟨_, _, he, us, hrest, _⟩
      exact ⟨he, us, hrest⟩
    · rintro ⟨he, us, hrest⟩
      exact ⟨_, (), he, us, hrest, rfl⟩

/-- The arguments by parameter; a parameter without one is left out. -/
def taken (sig : Signature) (ofDefault : Value → α) (call : Call α) : List α :=
  sig.parameters.zipIdx.filterMap fun p => argument? ofDefault call p.1 p.2

/-- A call fits when its arguments by name go to parameters without an argument in order, when
there are not too many in order, and when no parameter is left without one. -/
theorem bind_eq_ok_iff {r : List α × List α} :
    sig.bind ofDefault call = .ok r ↔
      (∀ e ∈ call.named, sig.isGiven? call e.1 = some false) ∧
      (sig.takesRest = true ∨ call.arguments.length ≤ sig.parameters.length) ∧
      sig.missing ofDefault call = [] ∧
      r = (sig.taken ofDefault call, call.arguments.drop sig.parameters.length) := by
  rw [← mapM_checkNamed_eq_ok_iff, Signature.bind]
  cases call.named.mapM (fun e => sig.checkNamed call e.1) with
  | error e => exact iff_of_false nofun (by simp)
  | ok u =>
    simp only [Except.ok_bind, Except.ok.injEq, exists_eq', true_and]
    -- the checks come one after the other: too many arguments, then a missing one
    by_cases hmany : sig.takesRest = true ∨ call.arguments.length ≤ sig.parameters.length
    · rw [if_neg (by rcases hmany with h | h <;> simp [h])]
      by_cases hmissing : sig.missing ofDefault call = []
      · rw [if_neg (by simp [hmissing])]
        simp only [pure, Except.pure, Except.ok.injEq, hmissing, hmany, true_and, taken]
        exact eq_comm
      · rw [if_pos (by simpa using hmissing)]
        exact iff_of_false nofun (by simp [hmissing])
    · rw [if_pos (by simpa using hmany)]
      exact iff_of_false nofun (by simp [hmany])

/-- No parameter is without an argument when none is missing. -/
theorem length_taken (h : sig.missing ofDefault call = []) :
    (sig.taken ofDefault call).length = sig.parameters.length := by
  rw [missing, List.map_eq_nil_iff, List.filter_eq_nil_iff] at h
  have hall : ∀ p ∈ sig.parameters.zipIdx, (argument? ofDefault call p.1 p.2).isSome = true := by
    intro p hp
    simpa [Option.isSome_iff_ne_none] using h p hp
  rw [taken, List.length_filterMap_eq_countP, List.countP_eq_length.2 hall, List.length_zipIdx]

/-- An argument by name goes to a parameter of that name. -/
theorem exists_parameter_of_isGiven? {name : String} (h : sig.isGiven? call name = some false) :
    ∃ p ∈ sig.parameters, p.name = name := by
  unfold isGiven? at h
  split at h
  · cases h
  · obtain ⟨i, hi, -⟩ := Option.map_eq_some_iff.1 h
    obtain ⟨hlt, hname, -⟩ := List.findIdx?_eq_some_iff_getElem.1 hi
    exact ⟨_, List.getElem_mem hlt, by simpa using hname⟩

/-! ## A parameter more -/

section Extends

variable {big : Signature} {last : Parameter} {args rest : List α}

/-- One more parameter at the end changes nothing for the parameters before it. -/
theorem isGiven?_of_extends (hparameters : big.parameters = sig.parameters ++ [last])
    (hobject : big.onObject = sig.onObject) {name : String} {given : Bool}
    (h : sig.isGiven? call name = some given) : big.isGiven? call name = some given := by
  unfold isGiven? at h ⊢
  rw [hobject, hparameters]
  split
  · rwa [if_pos ‹_›] at h
  · rw [if_neg ‹_›] at h
    obtain ⟨i, hi, rfl⟩ := Option.map_eq_some_iff.1 h
    simp [List.findIdx?_append, hi]

/-- A call that fits a signature fits one with a parameter more when that has an argument. -/
theorem bind_of_extends (h : sig.bind ofDefault call = .ok (args, rest))
    (hparameters : big.parameters = sig.parameters ++ [last])
    (hobject : big.onObject = sig.onObject)
    (hlength : call.arguments.length ≤ sig.parameters.length + 1) {a : α}
    (ha : argument? ofDefault call last sig.parameters.length = some a) :
    big.bind ofDefault call = .ok (args ++ [a], []) := by
  obtain ⟨hnamed, -, hmissing, hargs⟩ := bind_eq_ok_iff.1 h
  obtain ⟨rfl, -⟩ := Prod.mk.inj hargs
  -- the parameters of the one are those of the other, and the last
  have hzip : big.parameters.zipIdx =
      sig.parameters.zipIdx ++ [(last, sig.parameters.length)] := by
    rw [hparameters, List.zipIdx_append]
    simp
  have hbig : call.arguments.length ≤ big.parameters.length := by
    rw [hparameters, List.length_append]
    exact hlength
  -- the parameter that is added comes last, and takes the argument that is left
  have htaken : big.taken ofDefault call = sig.taken ofDefault call ++ [a] := by
    rw [taken, hzip, List.filterMap_append, ← taken]
    simp [ha]
  refine bind_eq_ok_iff.2 ⟨fun e he => isGiven?_of_extends hparameters hobject (hnamed e he),
    .inr hbig, ?_, ?_⟩
  · rw [missing] at hmissing ⊢
    simp [hzip, List.filter_append, hmissing, ha]
  · rw [htaken, List.drop_eq_nil_iff.2 hbig]

/-- The parameter takes what was left over. -/
theorem bind_of_rest {a : α} (h : sig.bind ofDefault call = .ok (args, [a]))
    (hparameters : big.parameters = sig.parameters ++ [last])
    (hobject : big.onObject = sig.onObject) : big.bind ofDefault call = .ok (args ++ [a], []) := by
  obtain ⟨-, hrest⟩ := Prod.mk.inj (bind_eq_ok_iff.1 h).2.2.2
  have hposition : call.arguments[sig.parameters.length]? = some a := by
    rw [← List.head?_drop, ← hrest, List.head?_cons]
  have hlength : call.arguments.length - sig.parameters.length = 1 := by
    rw [← List.length_drop, ← hrest, List.length_singleton]
  refine bind_of_extends h hparameters hobject (by omega) ?_
  rw [argument?, hposition]

/-- A parameter that nothing is given for takes its default. -/
theorem argument?_of_none {p : Parameter} {position : Nat}
    (hposition : call.arguments[position]? = none)
    (hname : (call.named.find? fun e => e.1 = p.name) = none) :
    argument? ofDefault call p position = p.default.map ofDefault := by
  simp [argument?, hposition, hname]

/-- The parameter is left out. -/
theorem bind_of_default {extra : String} {default : Value}
    (h : sig.bind ofDefault call = .ok (args, []))
    (hparameters : big.parameters = sig.parameters ++ [optional extra default])
    (hobject : big.onObject = sig.onObject) (hextra : ∀ p ∈ sig.parameters, p.name ≠ extra) :
    big.bind ofDefault call = .ok (args ++ [ofDefault default], []) := by
  obtain ⟨hnamed, -, -, hargs⟩ := bind_eq_ok_iff.1 h
  have hlength := List.drop_eq_nil_iff.1 (Prod.mk.inj hargs).2.symm
  -- nothing is given for the parameter, neither in order nor by name
  have hposition : call.arguments[sig.parameters.length]? = none := by simpa using hlength
  have hname : (call.named.find? fun e => e.1 = extra) = none := by
    rw [List.find?_eq_none]
    intro e he
    obtain ⟨p, hp, hpname⟩ := exists_parameter_of_isGiven? (hnamed e he)
    simpa [← hpname] using hextra p hp
  exact bind_of_extends h hparameters hobject (by omega) (argument?_of_none hposition hname)

end Extends

end Querysmith.Signature
