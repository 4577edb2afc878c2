import Querysmith.Proofs.Keeping
import Querysmith.Proofs.Statement.Clauses

/-!
# What calls on a builder keep

A call on a builder acts on the world through the statements that it runs, and on nothing of it
otherwise. No call changes the context on which a builder runs its statements, and blocks run on
builders for the same context. So whatever statements on that context keep is kept by all calls.

## Key results

- `Step.keeps_run`, `Step.keeps_runAll`: calls keep what the statements of their builder keep
-/

namespace Querysmith

open EStateM Edit

section Run

variable {τ ω α : Type} {J : ω → Prop} {given : Option ContextId}

/-- The world has the property, and the builder runs its statements on the given context. -/
def Scene.Holds (J : ω → Prop) (given : Option ContextId) (s : Scene ω) : Prop :=
  J s.world ∧ s.builder.context = given

/-- Statements of builders for the given context keep the property. -/
def Finishes (J : ω → Prop) (given : Option ContextId)
    (finish : τ → Builder → EStateM Error ω Reply) : Prop :=
  ∀ call b, b.context = given → Keeps J (finish call b)

/-! ## Parts of calls -/

/-- A change of the builder that leaves its context alone. -/
private theorem keeps_change {f : Builder → Builder} (h : ∀ b, (f b).context = b.context) :
    Keeps (Scene.Holds J given) (change f : Edit ω Unit) :=
  keeps_modify fun s hs => ⟨hs.1, (h s.builder).trans hs.2⟩

/-- A call that only changes the builder. -/
private theorem keeps_change_itself {f : Builder → Builder} (h : ∀ b, (f b).context = b.context) :
    Keeps (Scene.Holds J given) (do change f; pure Reply.itself : Edit ω Reply) :=
  (keeps_change h).bind fun _ => keeps_pure Reply.itself

/-- A block on a builder of its own acts on the same world. -/
private theorem keeps_aside {block : Edit ω α} (h : Keeps (Scene.Holds J given) block) :
    Keeps (Scene.Holds J given) (aside block) := by
  intro s hs
  have hblock := h { s with builder := s.builder.scratch } ⟨hs.1, hs.2⟩
  simp only [aside]
  split
  · rename_i t ht
    rw [ht] at hblock
    exact ⟨⟨hblock.1.1, hs.2⟩, trivial⟩
  · rename_i t ht
    rw [ht] at hblock
    exact ⟨hblock.1, hs.2⟩

/-- A block that is compiled aside. -/
private theorem keeps_substatement {block : Edit ω α} (h : Keeps (Scene.Holds J given) block) :
    Keeps (Scene.Holds J given) (substatement block) :=
  (keeps_aside h).bind fun _ => keeps_ofExcept _

/-- A statement acts on the world and leaves the builder as it is. -/
private theorem keeps_inWorld {act : EStateM Error ω α} (h : Keeps J act) :
    Keeps (Scene.Holds J given) (inWorld act) := by
  intro s hs
  have hact := h s.world hs.1
  simp only [inWorld]
  split
  · rename_i t ht
    rw [ht] at hact
    exact ⟨⟨hact.1, hs.2⟩, trivial⟩
  · rename_i t ht
    rw [ht] at hact
    exact ⟨hact, hs.2⟩

variable {finish : τ → Builder → EStateM Error ω Reply}

/-- A call finds out what to do by means of its blocks alone. -/
private theorem keeps_of_prepares {step : Step τ} {prepare : Edit ω α}
    (h : step.Prepares finish prepare)
    (hblocks : ∀ block : Operand τ, sizeOf block < sizeOf step →
      Keeps (Scene.Holds J given) (block.call finish)) :
    Keeps (Scene.Holds J given) prepare := by
  cases h with
  | ofArguments x => exact keeps_ofExcept x
  | ofBlock block _ hsize =>
    exact (keeps_aside (hblocks block hsize)).bind fun _ => keeps_ofExcept _

/-- A step that edits the builder after its blocks. -/
private theorem keeps_of_editsLast {step : Step τ} {f : Family}
    (h : step.EditsLast finish f (step.run finish))
    (hblocks : ∀ block : Operand τ, sizeOf block < sizeOf step →
      Keeps (Scene.Holds J given) (block.call finish)) :
    Keeps (Scene.Holds J given) (step.run finish) := by
  obtain ⟨prepare, hprepare, hrun⟩ := h
  rw [hrun]
  exact (keeps_of_prepares hprepare hblocks).bind fun k =>
    keeps_change_itself fun b => b.context_editClause f k

/-! ## Calls of any depth -/

mutual
/-- A call keeps what the statements of its builder keep. -/
theorem Step.keeps_run (h : Finishes J given finish) (step : Step τ) :
    Keeps (Scene.Holds J given) (step.run finish) := by
  cases hf : step.family? with
  | none =>
    cases step with
    | «when» condition block otherwise =>
      rw [Step.run]
      split
      · exact (Operand.keeps_call h block).bind fun _ => keeps_pure _
      · exact (Operand.keeps_callIfGiven h otherwise).bind fun _ => keeps_pure _
    | read reading =>
      rw [Step.run]
      exact gives_get.bind fun _ _ => keeps_ofExcept _
    | finish call =>
      rw [Step.run]
      exact gives_get.bind fun s hs => keeps_inWorld (h call s.builder hs.2)
    | fail cause =>
      rw [Step.run]
      exact gives_throw cause
    | _ => cases hf
  | some f =>
    cases hfirst : step.editsFirst with
    | false =>
      -- the blocks of the call are smaller than the call
      exact keeps_of_editsLast (step.run_editsLast hf hfirst) fun block hsize =>
        Operand.keeps_call h block
    | true =>
      cases step with
      -- the columns may be subqueries, which are run like blocks
      | select columns =>
        rw [Step.run]
        exact Keeps.bind (keeps_change fun _ => rfl) fun _ =>
          (Operand.keeps_selectAll h columns).bind fun _ => keeps_pure _
      | selectRaw expression bindings =>
        rw [Step.run]
        exact Keeps.bind (keeps_change fun _ => rfl) fun _ => (keeps_ofExcept _).bind fun _ =>
          keeps_change_itself fun _ => rfl
      | _ => cases hfirst
termination_by sizeOf step

/-- A block runs step by step. -/
theorem Operand.keeps_call (h : Finishes J given finish) : (block : Operand τ) →
    Keeps (Scene.Holds J given) (block.call finish)
  | .value v => by
    rw [Operand.call]
    exact gives_throw _
  | .block steps => by
    rw [Operand.call]
    exact (Step.keeps_runAll h steps).bind fun _ => keeps_pure _
termination_by block => sizeOf block

/-- A block that may be left out. -/
theorem Operand.keeps_callIfGiven (h : Finishes J given finish) : (block : Operand τ) →
    Keeps (Scene.Holds J given) (block.callIfGiven finish)
  | .value v => by
    cases v with
    | null => exact keeps_pure _
    | _ => exact gives_throw _
  | .block steps => by
    rw [Operand.callIfGiven]
    exact (Step.keeps_runAll h steps).bind fun _ => keeps_pure _
termination_by block => sizeOf block

/-- Columns, some of them blocks. -/
theorem Operand.keeps_selectAll (h : Finishes J given finish) : (columns : List (Operand τ)) →
    Keeps (Scene.Holds J given) (Operand.selectAll finish columns)
  | [] => by
    rw [Operand.selectAll]
    exact keeps_pure _
  | .value v :: rest => by
    rw [Operand.selectAll]
    exact Keeps.bind (keeps_change fun _ => rfl) fun _ => Operand.keeps_selectAll h rest
  | .block steps :: rest => by
    rw [Operand.selectAll]
    exact (keeps_substatement (Step.keeps_runAll h steps)).bind fun _ =>
      Keeps.bind (keeps_change fun _ => rfl) fun _ => Operand.keeps_selectAll h rest
termination_by columns => sizeOf columns

/-- Calls keep what the statements of their builder keep. -/
theorem Step.keeps_runAll (h : Finishes J given finish) : (steps : List (Step τ)) →
    Keeps (Scene.Holds J given) (Step.runAll finish steps)
  | [] => by
    rw [Step.runAll]
    exact keeps_pure _
  | [step] => by
    rw [Step.runAll]
    exact Step.keeps_run h step
  | step :: next :: rest => by
    show Keeps _ (step.run finish >>= fun _ => Step.runAll finish (next :: rest))
    exact (Step.keeps_run h step).bind fun _ => Step.keeps_runAll h (next :: rest)
termination_by steps => sizeOf steps
end

end Run

end Querysmith
