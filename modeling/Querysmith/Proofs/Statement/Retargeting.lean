import Querysmith.Proofs.Keeping
import Querysmith.Proofs.Statement.Clauses

/-!
# Builders for another server and context

No call looks at the server and the context of its builder, except to run a statement on them.
So calls on a builder that is aimed at another server or context do what they do on the original,
as long as the statements do.

## Key results

- `Step.run_mirrors`, `Step.runAll_mirrors`: calls on a retargeted builder
-/

namespace Querysmith

/-- The builder for another server and context. -/
def Builder.retarget (b : Builder) (server : Value) (context : Option ContextId) : Builder :=
  { b with server, context }

namespace Builder

variable (b : Builder) (server : Value) (context : Option ContextId)

/-- An edit of a clause, on a builder for another server and context. -/
theorem editClause_retarget (f : Family) (k : f.Content → f.Content) :
    (b.retarget server context).editClause f k = (b.editClause f k).retarget server context := by
  cases f <;> rfl

/-- A message names the server and the table. -/
theorem shown_congr {b d : Builder} (hserver : d.server = b.server) (htable : d.table = b.table) :
    d.shown = b.shown := by
  unfold Builder.shown
  rw [hserver, htable]

end Builder

/-- The scene with its builder for another server and context. -/
def Scene.retarget {ω : Type} (s : Scene ω) (server : Value) (context : Option ContextId) :
    Scene ω :=
  { s with builder := s.builder.retarget server context }

/-- From one server and context to another. -/
structure Turn where
  server : Value
  context : Option ContextId
  server' : Value
  context' : Option ContextId

/-- A scene before the turn: its world has the property. -/
structure Turn.Before {ω : Type} (turn : Turn) (J : ω → Prop) (s : Scene ω) : Prop where
  world : J s.world
  server : s.builder.server = turn.server
  context : s.builder.context = turn.context

/-- The scene after the turn. -/
def Turn.apply {ω : Type} (turn : Turn) (s : Scene ω) : Scene ω :=
  s.retarget turn.server' turn.context'

namespace Edit

/-! ## Edits side by side -/

variable {ω α β γ δ : Type} {J : ω → Prop} {turn : Turn}

/-- Two edits mirror each other when they end alike from scenes that differ by the turn: with
related values or the same error, and again in scenes that differ by the turn. -/
def Mirrors (turn : Turn) (J : ω → Prop) (V : α → β → Prop) (m : Edit ω α) (n : Edit ω β) : Prop :=
  ∀ s, turn.Before J s →
    match m s, n (turn.apply s) with
    | .ok a t, .ok b t' => V a b ∧ t' = turn.apply t ∧ turn.Before J t
    | .error e t, .error e' t' => e' = e ∧ t' = turn.apply t ∧ turn.Before J t
    | _, _ => False

variable {V : α → β → Prop} {W : γ → δ → Prop}

theorem mirrors_pure {a : α} {b : β} (h : V a b) : Mirrors turn J V (pure a) (pure b) :=
  fun _ hs => ⟨h, rfl, hs⟩

theorem mirrors_throw (e : Error) : Mirrors turn J V (throw e) (throw e) :=
  fun _ hs => ⟨rfl, rfl, hs⟩

/-- Edits that mirror each other both succeed or both fail. -/
theorem Mirrors.outcome {m : Edit ω α} {n : Edit ω β} (h : Mirrors turn J V m n) {s : Scene ω}
    (hs : turn.Before J s) :
    (∃ a b t, m s = .ok a t ∧ n (turn.apply s) = .ok b (turn.apply t) ∧ V a b ∧
      turn.Before J t) ∨
    ∃ e t, m s = .error e t ∧ n (turn.apply s) = .error e (turn.apply t) ∧ turn.Before J t := by
  have hmn := h s hs
  revert hmn
  -- results of different kinds do not mirror each other
  cases m s <;> cases n (turn.apply s)
  case ok.ok a t b t' =>
    rintro ⟨hab, rfl, ht⟩
    exact .inl ⟨a, b, t, rfl, rfl, hab, ht⟩
  case ok.error => exact False.elim
  case error.ok => exact False.elim
  case error.error e t e' t' =>
    rintro ⟨rfl, rfl, ht⟩
    exact .inr ⟨e', t, rfl, rfl, ht⟩

/-- Edits mirror each other step by step. -/
theorem Mirrors.bind {m : Edit ω α} {n : Edit ω β} {f : α → Edit ω γ} {g : β → Edit ω δ}
    (h : Mirrors turn J V m n) (hnext : ∀ a b, V a b → Mirrors turn J W (f a) (g b)) :
    Mirrors turn J W (m >>= f) (n >>= g) := by
  intro s hs
  rcases h.outcome hs with ⟨a, b, t, hm, hn, hab, ht⟩ | ⟨e, t, hm, hn, ht⟩
  · rw [EStateM.bind_of_ok hm, EStateM.bind_of_ok hn]
    exact hnext a b hab t ht
  · rw [EStateM.bind_of_error hm, EStateM.bind_of_error hn]
    exact ⟨rfl, rfl, ht⟩

/-- Reading the builder gives the one and its image. -/
theorem mirrors_get :
    Mirrors (ω := ω) turn J (fun s s' => s' = turn.apply s ∧ turn.Before J s) get get :=
  fun _ hs => ⟨⟨rfl, hs⟩, rfl, hs⟩

theorem mirrors_ofExcept (x : Except Error α) :
    Mirrors (ω := ω) turn J Eq (ofExcept x) (ofExcept x) := by
  cases x with
  | ok a => exact mirrors_pure rfl
  | error e => exact mirrors_throw e

theorem Mirrors.mono {V' : α → β → Prop} {m : Edit ω α} {n : Edit ω β}
    (h : Mirrors turn J V m n) (hV : ∀ a b, V a b → V' a b) : Mirrors turn J V' m n := by
  intro s hs
  rcases h.outcome hs with ⟨a, b, t, hm, hn, hab, ht⟩ | ⟨e, t, hm, hn, ht⟩
  · rw [hm, hn]
    exact ⟨hV a b hab, rfl, ht⟩
  · rw [hm, hn]
    exact ⟨rfl, rfl, ht⟩

/-- An edit of clauses is the same on a retargeted builder. -/
theorem mirrors_change {f : Builder → Builder}
    (h : ∀ b server context, f (b.retarget server context) = (f b).retarget server context) :
    Mirrors (ω := ω) turn J Eq (change f) (change f) := by
  intro s hs
  -- aiming a builder at its own server and context changes nothing
  have hself : f s.builder = (f s.builder).retarget s.builder.server s.builder.context :=
    h s.builder s.builder.server s.builder.context
  have hserver := congrArg Builder.server hself
  have hcontext := congrArg Builder.context hself
  refine ⟨rfl, ?_, hs.world, hserver.trans hs.server, hcontext.trans hs.context⟩
  show Scene.mk (f _) _ = Scene.mk _ _
  rw [Turn.apply, Scene.retarget, h]

/-- A block on a builder of its own: the builders that are made differ by the turn. -/
theorem Mirrors.aside {m : Edit ω α} {n : Edit ω β} (h : Mirrors turn J V m n) :
    Mirrors turn J (fun b d => d = b.retarget turn.server' turn.context') (aside m) (aside n) := by
  intro s hs
  have hscratch : turn.Before J { s with builder := s.builder.scratch } :=
    ⟨hs.world, hs.server, hs.context⟩
  -- an empty builder after the turn is the turned empty builder
  have hturned : ({ turn.apply s with builder := (turn.apply s).builder.scratch } : Scene ω) =
      turn.apply { s with builder := s.builder.scratch } := rfl
  rcases h.outcome hscratch with ⟨a, b, t, hm, hn, -, ht⟩ | ⟨e, t, hm, hn, ht⟩
  · simp only [Edit.aside, hturned, hm, hn]
    exact ⟨rfl, rfl, ht.world, hs.server, hs.context⟩
  · simp only [Edit.aside, hturned, hm, hn, true_and]
    exact ⟨rfl, ht.world, hs.server, hs.context⟩

/-- The statements of two edits that mirror each other are equal. -/
theorem Mirrors.substatement {m : Edit ω α} {n : Edit ω β} (h : Mirrors turn J V m n) :
    Mirrors turn J Eq (substatement m) (substatement n) := by
  refine h.aside.bind ?_
  rintro b _ rfl
  exact mirrors_ofExcept b.compile

/-- What a call replies. Only the server of the builder can be told from the reply. -/
abbrev Alike (turn : Turn) (r r' : Reply) : Prop := turn.server' = turn.server → r' = r

/-- An edit of clauses that replies with the builder. -/
theorem mirrors_change_itself {f : Builder → Builder}
    (h : ∀ b server context, f (b.retarget server context) = (f b).retarget server context) :
    Mirrors (ω := ω) turn J (Alike turn) (do change f; pure Reply.itself)
      (do change f; pure Reply.itself) :=
  (mirrors_change h).bind fun _ _ _ => mirrors_pure fun _ => rfl

end Edit

section Run

open Edit

variable {τ ω : Type} {J : ω → Prop} {turn : Turn}

/-- Statements do on builders after the turn what they do before it, and keep the property. -/
def Turn.Mirrored (turn : Turn) (J : ω → Prop) (finish : τ → Builder → EStateM Error ω Reply) :
    Prop :=
  ∀ call b w, b.server = turn.server → b.context = turn.context → J w →
    finish call (b.retarget turn.server' turn.context') w = finish call b w ∧
      J (finish call b w).state

variable {finish : τ → Builder → EStateM Error ω Reply}

/-- What is read off a builder. -/
private theorem mirrors_read (reading : Reading) :
    Mirrors (ω := ω) turn J (Alike turn) ((Step.read reading).run finish)
      ((Step.read reading).run finish) := by
  rw [Step.run]
  refine mirrors_get.bind ?_
  rintro s _ ⟨rfl, hs⟩
  -- a reading that does not look at the server is the same on both sides
  have hsame : ∀ {x y : Except Error Reply}, y = x →
      Mirrors (ω := ω) turn J (Alike turn) (ofExcept x) (ofExcept y) := by
    intro x y hxy
    rw [hxy]
    exact (mirrors_ofExcept x).mono fun _ _ h _ => h.symm
  have hok : ∀ r r' : Reply, Alike turn r r' →
      Mirrors (ω := ω) turn J (Alike turn) (ofExcept (.ok r)) (ofExcept (.ok r')) :=
    fun _ _ h => mirrors_pure h
  -- only the server and the text of the builder show where it is sent
  cases reading with
  | server =>
    exact hok (.value s.builder.server) (.value turn.server') fun h =>
      congrArg Reply.value (h.trans hs.server.symm)
  | shown =>
    exact hok (.text s.builder.shown) (.text (turn.apply s).builder.shown) fun h =>
      congrArg Reply.text (Builder.shown_congr (h.trans hs.server.symm) rfl)
  | compile => exact hsame rfl
  | compileCount => exact hsame rfl
  | compileUpdate data => exact hsame rfl
  | compileDelete => exact hsame rfl
  | compileInsert rows verb => exact hsame rfl
  | sql => exact hsame rfl
  | bindings => exact hsame rfl

/-- A statement acts on the world and leaves the builder as it is. -/
private theorem mirrors_finish (h : turn.Mirrored J finish) (call : τ) :
    Mirrors turn J (Alike turn) ((Step.finish call).run finish)
      ((Step.finish call).run finish) := by
  rw [Step.run]
  refine mirrors_get.bind ?_
  rintro s _ ⟨rfl, hs⟩ u hu
  -- the terminal call is assumed to mirror itself
  have hmirror := fun w hw => h call s.builder w hs.server hs.context hw
  obtain ⟨hsame, hkept⟩ := hmirror u.world hu.world
  have hsame : finish call (turn.apply s).builder (turn.apply u).world =
      finish call s.builder u.world := hsame
  simp only [inWorld, hsame]
  cases hr : finish call s.builder u.world with
  | ok r w =>
    rw [hr] at hkept
    exact ⟨fun _ => rfl, rfl, hkept, hu.server, hu.context⟩
  | error e w =>
    rw [hr] at hkept
    exact ⟨rfl, rfl, hkept, hu.server, hu.context⟩

/-- What a call finds out is the same after the turn, as are the blocks that it runs for it. -/
private theorem mirrors_of_prepares {step : Step τ} {α : Type} {prepare : Edit ω α}
    (h : step.Prepares finish prepare)
    (hblocks : ∀ block : Operand τ, sizeOf block < sizeOf step →
      Mirrors turn J Eq (block.call finish) (block.call finish)) :
    Mirrors turn J Eq prepare prepare := by
  cases h with
  | ofArguments x => exact mirrors_ofExcept x
  -- the block runs on an empty builder for the same server
  | ofBlock block read hsize hread =>
    refine (hblocks block hsize).aside.bind ?_
    rintro d _ rfl
    rw [Builder.retarget, hread d turn.server' turn.context']
    exact mirrors_ofExcept (read d)

/-- A step that changes a clause last mirrors itself, if the blocks in it do. -/
private theorem mirrors_of_editsLast {step : Step τ} {f : Family}
    (h : step.EditsLast finish f (step.run finish))
    (hblocks : ∀ block : Operand τ, sizeOf block < sizeOf step →
      Mirrors turn J Eq (block.call finish) (block.call finish)) :
    Mirrors turn J (Alike turn) (step.run finish) (step.run finish) := by
  obtain ⟨prepare, hprepare, hrun⟩ := h
  rw [hrun]
  refine (mirrors_of_prepares hprepare hblocks).bind ?_
  rintro k _ rfl
  exact mirrors_change_itself fun b _ _ => b.editClause_retarget _ _ f k

/-! ## Calls of any depth -/

mutual
/-- A call does on a retargeted builder what it does on the original. -/
theorem Step.run_mirrors (h : turn.Mirrored J finish) (step : Step τ) :
    Mirrors turn J (Alike turn) (step.run finish) (step.run finish) := by
  -- calls of no family: those that run others, that read, that end the chain
  cases hf : step.family? with
  | none =>
    cases step with
    | «when» condition block otherwise =>
      rw [Step.run]
      split
      · exact (Operand.call_mirrors h block).bind fun _ _ _ => mirrors_pure fun _ => rfl
      · exact (Operand.callIfGiven_mirrors h otherwise).bind fun _ _ _ => mirrors_pure fun _ => rfl
    | read reading => exact mirrors_read reading
    | finish call => exact mirrors_finish h call
    | fail cause =>
      rw [Step.run]
      exact mirrors_throw cause
    | _ => cases hf
  | some f =>
    cases hfirst : step.editsFirst with
    | false =>
      exact mirrors_of_editsLast (step.run_editsLast hf hfirst) fun block hsize =>
        Operand.call_mirrors h block
    | true =>
      cases step with
      -- these two change the columns before they are done
      | select columns =>
        rw [Step.run]
        exact (mirrors_change fun _ _ _ => rfl).bind fun _ _ _ =>
          (Operand.selectAll_mirrors h columns).bind fun _ _ _ => mirrors_pure fun _ => rfl
      | selectRaw expression bindings =>
        rw [Step.run]
        refine (mirrors_change fun _ _ _ => rfl).bind fun _ _ _ => (mirrors_ofExcept _).bind ?_
        rintro values _ rfl
        exact mirrors_change_itself fun _ _ _ => rfl
      | _ => cases hfirst
termination_by sizeOf step

/-- A block that is called mirrors itself. -/
theorem Operand.call_mirrors (h : turn.Mirrored J finish) : (block : Operand τ) →
    Mirrors turn J Eq (block.call finish) (block.call finish)
  | .value v => by
    rw [Operand.call]
    exact mirrors_throw _
  | .block steps => by
    rw [Operand.call]
    exact (Step.runAll_mirrors h steps).bind fun _ _ _ => mirrors_pure rfl
termination_by block => sizeOf block

/-- A block that may be missing mirrors itself. -/
theorem Operand.callIfGiven_mirrors (h : turn.Mirrored J finish) : (block : Operand τ) →
    Mirrors turn J Eq (block.callIfGiven finish) (block.callIfGiven finish)
  | .value v => by
    cases v with
    | null => exact mirrors_pure rfl
    | _ => exact mirrors_throw _
  | .block steps => by
    rw [Operand.callIfGiven]
    exact (Step.runAll_mirrors h steps).bind fun _ _ _ => mirrors_pure rfl
termination_by block => sizeOf block

/-- Columns that are selected one by one mirror themselves. -/
theorem Operand.selectAll_mirrors (h : turn.Mirrored J finish) : (columns : List (Operand τ)) →
    Mirrors turn J Eq (Operand.selectAll finish columns) (Operand.selectAll finish columns)
  | [] => by
    rw [Operand.selectAll]
    exact mirrors_pure rfl
  | .value v :: rest => by
    rw [Operand.selectAll]
    exact (mirrors_change fun _ _ _ => rfl).bind fun _ _ _ => Operand.selectAll_mirrors h rest
  -- the subquery compiles to the same statement on both sides
  | .block steps :: rest => by
    rw [Operand.selectAll]
    refine (Step.runAll_mirrors h steps).substatement.bind ?_
    rintro statement _ rfl
    exact (mirrors_change fun _ _ _ => rfl).bind fun _ _ _ => Operand.selectAll_mirrors h rest
termination_by columns => sizeOf columns

/-- Calls do on a retargeted builder what they do on the original. -/
theorem Step.runAll_mirrors (h : turn.Mirrored J finish) : (steps : List (Step τ)) →
    Mirrors turn J (Alike turn) (Step.runAll finish steps) (Step.runAll finish steps)
  | [] => by
    rw [Step.runAll]
    exact mirrors_pure fun _ => rfl
  | [step] => by
    rw [Step.runAll]
    exact Step.run_mirrors h step
  | step :: next :: rest => by
    show Mirrors turn J _ (step.run finish >>= fun _ => Step.runAll finish (next :: rest))
      (step.run finish >>= fun _ => Step.runAll finish (next :: rest))
    exact (Step.run_mirrors h step).bind fun _ _ _ => Step.runAll_mirrors h (next :: rest)
termination_by steps => sizeOf steps
end

end Run

end Querysmith
