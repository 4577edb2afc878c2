import Querysmith.Proofs.Statement.Retargeting
import Querysmith.Proofs.Statement.Runs

/-!
# Calls on different clauses do not interfere

The calls that build a statement fall into families, one for each clause. A call edits the clause
of its own family by a function that depends on the call alone, or fails on every builder: even
the blocks that it runs build on builders of their own and do not see the clauses that are there.
So the clauses that a sequence of calls leaves depend only on the order of the calls within each
family, and the statements are compiled from the clauses.

## Key results

- `Step.run_actsOn`: a call edits the clause of its family, or fails on every builder
- `runAll_clause`: a clause is what the calls of its family made of it
- `compiled_alike_of_same_calls`: the order of calls on different clauses does not matter
-/

namespace Querysmith

namespace Builder

/-! ## Builders and their clauses -/

/-- The clauses, the server and the context are all that there is to a builder. -/
theorem eq_retarget_of_clause_eq {b d : Builder} (h : ∀ f, d.clause f = b.clause f) :
    d = b.retarget d.server d.context := by
  -- all fields but the server and the context are clauses
  have hcolumns : (d.columns, d.columnBindings) = (b.columns, b.columnBindings) := h .columns
  obtain ⟨hcolumns, hbindings⟩ := Prod.mk.inj hcolumns
  have htable : d.table = b.table := h .table
  have hdistinct : d.distinct = b.distinct := h .distinct
  have hassignments : d.assignments = b.assignments := h .assignments
  have hwheres : d.wheres = b.wheres := h .wheres
  have hjoins : d.joins = b.joins := h .joins
  have hgroups : d.groups = b.groups := h .groups
  have hhavings : d.havings = b.havings := h .havings
  have horders : d.orders = b.orders := h .orders
  have hlimit : d.limit = b.limit := h .limit
  have hoffset : d.offset = b.offset := h .offset
  cases d
  cases b
  simp_all [retarget]

/-- A builder on which no call has been made. -/
def IsFresh (b : Builder) : Prop := b = b.scratch

/-- Two builders from which every statement compiles to the same text and the same values, or
fails alike. -/
structure CompilesAs (b d : Builder) : Prop where
  compile : d.compile = b.compile
  compileCount : d.compileCount = b.compileCount
  compileUpdate : ∀ data, d.compileUpdate data = b.compileUpdate data
  compileDelete : d.compileDelete = b.compileDelete
  compileInsert : ∀ rows verb, d.compileInsert rows verb = b.compileInsert rows verb

/-- The server and the context do not show in the statements. -/
theorem compilesAs_retarget (b : Builder) (server : Value) (context : Option ContextId) :
    b.CompilesAs (b.retarget server context) :=
  ⟨rfl, rfl, fun _ => rfl, rfl, fun _ _ => rfl⟩

end Builder

namespace Edit

/-! ## Edits that see one clause -/

variable {α β γ : Type} {f : Family}

/-- The edit fails on every builder. -/
def Fails (m : Edit Unit α) : Prop := ∃ e, ∀ s, ∃ t, m s = .error e t

/-- The edit succeeds on every builder and edits one clause by a function of its own. -/
def EditsTo (f : Family) (a : α) (m : Edit Unit α) : Prop :=
  ∃ k : f.Content → f.Content, ∀ s, m s = .ok a { s with builder := s.builder.editClause f k }

/-- The edit acts on one clause alone: whether it succeeds and what it does to the clause depend
on nothing that is in the builder. -/
def ActsOn (f : Family) (a : α) (m : Edit Unit α) : Prop := Fails m ∨ EditsTo f a m

theorem fails_throw (e : Error) : Fails (throw e : Edit Unit α) := ⟨e, fun s => ⟨s, rfl⟩⟩

/-- Once an edit fails, what comes after it is not reached. -/
theorem Fails.bind {m : Edit Unit α} (h : Fails m) (next : α → Edit Unit β) :
    Fails (m >>= next) := by
  obtain ⟨e, he⟩ := h
  refine ⟨e, fun s => ?_⟩
  obtain ⟨t, ht⟩ := he s
  exact ⟨t, EStateM.bind_of_error ht next⟩

/-- A change of a clause acts on that clause. -/
theorem actsOn_change (f : Family) {g : Builder → Builder} (k : f.Content → f.Content)
    (h : ∀ b, g b = b.editClause f k) : ActsOn f () (change g : Edit Unit Unit) :=
  .inr ⟨k, fun s => congrArg (EStateM.Result.ok ()) (congrArg₂ Scene.mk (h s.builder) rfl)⟩

/-- One edit after the other of the same clause. -/
theorem ActsOn.bind {a : α} {b : β} {m : Edit Unit α} {next : α → Edit Unit β}
    (h : ActsOn f a m) (hnext : ActsOn f b (next a)) : ActsOn f b (m >>= next) := by
  -- the first edit fails on every builder, or edits the clause on every builder
  rcases h with h | ⟨k, hk⟩
  · exact .inl (h.bind next)
  · have hbind : ∀ s, (m >>= next) s =
        next a { s with builder := s.builder.editClause f k } :=
      fun s => EStateM.bind_of_ok (hk s) next
    -- the second edit sees the builder after the first one
    rcases hnext with ⟨e, he⟩ | ⟨l, hl⟩
    · refine .inl ⟨e, fun s => ?_⟩
      rw [hbind]
      exact he _
    · refine .inr ⟨l ∘ k, fun s => ?_⟩
      rw [hbind, hl, Builder.editClause_editClause]

theorem actsOn_pure (f : Family) (a : α) : ActsOn f a (pure a : Edit Unit α) :=
  .inr ⟨id, fun s => by cases f <;> rfl⟩

/-- An edit that goes on with the value of what may fail. -/
theorem actsOn_ofExcept {b : β} {next : α → Edit Unit β} (x : Except Error α)
    (h : ∀ a, ActsOn f b (next a)) : ActsOn f b (ofExcept x >>= next) := by
  cases x with
  | error e => exact .inl ((fails_throw e).bind next)
  | ok a => exact (actsOn_pure f a).bind (h a)

/-- An edit of one clause that replies with the builder. -/
theorem actsOn_change_itself {g : Builder → Builder} (k : f.Content → f.Content)
    (h : ∀ b, g b = b.editClause f k) :
    ActsOn f .itself (do change g; pure Reply.itself : Edit Unit Reply) :=
  (actsOn_change f k h).bind (actsOn_pure f Reply.itself)

/-- The edit builds the same clauses whatever the server and the context of its builder are. -/
def IsBlind (m : Edit Unit α) : Prop :=
  ∀ turn, Mirrors turn (fun _ => True) (fun _ _ => True) m m

/-- A block builds the same on every builder, but for the server and the context. -/
theorem aside_outcome {m : Edit Unit α} (h : IsBlind m) :
    Fails (aside m) ∨ ∃ d : Builder, ∀ s,
      aside m s = .ok (d.retarget s.builder.server s.builder.context) s := by
  -- what the block does is read off its run on one builder
  have hfrom : ∀ s : Scene Unit, ∃ turn : Turn, turn.Before (fun _ => True) ⟨({} : Builder), ()⟩ ∧
      turn.apply ⟨({} : Builder), ()⟩ = { s with builder := s.builder.scratch } ∧
      turn.server' = s.builder.server ∧ turn.context' = s.builder.context := fun s =>
    ⟨⟨({} : Builder).server, ({} : Builder).context, s.builder.server, s.builder.context⟩,
      ⟨trivial, rfl, rfl⟩, rfl, rfl, rfl⟩
  cases hm : m ⟨({} : Builder), ()⟩ with
  | error e t =>
    refine .inl ⟨e, fun s => ?_⟩
    obtain ⟨turn, hbefore, happly, -, -⟩ := hfrom s
    rcases (h turn).outcome hbefore with ⟨_, _, _, hok, -⟩ | ⟨_, u, herror, hs, -⟩
    · cases hm.symm.trans hok
    · cases hm.symm.trans herror
      rw [happly] at hs
      exact ⟨_, by simp only [aside, hs]; rfl⟩
  | ok a t =>
    refine .inr ⟨t.builder, fun s => ?_⟩
    obtain ⟨turn, hbefore, happly, hserver, hcontext⟩ := hfrom s
    -- the block builds the same, for another server and context
    rcases (h turn).outcome hbefore with ⟨_, b, u, hok, hs, -, -⟩ | ⟨_, _, herror, -⟩
    · cases hm.symm.trans hok
      rw [happly] at hs
      simp only [aside, hs, ← hserver, ← hcontext]
      rfl
    · cases hm.symm.trans herror

/-- An edit that goes on with a clause that a block has built. -/
theorem actsOn_aside {b : β} {m : Edit Unit α} (h : IsBlind m) {next : Builder → Edit Unit β}
    (hsame : ∀ d server context, next (d.retarget server context) = next d)
    (hnext : ∀ d, ActsOn f b (next d)) : ActsOn f b (aside m >>= next) := by
  rcases aside_outcome h with hfails | ⟨d, hd⟩
  · exact .inl (hfails.bind next)
  · have hbind : ∀ s, (aside m >>= next) s = next d s := fun s => by
      rw [EStateM.bind_of_ok (hd s), hsame]
    rcases hnext d with ⟨e, he⟩ | ⟨k, hk⟩
    · exact .inl ⟨e, fun s => by rw [hbind]; exact he s⟩
    · exact .inr ⟨k, fun s => by rw [hbind, hk]⟩

/-- An edit that goes on with the statement of a block. -/
theorem actsOn_substatement {b : β} {m : Edit Unit α} (h : IsBlind m)
    {next : Fragment → Edit Unit β}
    (hnext : ∀ statement, ActsOn f b (next statement)) :
    ActsOn f b (substatement m >>= next) := by
  have hassoc : (substatement m >>= next) =
      (aside m >>= fun d => ofExcept d.compile >>= next) := by
    rw [substatement, bind_assoc]
  rw [hassoc]
  exact actsOn_aside h (fun _ _ _ => rfl) fun d => actsOn_ofExcept d.compile hnext

end Edit

open Edit

/-! ## Single calls -/

/-- Without statements to run, nothing depends on where they would run. -/
theorem mirrored_noWorld (turn : Turn) : turn.Mirrored (fun _ => True) noWorld :=
  fun call => call.elim

/-- A block does not look at the builder around it. -/
private theorem isBlind_call (block : Operand Empty) : IsBlind (block.call noWorld) := fun turn =>
  (Operand.call_mirrors (mirrored_noWorld turn) block).mono fun _ _ _ => trivial

/-- Calls on an empty builder do not look at the builder around it. -/
private theorem isBlind_runAll (steps : List (Step Empty)) :
    IsBlind (Step.runAll noWorld steps) := fun turn =>
  (Step.runAll_mirrors (mirrored_noWorld turn) steps).mono fun _ _ _ => trivial

/-- Added columns edit the columns alone. -/
theorem Operand.selectAll_actsOn (columns : List (Operand Empty)) :
    ActsOn .columns () (Operand.selectAll noWorld columns) := by
  induction columns with
  | nil =>
    rw [Operand.selectAll]
    exact actsOn_pure _ _
  | cons column rest ih =>
    cases column with
    | value v =>
      rw [Operand.selectAll]
      exact (actsOn_change .columns (fun c => (c.1 ++ [v], c.2)) fun _ => rfl).bind ih
    | block steps =>
      rw [Operand.selectAll]
      -- the subquery does not look at the builder
      refine actsOn_substatement (isBlind_runAll steps) fun statement => ?_
      refine (actsOn_change .columns (fun c => (c.1 ++ [.str ("(" ++ statement.sql ++ ")" ++ "")],
        c.2 ++ statement.bindings)) fun _ => rfl).bind ?_
      exact ih

/-- What a call finds out does not depend on the clauses, nor whether it fails at it. -/
private theorem actsOn_of_editsLast {f : Family} {step : Step Empty}
    (h : step.EditsLast noWorld f (step.run noWorld)) : ActsOn f .itself (step.run noWorld) := by
  obtain ⟨prepare, hprepare, hrun⟩ := h
  have hedit : ∀ k : f.Content → f.Content,
      ActsOn f .itself (do change (·.editClause f k); pure Reply.itself) := fun k =>
    actsOn_change_itself k fun _ => rfl
  rw [hrun, thenEdit]
  -- what is prepared are arguments, or a block run on an empty builder
  cases hprepare with
  | ofArguments x => exact actsOn_ofExcept x hedit
  | ofBlock block read _ hread =>
    rw [bind_assoc]
    refine actsOn_aside (isBlind_call block) (fun d server context => ?_) fun d =>
      actsOn_ofExcept (read d) hedit
    rw [Builder.retarget, hread]

/-- A call edits the clause of its family, or fails on every builder. -/
theorem Step.run_actsOn {f : Family} (step : Step Empty) (h : step.family? = some f) :
    ActsOn f .itself (step.run noWorld) := by
  cases hfirst : step.editsFirst with
  | false => exact actsOn_of_editsLast (step.run_editsLast h hfirst)
  | true =>
    cases step with
    -- dropping the columns and adding new ones are edits of the same clause
    | select columns =>
      cases h
      rw [Step.run]
      exact (actsOn_change .columns (fun _ => ([], [])) fun _ => rfl).bind
        ((Operand.selectAll_actsOn columns).bind (actsOn_pure _ _))
    | selectRaw expression bindings =>
      cases h
      rw [Step.run]
      refine (actsOn_change .columns (fun c => (c.1 ++ [expression], c.2)) fun _ => rfl).bind ?_
      exact actsOn_ofExcept _ fun values =>
        actsOn_change_itself (fun c => (c.1, c.2 ++ values)) fun _ => rfl
    | _ => cases hfirst

/-! ## Sequences of calls -/

section Sequences

variable {τ ω : Type} {finish : τ → Builder → EStateM Error ω Reply}

/-- A sequence goes on where its first call has stopped. -/
theorem Step.runAll_cons_state {step : Step τ} {s u : Scene ω} {r : Reply}
    (h : step.run finish s = .ok r u) (rest : List (Step τ)) :
    (∀ r' t, Step.runAll finish rest u = .ok r' t →
      ∃ r'', Step.runAll finish (step :: rest) s = .ok r'' t) ∧
    ∀ r' t, Step.runAll finish (step :: rest) s = .ok r' t →
      ∃ r'', Step.runAll finish rest u = .ok r'' t := by
  -- replies of the last call are told apart, states are the same
  cases rest with
  | nil =>
    have hone : Step.runAll finish [step] s = .ok r u := by rw [Step.runAll, h]
    have hnone : Step.runAll finish [] u = .ok .nothing u := by rw [Step.runAll]; rfl
    rw [hone, hnone]
    refine ⟨?_, ?_⟩
    · rintro _ _ ⟨⟩
      exact ⟨r, rfl⟩
    · rintro _ _ ⟨⟩
      exact ⟨.nothing, rfl⟩
  | cons next rest =>
    have hmore :
        Step.runAll finish (step :: next :: rest) s = Step.runAll finish (next :: rest) u :=
      EStateM.bind_of_ok h fun _ => Step.runAll finish (next :: rest)
    rw [hmore]
    exact ⟨fun r' t h => ⟨r', h⟩, fun r' t h => ⟨r', h⟩⟩

/-- Calls stop at the first one that fails. -/
theorem Step.runAll_cons_error {step : Step τ} {s u : Scene ω} {e : Error}
    (h : step.run finish s = .error e u) (rest : List (Step τ)) :
    Step.runAll finish (step :: rest) s = .error e u := by
  cases rest with
  | nil => rw [Step.runAll, h]
  | cons next rest => exact EStateM.bind_of_error h fun _ => Step.runAll finish (next :: rest)

end Sequences

namespace Compilation

/-- The calls of one family, in order. -/
def callsOf (f : Family) (steps : List (Step Empty)) : List (Step Empty) :=
  steps.filter fun step => step.family? = some f

/-- Calls that succeed on some builder edit the clauses of their families. -/
theorem edits_of_runAll {xs : List (Step Empty)} (hxs : ∀ x ∈ xs, x.family?.isSome)
    {s : Scene Unit} {r : Reply} {t : Scene Unit} (h : Step.runAll noWorld xs s = .ok r t) :
    ∀ x ∈ xs, ∃ f, x.family? = some f ∧ EditsTo f .itself (x.run noWorld) := by
  induction xs generalizing s r with
  | nil => simp
  | cons x rest ih =>
    obtain ⟨f, hf⟩ := Option.isSome_iff_exists.mp (hxs x List.mem_cons_self)
    -- a call that fails on every builder cannot stand in a run that succeeds
    rcases Step.run_actsOn x hf with ⟨e, hfails⟩ | hedits
    · obtain ⟨u, hu⟩ := hfails s
      rw [Step.runAll_cons_error hu rest] at h
      cases h
    · obtain ⟨k, hk⟩ := hedits
      obtain ⟨r', h'⟩ := (Step.runAll_cons_state (hk s) rest).2 r t h
      intro y hy
      rcases List.mem_cons.mp hy with rfl | hy
      · exact ⟨f, hf, k, hk⟩
      · exact ih (fun z hz => hxs z (List.mem_cons_of_mem _ hz)) h' y hy

/-- A clause is what the calls of its family made of it: leaving out all other calls makes no
difference to it. -/
theorem runAll_clause (f : Family) {xs : List (Step Empty)}
    (h : ∀ x ∈ xs, ∃ f, x.family? = some f ∧ EditsTo f .itself (x.run noWorld))
    (s s' : Scene Unit) (hs : s.builder.clause f = s'.builder.clause f) :
    ∃ r t r' t', Step.runAll noWorld xs s = .ok r t ∧
      Step.runAll noWorld (callsOf f xs) s' = .ok r' t' ∧
      t.builder.clause f = t'.builder.clause f := by
  -- the two builders are generalized, with the clause of the family in common
  induction xs generalizing s s' with
  | nil =>
    have hnone : ∀ s, Step.runAll noWorld [] s = .ok .nothing s := fun s => by
      rw [Step.runAll]
      rfl
    exact ⟨.nothing, s, .nothing, s', hnone s, hnone s', hs⟩
  | cons x rest ih =>
    obtain ⟨g, hg, k, hk⟩ := h x List.mem_cons_self
    have hrest := fun y hy => h y (List.mem_cons_of_mem x hy)
    by_cases hgf : g = f
    · -- a call of the family edits the clause in the same way on both sides
      subst hgf
      have hcalls : callsOf g (x :: rest) = x :: callsOf g rest := by simp [callsOf, hg]
      have hclause :
          (s.builder.editClause g k).clause g = (s'.builder.editClause g k).clause g := by
        simp [hs]
      obtain ⟨r, t, r', t', hrun, hrun', ht⟩ := ih hrest
        { s with builder := s.builder.editClause g k }
        { s' with builder := s'.builder.editClause g k } hclause
      obtain ⟨r, hrun⟩ := (Step.runAll_cons_state (hk s) rest).1 r t hrun
      obtain ⟨r', hrun'⟩ := (Step.runAll_cons_state (hk s') (callsOf g rest)).1 r' t' hrun'
      exact ⟨r, t, r', t', hrun, hcalls ▸ hrun', ht⟩
    · -- any other call leaves the clause alone, and is left out
      have hcalls : callsOf f (x :: rest) = callsOf f rest := by simp [callsOf, hg, hgf]
      have hclause : (s.builder.editClause g k).clause f = s'.builder.clause f := by
        rw [Builder.clause_editClause_of_ne _ (Ne.symm hgf), hs]
      obtain ⟨r, t, r', t', hrun, hrun', ht⟩ := ih hrest
        { s with builder := s.builder.editClause g k } s' hclause
      obtain ⟨r, hrun⟩ := (Step.runAll_cons_state (hk s) rest).1 r t hrun
      exact ⟨r, t, r', t', hrun, hcalls ▸ hrun', ht⟩

/-- The order of calls on different clauses does not matter: when the calls of each family are the
same in the same order, both sequences succeed, and every statement compiles alike. -/
theorem compiled_alike_of_same_calls {xs ys : List (Step Empty)} {b d : Builder} {r : Reply}
    {t : Scene Unit} (hxs : ∀ x ∈ xs, x.family?.isSome) (hys : ∀ y ∈ ys, y.family?.isSome)
    (hsame : ∀ f, callsOf f xs = callsOf f ys) (hb : b.IsFresh) (hd : d.IsFresh)
    (hrun : Step.runAll noWorld xs ⟨b, ()⟩ = .ok r t) :
    ∃ r' u, Step.runAll noWorld ys ⟨d, ()⟩ = .ok r' u ∧ t.builder.CompilesAs u.builder := by
  have hedits := edits_of_runAll hxs hrun
  -- the calls of the other list are calls of this one, family by family
  have hedits' : ∀ y ∈ ys, ∃ f, y.family? = some f ∧ EditsTo f .itself (y.run noWorld) := by
    intro y hy
    obtain ⟨f, hf⟩ := Option.isSome_iff_exists.mp (hys y hy)
    have hmem : y ∈ callsOf f xs := by
      rw [hsame f, callsOf]
      exact List.mem_filter.mpr ⟨hy, by simpa using hf⟩
    exact hedits y (List.mem_of_mem_filter hmem)
  -- fresh builders agree in every clause
  have hfresh : ∀ f, b.clause f = d.clause f := by
    intro f
    rw [hb, hd]
    cases f <;> rfl
  obtain ⟨r', u, _, _, hrun', -, -⟩ := runAll_clause .table hedits' ⟨d, ()⟩ ⟨d, ()⟩ rfl
  refine ⟨r', u, hrun', ?_⟩
  -- clause by clause, both builders hold what the calls of the family alone build
  have hclause : ∀ f, u.builder.clause f = t.builder.clause f := by
    intro f
    obtain ⟨_, t₁, _, v₁, ht₁, hv₁, hx⟩ := runAll_clause f hedits ⟨b, ()⟩ ⟨b, ()⟩ rfl
    obtain ⟨_, u₁, _, v₂, hu₁, hv₂, hy⟩ := runAll_clause f hedits' ⟨d, ()⟩ ⟨b, ()⟩ (hfresh f).symm
    rw [hrun] at ht₁
    rw [hrun'] at hu₁
    rw [← hsame f, hv₁] at hv₂
    cases ht₁
    cases hu₁
    cases hv₂
    rw [hx, hy]
  rw [Builder.eq_retarget_of_clause_eq hclause]
  exact Builder.compilesAs_retarget _ _ _

/-- Calls on several clauses, with a group and a subquery among them. -/
def mixedCalls : List (Step Empty) :=
  [.whereCompare (.block [.whereNull (.str "a") Condition.and (.bool false)]) .null .null
     Condition.and,
   .select [.value (.str "x"), .block [.table (.str "u"), .distinct]],
   .table (.str "t"),
   .havingRaw (.str "n > ?") (.list [.int 9]) Condition.and,
   .on (.str "b") (.str "c") .null Condition.or,
   .limit (.int 5),
   .selectRaw (.str "y") .null]

/-- The same calls, clause after clause. -/
def sortedCalls : List (Step Empty) :=
  [.table (.str "t"),
   .select [.value (.str "x"), .block [.table (.str "u"), .distinct]],
   .selectRaw (.str "y") .null,
   .whereCompare (.block [.whereNull (.str "a") Condition.and (.bool false)]) .null .null
     Condition.and,
   .on (.str "b") (.str "c") .null Condition.or,
   .havingRaw (.str "n > ?") (.list [.int 9]) Condition.and,
   .limit (.int 5)]

/-- Mixed calls and the same calls sorted by clause compile to the same statement. -/
theorem compiled_alike_mixed :
    (∀ f, callsOf f mixedCalls = callsOf f sortedCalls) ∧
      ∃ t, Step.runAll noWorld mixedCalls ⟨{}, ()⟩ = .ok .itself t ∧
        ∃ r u, Step.runAll noWorld sortedCalls ⟨{ server := .str "other" }, ()⟩ = .ok r u ∧
          t.builder.CompilesAs u.builder := by
  have hsame : ∀ f, callsOf f mixedCalls = callsOf f sortedCalls := by
    intro f
    cases f <;> rfl
  have hfresh : Builder.IsFresh {} := rfl
  have hother : Builder.IsFresh { server := .str "other" } := rfl
  have hrun : Step.runAll noWorld mixedCalls ⟨{}, ()⟩ = .ok .itself _ := rfl
  exact ⟨hsame, _, hrun,
    compiled_alike_of_same_calls (by decide) (by decide) hsame hfresh hother hrun⟩

end Compilation

end Querysmith
