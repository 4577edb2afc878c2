import Querysmith.Query.Condition
import Querysmith.Proofs.Outcome
import Querysmith.Proofs.Statement.Placeholder

/-!
# The values of a group

The values of a group are collected in two ways: from its children one after the other, whatever
they render, and along with its text, where a group that renders nothing is left out with all that
it has. The two collect the same values when every leaf has as many placeholders as values. A
sequence renders nothing only when none of its conditions does, or a single one with the empty
text, which has no placeholder and so no value.

## Key results

- `bindings_eq_flatMap_leaves`: a condition binds the values of its leaves in order
- `Term.body_of_carries`: what is written has all the values, and no text means no values
- `terms_carry`: the terms of a sequence have the values of its conditions
- `clause_carries`: a clause binds the values of its conditions
- `group_bindings_eq_clause`: the values of a group are those that come with its text
-/

namespace Querysmith

open Text

/-! ## Terms and their values -/

namespace Term

/-- A term whose text is a text, and which has no values when that text is empty. -/
structure IsVoiced (t : Term) : Prop where
  text : ∃ s, t.text = .str s
  silent : t.text = .str "" → t.bindings = []

/-- Voiced terms that have the values between them. -/
structure Carry (ts : List Term) (values : List Value) : Prop where
  voiced : ∀ t ∈ ts, t.IsVoiced
  collected : ts.flatMap bindings = values

theorem carry_nil : Carry [] [] := ⟨by simp, rfl⟩

/-- A term that is written carries its own values. -/
theorem IsVoiced.carry {t : Term} (h : t.IsVoiced) : Carry [t] t.bindings :=
  ⟨by simpa using h, by simp⟩

/-- What two sequences carry is carried by one after the other. -/
theorem Carry.append {ts us : List Term} {values others : List Value} (h : Carry ts values)
    (h' : Carry us others) : Carry (ts ++ us) (values ++ others) where
  voiced t ht := (List.mem_append.mp ht).elim (h.voiced t) (h'.voiced t)
  collected := by rw [List.flatMap_append, h.collected, h'.collected]

/-- Two terms are never written as nothing, because a blank stands between them. -/
theorem joined_attached_ne_empty (first : String) (t : Term) (rest : List Term) :
    joined " " (first :: (t :: rest).map attached) ≠ "" := by
  rw [List.map_cons, joined_cons_cons]
  simp

/-- Voiced terms are written with all of their values. What is written as nothing has none. -/
theorem body_of_carries {ts : List Term} {values : List Value} (h : Carry ts values) :
    ∃ f, body ts = .ok f ∧ f.bindings = values ∧ (f.sql = "" → values = []) := by
  cases ts with
  | nil => exact ⟨.empty, rfl, h.collected, fun _ => h.collected.symm⟩
  | cons t rest =>
    have hvoiced := h.voiced t List.mem_cons_self
    obtain ⟨first, hfirst⟩ := hvoiced.text
    refine ⟨⟨joined " " (first :: rest.map attached), (t :: rest).flatMap bindings⟩, ?_,
      h.collected, fun hsql => ?_⟩
    · rw [body, hfirst]
      rfl
    · -- nothing is written for one term at most, and that one is silent
      cases rest with
      | nil =>
        have hempty : first = "" := hsql
        rw [← h.collected, List.flatMap_singleton, hvoiced.silent (by rw [hfirst, hempty])]
      | cons u rest => exact absurd hsql (joined_attached_ne_empty first u rest)

end Term

namespace Condition

open Term

/-! ## Leaves -/

mutual
/-- The conditions with a text of their own in a condition, from left to right at any depth. -/
def leaves : Condition → List Condition
  | .group children _ => allLeaves children
  | c => [c]
/-- The conditions with a text of their own in a sequence. -/
def allLeaves : List Condition → List Condition
  | [] => []
  | c :: rest => c.leaves ++ allLeaves rest
end

/-- A condition whose text has as many placeholders as the condition has values. -/
def IsAligned (c : Condition) : Prop := ∃ s, c.text = .str s ∧ marks s = c.bindings.length

mutual
/-- A condition binds the values of its leaves in order. -/
theorem bindings_eq_flatMap_leaves (c : Condition) : c.bindings = c.leaves.flatMap bindings := by
  cases c with
  | group children conjunction => exact allBindings_eq_flatMap_leaves children
  | predicate => simp [leaves]
  | raw => simp [leaves]
  | comparison => simp [leaves]
  | subquery => simp [leaves]
/-- A sequence binds the values of its leaves in order. -/
theorem allBindings_eq_flatMap_leaves (cs : List Condition) :
    allBindings cs = (allLeaves cs).flatMap bindings := by
  cases cs with
  | nil => rfl
  | cons c rest =>
    rw [allBindings, allLeaves, List.flatMap_append, bindings_eq_flatMap_leaves c,
      allBindings_eq_flatMap_leaves rest]
end

/-! ## Conditions and their values -/

/-- The term of an aligned leaf: its text is empty only when it has no values. -/
theorem IsAligned.isVoiced {c : Condition} (h : c.IsAligned) :
    Term.IsVoiced ⟨c.conjunction, c.text, c.bindings⟩ := by
  obtain ⟨s, hs, hmarks⟩ := h
  refine ⟨⟨s, hs⟩, fun hempty => ?_⟩
  obtain rfl : s = "" := by simpa [hs] using hempty
  exact List.eq_nil_of_length_eq_zero hmarks.symm

/-- A condition with a text of its own is rendered with all of its values. -/
theorem leaf_carries {c : Condition} (h : c.IsAligned)
    (hterm : c.term? = .ok (some ⟨c.conjunction, c.text, c.bindings⟩)) :
    ∃ t?, c.term? = .ok t? ∧ Carry t?.toList c.bindings :=
  ⟨_, hterm, h.isVoiced.carry⟩

mutual
/-- A condition is rendered with all of its values. -/
theorem term?_carries (c : Condition) (h : ∀ l ∈ c.leaves, l.IsAligned) :
    ∃ t?, c.term? = .ok t? ∧ Carry t?.toList c.bindings := by
  cases c with
  | group children conjunction =>
    obtain ⟨ts, hts, hcarry⟩ := terms_carry children h
    obtain ⟨inner, hbody, hvalues, hsilent⟩ := body_of_carries hcarry
    simp only [term?, hts, Except.ok_bind, hbody]
    -- the values of a group that is left out are lost, and there are none
    by_cases hsql : inner.sql = ""
    · have hnone : (group children conjunction).bindings = [] := hsilent hsql
      exact ⟨none, if_pos hsql, hnone ▸ carry_nil⟩
    · refine ⟨_, if_neg hsql, ?_⟩
      rw [bindings, ← hvalues]
      refine IsVoiced.carry ⟨⟨_, rfl⟩, fun hempty => ?_⟩
      simp at hempty
  | predicate => exact leaf_carries (h _ (by simp [leaves])) rfl
  | raw => exact leaf_carries (h _ (by simp [leaves])) rfl
  | comparison => exact leaf_carries (h _ (by simp [leaves])) rfl
  | subquery => exact leaf_carries (h _ (by simp [leaves])) rfl
/-- The terms of a sequence have the values of its conditions. -/
theorem terms_carry (cs : List Condition) (h : ∀ l ∈ allLeaves cs, l.IsAligned) :
    ∃ ts, terms cs = .ok ts ∧ Carry ts (allBindings cs) := by
  cases cs with
  | nil => exact ⟨[], rfl, carry_nil⟩
  | cons c rest =>
    obtain ⟨t?, ht, hcarry⟩ := term?_carries c fun l hl => h l (List.mem_append_left _ hl)
    obtain ⟨ts, hts, hcarryRest⟩ := terms_carry rest fun l hl => h l (List.mem_append_right _ hl)
    -- a condition that is left out adds no term, and by `hcarry` it had no values to add
    refine ⟨t?.toList ++ ts, ?_, hcarry.append hcarryRest⟩
    rw [terms, ht, Except.ok_bind, hts, Except.ok_bind]
    rfl
end

/-- A clause binds the values of its conditions, with or without a keyword. -/
theorem clause_carries {cs : List Condition} (h : ∀ l ∈ allLeaves cs, l.IsAligned)
    (keyword : String) : ∃ f, clause keyword cs = .ok f ∧ f.bindings = allBindings cs := by
  obtain ⟨ts, hts, hcarry⟩ := terms_carry cs h
  obtain ⟨inner, hbody, hvalues, -⟩ := body_of_carries hcarry
  rw [clause, hts, Except.ok_bind, hbody, Except.ok_bind]
  -- the keyword is written in front of the text and changes no values
  by_cases hbare : ts.isEmpty || keyword = ""
  · exact ⟨inner, if_pos hbare, hvalues⟩
  · exact ⟨⟨keyword ++ " " ++ inner.sql, inner.bindings⟩, if_neg hbare, hvalues⟩

/-- The values that a group collects from its children are the values that come with its text, and
they are those of its leaves from left to right. -/
theorem group_bindings_eq_clause {children : List Condition} {conjunction : Value}
    (h : ∀ l ∈ (group children conjunction).leaves, l.IsAligned) (keyword : String) :
    ∃ f, clause keyword [group children conjunction] = .ok f ∧
      (group children conjunction).bindings = f.bindings ∧
      f.bindings = (group children conjunction).leaves.flatMap bindings := by
  have hleaves : ∀ l ∈ allLeaves [group children conjunction], l.IsAligned := by
    simpa [allLeaves] using h
  obtain ⟨f, hf, hvalues⟩ := clause_carries hleaves keyword
  have hone : allBindings [group children conjunction] = (group children conjunction).bindings :=
    List.append_nil _
  rw [hone] at hvalues
  exact ⟨f, hf, hvalues.symm, hvalues.trans (bindings_eq_flatMap_leaves _)⟩

/-- Groups that are left out, one because its only leaf has the empty text, and a group that is
written because it has two of them. -/
def partlySilent : List Condition :=
  [.group [.group [] or, .raw (.str "") [] and] and,
    .predicate (.str "a = ?") (.int 1) or,
    .group [.raw (.str "") [] and, .comparison (.str "") or] and,
    .raw (.str "b BETWEEN ? AND ?") [.int 2, .int 9] or,
    .group [.subquery (.str "c") (.str "IN") (.str "SELECT d FROM t WHERE e = ?") [.str "f"] or,
      .group [.predicate (.str "g IS ?") .null and] and] and]

/-- The groups that are left out lose no values. -/
theorem group_bindings_eq_clause_silent :
    (∀ l ∈ (group partlySilent and).leaves, l.IsAligned) ∧
      ∃ f, clause "WHERE" [group partlySilent and] = .ok f ∧
        (group partlySilent and).bindings = f.bindings ∧
        f.bindings = [.int 1, .int 2, .int 9, .str "f", .null] ∧
        f.sql = "WHERE (a = ? AND ( OR ) OR b BETWEEN ? AND ? AND " ++
          "(c IN (SELECT d FROM t WHERE e = ?) AND (g IS ?)))" := by
  have haligned : ∀ l ∈ (group partlySilent and).leaves, l.IsAligned := by
    intro l hl
    simp only [partlySilent, leaves, allLeaves, List.nil_append, List.append_nil,
      List.cons_append, List.mem_cons, List.not_mem_nil, or_false] at hl
    -- seven leaves, each with as many values as its text has placeholders
    rcases hl with rfl | rfl | rfl | rfl | rfl | rfl | rfl <;> exact ⟨_, rfl, by decide +kernel⟩
  obtain ⟨f, hf, hagree, hleaves⟩ := group_bindings_eq_clause haligned "WHERE"
  refine ⟨haligned, f, hf, hagree, hleaves, ?_⟩
  cases hf
  rfl

/-- A leaf without text that has a value: only its group still has the value. -/
example : (group [.raw (.str "") [.int 1] and] and).bindings = [.int 1] ∧
    clause "WHERE" [group [.raw (.str "") [.int 1] and] and] = .ok .empty := ⟨rfl, rfl⟩

end Condition

end Querysmith
