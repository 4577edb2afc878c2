import Querysmith.Query.Join
import Querysmith.Proofs.Outcome
import Querysmith.Proofs.Clause.Grammar
import Mathlib.Data.List.Forall2

/-!
# The reading of compiled conditions

The normal form of a sequence of conditions is a tree of leaf texts: groups without leaves are
deleted at every level, and the conjunction of the first entry that remains at a level is
forgotten. The text of the sequence is the text of this tree, and since no text has two trees,
it says which normal form it came from.

## Key results

- `terms_spell`: the terms of a sequence spell the entries that remain
- `body_spells`: the text of a sequence is that of its normal form
- `body_uniquely_readable`: reading the text gives back the normal form, and nothing else does
-/

namespace Querysmith

open Text Clause

/-! ## The normal form -/

/-- The tree of the entries that remain at one level. The first one loses its connective. -/
def Clause.Expression.ofLinks : List (Connective × Phrase) → Option Expression
  | [] => none
  | (_, p) :: rest => some (rest.foldl (fun e l => .link e l.1 l.2) (.only p))

/-- What an expression writes, when there is one. -/
def Clause.Expression.writtenOf (e? : Option Expression) : String := e?.elim "" Expression.written

namespace Condition

/-- The connective that a condition's conjunction names. -/
def connective (c : Condition) : Connective :=
  match c.conjunction with
  | .str "OR" => .or
  | _ => .and

mutual
/-- A condition as an operand; a group in which nothing remains is none. -/
def phrase? : Condition → Option Phrase
  | .group children _ => (Expression.ofLinks (links children)).map .group
  | c => some (.leaf c.text.text)
/-- The entries of a sequence that remain. -/
def links : List Condition → List (Connective × Phrase)
  | [] => []
  | c :: rest => (c.phrase?.map (Prod.mk c.connective)).toList ++ links rest
end

/-- The tree of a sequence of conditions. -/
def normal (conditions : List Condition) : Option Expression :=
  Expression.ofLinks (links conditions)

mutual
/-- Whether a condition is a leaf or has one, at any depth. -/
def hasLeaf : Condition → Bool
  | .group children _ => anyHasLeaf children
  | _ => true
/-- Whether some condition is a leaf or has one. -/
def anyHasLeaf : List Condition → Bool
  | [] => false
  | c :: rest => c.hasLeaf || anyHasLeaf rest
end

mutual
/-- A condition whose conjunctions are AND and OR and whose leaves have leaf texts. -/
def IsReadable : Condition → Prop
  | .group children conjunction =>
    (group children conjunction).conjunction = .str (group children conjunction).connective.text ∧
      AreReadable children
  | c => c.conjunction = .str c.connective.text ∧ ∃ s, c.text = .str s ∧ IsLeafText s
/-- Every condition of a sequence is readable. -/
def AreReadable : List Condition → Prop
  | [] => True
  | c :: rest => c.IsReadable ∧ AreReadable rest
end

/-- What the text of a sequence of conditions gives away: exactly the normal form. -/
structure IsUniquelyReadable (conditions : List Condition) (f : Fragment) : Prop where
  /-- Reading the text gives back the normal form. -/
  read : read f.sql = normal conditions
  /-- The grammar has no other tree for the text. -/
  reads_iff : ∀ e : Expression, e.Reads f.sql ↔ normal conditions = some e
  /-- Sequences have the same text exactly when they have the same normal form. -/
  eq_iff : ∀ others, AreReadable others → ∀ g, body others = .ok g →
    (f.sql = g.sql ↔ normal conditions = normal others)
  /-- The text does not begin with a connective. -/
  opening : ∀ c : Connective, openingWord f.sql ≠ c.text
  /-- Without a keyword the clause is the text. -/
  bare : Condition.clause "" conditions = .ok f
  /-- A keyword is written in front of the text exactly when some leaf exists. -/
  clause : ∀ keyword, keyword ≠ "" → Condition.clause keyword conditions =
    .ok ⟨if anyHasLeaf conditions then keyword ++ " " ++ f.sql else "", f.bindings⟩
  /-- The conditions of a join are the same text when some leaf exists. -/
  join : anyHasLeaf conditions = true → ∀ kind table,
    (Join.nested kind table conditions).compile =
      .ok ⟨(Join.nested kind table conditions).head ++ f.sql, f.bindings⟩

end Condition

/-! ## Terms spell entries -/

/-- A term spells an entry that remains. -/
structure Term.Spells (t : Term) (l : Connective × Phrase) : Prop where
  conjunction : t.conjunction = .str l.1.text
  text : t.text = .str l.2.written
  plain : l.2.IsPlain

namespace Clause.Expression

/-- Terms that spell the entries behind an expression are written behind it. -/
theorem foldl_link {ts : List Term} {ls : List (Connective × Phrase)}
    (h : List.Forall₂ Term.Spells ts ls) {e : Expression} (he : e.IsPlain) :
    (ls.foldl (fun e l => .link e l.1 l.2) e).IsPlain ∧
    (ls.foldl (fun e l => .link e l.1 l.2) e).written
      = (ts.map Term.attached).foldl (fun s t => s ++ " " ++ t) e.written := by
  -- the expression so far is generalized, since each link is added to it
  induction h generalizing e with
  | nil => exact ⟨he, rfl⟩
  | @cons t l ts ls hl _ ih =>
    obtain ⟨hplain, hwritten⟩ := ih (e := .link e l.1 l.2) ⟨he, hl.plain⟩
    refine ⟨hplain, hwritten.trans ?_⟩
    -- a term is written as its connective, a space and its own text
    have hattached : t.attached = l.1.text ++ " " ++ l.2.written := by
      rw [Term.attached, hl.conjunction, hl.text]
      rfl
    simp [hattached, written, String.append_assoc]

/-- Terms that spell entries are written as the tree of the entries. -/
theorem body_of_spells {ts : List Term} {ls : List (Connective × Phrase)}
    (h : List.Forall₂ Term.Spells ts ls) :
    (∀ e, ofLinks ls = some e → e.IsPlain) ∧
    ∃ f, Term.body ts = .ok f ∧ f.sql = writtenOf (ofLinks ls) := by
  cases h with
  | nil => exact ⟨by simp [ofLinks], .empty, rfl, rfl⟩
  | @cons t l ts ls hl hrest =>
    obtain ⟨hplain, hwritten⟩ := foldl_link hrest (e := .only l.2) hl.plain
    refine ⟨by rintro e ⟨⟩; exact hplain, ?_⟩
    simp only [Term.body, hl.text, Value.textAt]
    refine ⟨_, rfl, ?_⟩
    -- joining with spaces is adding the links one by one
    rw [joined_cons_eq_foldl]
    exact hwritten.symm

/-- A tree writes nothing only when there is none. -/
theorem writtenOf_eq_empty_iff {e? : Option Expression} (h : ∀ e, e? = some e → e.IsPlain) :
    writtenOf e? = "" ↔ e? = none := by
  cases e? with
  | none => simp [writtenOf]
  | some e => simpa [writtenOf] using written_ne_empty (h e rfl)

end Clause.Expression

namespace Condition

open Expression

/-- A condition with a text of its own is rendered as a leaf. -/
theorem leaf_spells {c : Condition} {t : Term} (hc : c.conjunction = .str c.connective.text)
    (htext : ∃ s, c.text = .str s ∧ IsLeafText s) (hphrase : c.phrase? = some (.leaf c.text.text))
    (hterm : c.term? = .ok (some t)) (ht : t.conjunction = c.conjunction ∧ t.text = c.text) :
    ∃ t?, c.term? = .ok t? ∧
      List.Forall₂ Term.Spells t?.toList (c.phrase?.map (Prod.mk c.connective)).toList := by
  obtain ⟨s, hs, hleaf⟩ := htext
  have hwritten : c.text.text = s := by rw [hs]; rfl
  refine ⟨some t, hterm, ?_⟩
  rw [hphrase, hwritten]
  exact .cons ⟨ht.1.trans hc, ht.2.trans hs, hleaf⟩ .nil

mutual
/-- A condition is rendered as the operand that remains of it. -/
theorem term?_spells (c : Condition) (h : c.IsReadable) :
    ∃ t?, c.term? = .ok t? ∧
      List.Forall₂ Term.Spells t?.toList (c.phrase?.map (Prod.mk c.connective)).toList := by
  cases c with
  | group children conjunction =>
    obtain ⟨hconj, hchildren⟩ := h
    obtain ⟨ts, hts, hspells⟩ := terms_spell children hchildren
    obtain ⟨hplain, f, hbody, hsql⟩ := body_of_spells hspells
    simp only [term?, hts, Except.ok_bind, hbody, phrase?]
    -- a group is left out exactly when its text is empty, and then nothing remains of it
    cases hlinks : ofLinks (links children) with
    | none =>
      have hempty : f.sql = "" := by rw [hsql, hlinks]; rfl
      exact ⟨none, if_pos hempty, .nil⟩
    | some e =>
      have hne : f.sql ≠ "" := by
        rw [hsql, ne_eq, writtenOf_eq_empty_iff hplain, hlinks]
        simp
      refine ⟨some _, if_neg hne, .cons ⟨hconj, ?_, hplain e hlinks⟩ .nil⟩
      rw [hsql, hlinks]
      rfl
  -- leaves are written as they are
  | predicate => exact leaf_spells h.1 h.2 rfl rfl ⟨rfl, rfl⟩
  | raw => exact leaf_spells h.1 h.2 rfl rfl ⟨rfl, rfl⟩
  | comparison => exact leaf_spells h.1 h.2 rfl rfl ⟨rfl, rfl⟩
  | subquery => exact leaf_spells h.1 h.2 rfl rfl ⟨rfl, rfl⟩
/-- The terms of a sequence spell the entries that remain. -/
theorem terms_spell (cs : List Condition) (h : AreReadable cs) :
    ∃ ts, terms cs = .ok ts ∧ List.Forall₂ Term.Spells ts (links cs) := by
  cases cs with
  | nil => exact ⟨[], rfl, .nil⟩
  | cons c rest =>
    obtain ⟨hc, hrest⟩ := h
    obtain ⟨t?, ht, hspells⟩ := term?_spells c hc
    obtain ⟨ts, hts, hspellsRest⟩ := terms_spell rest hrest
    refine ⟨t?.toList ++ ts, ?_, List.rel_append hspells hspellsRest⟩
    rw [terms, ht, Except.ok_bind, hts, Except.ok_bind]
    rfl
end

mutual
/-- A condition remains exactly when it is a leaf or has one. -/
theorem isSome_phrase? (c : Condition) : c.phrase?.isSome = c.hasLeaf := by
  cases c with
  | group children conjunction =>
    rw [phrase?, Option.isSome_map, hasLeaf]
    exact isSome_normal children
  | predicate => rfl
  | raw => rfl
  | comparison => rfl
  | subquery => rfl
/-- A sequence has a tree exactly when some leaf exists. -/
theorem isSome_normal (cs : List Condition) : (normal cs).isSome = anyHasLeaf cs := by
  cases cs with
  | nil => rfl
  | cons c rest =>
    have hc := isSome_phrase? c
    have hrest := isSome_normal rest
    rw [anyHasLeaf, ← hc, ← hrest, normal, links]
    cases c.phrase? with
    | none => rfl
    | some p => rfl
end

/-! ## The text of a sequence -/

/-- The text of a sequence is that of its tree; it has terms exactly when it has leaves. -/
theorem body_spells {cs : List Condition} (h : AreReadable cs) :
    (∀ e, normal cs = some e → e.IsPlain) ∧
    ∃ ts f, terms cs = .ok ts ∧ ts.isEmpty = !anyHasLeaf cs ∧ Term.body ts = .ok f ∧
      f.sql = writtenOf (normal cs) := by
  obtain ⟨ts, hts, hspells⟩ := terms_spell cs h
  obtain ⟨hplain, f, hbody, hsql⟩ := body_of_spells hspells
  refine ⟨hplain, ts, f, hts, ?_, hbody, hsql⟩
  rw [← isSome_normal, normal]
  generalize links cs = ls at hspells
  cases hspells with
  | nil => rfl
  | cons => rfl

/-- Compiled conditions are uniquely readable. -/
theorem body_uniquely_readable {cs : List Condition} (h : AreReadable cs) :
    ∃ f, body cs = .ok f ∧ IsUniquelyReadable cs f := by
  obtain ⟨hplain, ts, f, hts, hempty, hbody, hsql⟩ := body_spells h
  have hok : body cs = .ok f := by rw [body, hts, Except.ok_bind, hbody]
  -- what is written is read back, and nothing is written for nothing
  have hreads : ∀ {ds : List Condition} {g : Fragment}, (∀ e, normal ds = some e → e.IsPlain) →
      g.sql = writtenOf (normal ds) → read g.sql = normal ds := by
    intro ds g hplain hsql
    rw [hsql]
    cases hnormal : normal ds with
    | none => decide +kernel
    | some e => exact read_written (hplain e hnormal)
  have hread := hreads hplain hsql
  refine ⟨f, hok, ⟨hread, fun e => ?_, fun others hothers g hg => ?_, fun c => ?_, ?_,
    fun keyword hkeyword => ?_, fun hleaf kind table => ?_⟩⟩
  case refine_1 => rw [← read_eq_some_iff, hread]
  case refine_2 =>
    obtain ⟨hplain', us, g', hus, -, hbody', hsql'⟩ := body_spells hothers
    obtain rfl : g' = g := by
      rw [body, hus, Except.ok_bind, hbody'] at hg
      exact Except.ok.inj hg
    refine ⟨fun hsame => ?_, fun hsame => by rw [hsql, hsql', hsame]⟩
    -- one text is read in one way
    rw [← hread, hsame, hreads hplain' hsql']
  case refine_3 =>
    rw [hsql]
    cases hnormal : normal cs with
    | none => cases c <;> decide
    | some e => exact openingWord_written_ne (hplain e hnormal) c
  case refine_4 =>
    rw [clause, hts, Except.ok_bind, hbody, Except.ok_bind]
    simp
    rfl
  -- a keyword is left out where nothing follows it
  case refine_5 =>
    rw [clause, hts, Except.ok_bind, hbody, Except.ok_bind, hempty]
    cases hleaf : anyHasLeaf cs with
    | true => simp [hkeyword]; rfl
    | false =>
      have : normal cs = none := by simpa [hleaf] using isSome_normal cs
      have : f.sql = "" := by rw [hsql, this]; rfl
      simp [← this]
      rfl
  -- where a leaf exists the text is not empty, so that the join has its conditions
  case refine_6 =>
    have hne : f.sql ≠ "" := by
      rw [hsql, ne_eq, writtenOf_eq_empty_iff hplain, ← Option.not_isSome_iff_eq_none]
      simp [isSome_normal, hleaf]
    simp only [Join.compile_nested, hok, Except.ok_bind, if_neg hne]
    rfl

/-- The empty groups in front are left out, so the leaf that looks like a clause loses its OR. -/
theorem clause_like_leaf_uniquely_readable :
    ∃ f, body [.group [.group [] and] and, .raw (.str "WHERE x") [] or,
        .group [.group [] or, .raw (.str "y = ?") [.int 1] and] or] = .ok f ∧
      IsUniquelyReadable [.group [.group [] and] and, .raw (.str "WHERE x") [] or,
        .group [.group [] or, .raw (.str "y = ?") [.int 1] and] or] f ∧
      f.sql = "WHERE x OR (y = ?)" := by
  have plain : ∀ w ∈ ["WHERE", "x", "y", "=", "?"], IsPlainWord w := by
    intro w hw
    simp only [List.mem_cons, List.not_mem_nil, or_false] at hw
    rcases hw with rfl | rfl | rfl | rfl | rfl <;>
      exact ⟨by decide, by simp [isDelimiter], by rintro (_ | _) <;> decide⟩
  -- a leaf may look like a clause of its own
  have first : IsLeafText "WHERE x" :=
    ⟨["WHERE", "x"], by simp, fun w hw => plain w (List.mem_append_left ["y", "=", "?"] hw), rfl⟩
  have second : IsLeafText "y = ?" :=
    ⟨["y", "=", "?"], by simp, fun w hw => plain w (List.mem_append_right ["WHERE", "x"] hw), rfl⟩
  have readable : AreReadable [.group [.group [] and] and, .raw (.str "WHERE x") [] or,
      .group [.group [] or, .raw (.str "y = ?") [.int 1] and] or] :=
    ⟨⟨rfl, ⟨rfl, trivial⟩, trivial⟩, ⟨rfl, _, rfl, first⟩,
      ⟨rfl, ⟨rfl, trivial⟩, ⟨rfl, _, rfl, second⟩, trivial⟩, trivial⟩
  obtain ⟨f, hf, hread⟩ := body_uniquely_readable readable
  refine ⟨f, hf, hread, ?_⟩
  cases hf
  rfl

end Condition

end Querysmith
