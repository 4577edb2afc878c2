import Mathlib.Data.List.Induction
import Querysmith.Proofs.Column.Figures
import Querysmith.Proofs.Table.Helpers

/-!
# The entries that helpers leave

A blueprint keeps texts. A plan keeps the entries that the texts were made of, in the same order,
so that what a definition consists of can be told without reading the definition again. Only the
modifier that takes nullability clauses out reads it again; without it, the plan describes the
blueprint.

## Main definitions

- `Entry.amend`: what a modifier makes of an entry
- `plan`: the entries that helpers leave, in order
- `Plan.Describes`: the texts of the blueprint are those of the entries

## Key results

- `Plan.Describes.run`: an action keeps a plan in step with its blueprint
- `describes_build`: and so do helpers
-/

namespace Querysmith.Table

open Text

/-- Whether a clause tells if a column can be null. -/
def Clause.tellsNull : Clause → Bool
  | default value => value.isNullDefault
  | null | notNull => true
  | defaultNow | updateNow | comment _ | after _ => false

/-- A row of clauses in SQL. -/
def Clause.row (clauses : List Clause) : List Char :=
  clauses.flatMap fun clause => clause.sql.toList

namespace Entry

/-- What a modifier makes of an entry. -/
def amend (e : Entry) : Clause → Entry
  | .null => if Nullability.mentionsNull e.sql then e else ⟨e.subject, e.clauses ++ [.null]⟩
  | .notNull => ⟨e.subject, e.clauses.filter (fun clause => !clause.tellsNull) ++ [.notNull]⟩
  | clause => ⟨e.subject, e.clauses ++ [clause]⟩

/-- Puts an entry in the place of the one with its key, or at the end. -/
def place (e : Entry) : List Entry → List Entry
  | [] => [e]
  | other :: rest => if other.key = e.key then e :: rest else other :: place e rest

/-- The definition of an entry under its key. -/
def definition (e : Entry) : String × String := (e.key, e.sql)

theorem key_amend (e : Entry) (clause : Clause) : (e.amend clause).key = e.key := by
  unfold amend
  split
  · split <;> rfl
  · rfl
  · rfl

theorem sql_concat (subject : Subject) (clauses : List Clause) (clause : Clause) :
    sql ⟨subject, clauses ++ [clause]⟩ = sql ⟨subject, clauses⟩ ++ clause.sql := by
  simp [sql]

/-- The subject, and the clauses behind it. -/
theorem toList_sql (e : Entry) :
    e.sql.toList = e.subject.sql.toList ++ Clause.row e.clauses := by
  obtain ⟨subject, clauses⟩ := e
  induction clauses using List.reverseRecOn with
  | nil => simp [sql, Clause.row]
  | append_singleton clauses clause ih =>
    rw [sql_concat, String.toList_append, ih]
    simp [Clause.row]

/-- Every modifier but the one that reads the definition again writes behind it. -/
theorem sql_amend {e : Entry} {clause : Clause} (h : clause ≠ .notNull) :
    (e.amend clause).sql = clause.onto e.sql := by
  cases clause with
  | notNull => exact absurd rfl h
  | null =>
    rw [amend, Clause.onto]
    -- a definition that has NULL already is not given it again
    split
    · rfl
    · exact sql_concat _ _ _
  | default value => exact sql_concat _ _ _
  | defaultNow => exact sql_concat _ _ _
  | updateNow => exact sql_concat _ _ _
  | comment text => exact sql_concat _ _ _
  | after column => exact sql_concat _ _ _

end Entry

/-- The entries of a blueprint and what else it keeps. -/
structure Plan where
  entries : List Entry := []
  /-- The key that the modifiers are aimed at. -/
  target : Option String := none
  /-- The index that a counter starts with. -/
  start : Option Int := none

namespace Plan

/-- What an action makes of a plan. -/
def run (p : Plan) : Action → Plan
  | .place entry => { p with entries := entry.place p.entries }
  | .aim key => { p with target := some key }
  | .start index => { p with start := some index }
  | .amend clause =>
    { p with entries := p.entries.map fun e =>
        if p.target = some e.key then e.amend clause else e }

/-- The plan describes the blueprint. -/
structure Describes (p : Plan) (b : Blueprint) : Prop where
  definitions : b.definitions = p.entries.map Entry.definition
  target : b.target = p.target
  options : b.options = (p.start.map fun index => ("AUTO_INCREMENT", Value.int index)).toList

end Plan

/-- The plan that helpers leave. -/
def plan (helpers : List Helper) : Plan := (Helper.allActions helpers).foldl Plan.run {}

/-! ## Plans and blueprints -/

/-- Setting the definition of an entry is placing the entry. -/
theorem set_definitions (entries : List Entry) (e : Entry) :
    Definitions.set (entries.map Entry.definition) e.key e.sql =
      (e.place entries).map Entry.definition := by
  induction entries with
  | nil => rfl
  | cons other rest ih =>
    rw [List.map_cons, Definitions.set, Entry.place]
    by_cases h : other.key = e.key
    · rw [if_pos (show other.definition.1 = e.key from h), if_pos h]
      rfl
    · rw [if_neg (show ¬ other.definition.1 = e.key from h), if_neg h, List.map_cons, ih]

namespace Plan.Describes

variable {p : Plan} {b : Blueprint}

theorem place (h : p.Describes b) (e : Entry) :
    (p.run (.place e)).Describes ((Action.place e).run b) where
  definitions := by
    show b.definitions.set e.key e.sql = _
    rw [h.definitions, set_definitions]
    rfl
  target := h.target
  options := h.options

theorem aim (h : p.Describes b) (key : String) :
    (p.run (.aim key)).Describes ((Action.aim key).run b) :=
  ⟨h.definitions, rfl, h.options⟩

theorem start (h : p.Describes b) (index : Int) :
    (p.run (.start index)).Describes ((Action.start index).run b) where
  definitions := h.definitions
  target := h.target
  options := by
    show (b.options.filter fun o => o.1 ≠ "AUTO_INCREMENT") ++ [("AUTO_INCREMENT", .int index)] = _
    rw [h.options]
    cases p.start <;> rfl

/-- A modifier amends the entry that has the key that the modifiers are aimed at. -/
theorem amend (h : p.Describes b) (hdistinct : b.definitions.Distinct) {clause : Clause}
    (hclause : clause ≠ .notNull) :
    (p.run (.amend clause)).Describes (amended b clause) := by
  -- every entry is found under its key
  have hget : ∀ e ∈ p.entries, b.definitions.get? e.key = some e.sql := fun e he =>
    hdistinct.mem_iff_get?.mp (h.definitions ▸ List.mem_map.mpr ⟨e, he, rfl⟩)
  cases hfound : p.target.filter fun key => (b.definitions.get? key).isSome with
  | none =>
    -- no definition has the key, so no entry has it
    have heditable : b.editable? = none := by rw [Blueprint.editable?, h.target, hfound]
    have hsame : (p.run (.amend clause)).entries = p.entries := by
      refine (List.map_congr_left fun e he => ?_).trans (List.map_id _)
      refine if_neg fun htarget => ?_
      simp [htarget, hget e he] at hfound
    rw [amended, heditable]
    exact ⟨h.definitions.trans (by rw [hsame]), h.target, h.options⟩
  | some key =>
    obtain ⟨htarget, hsome⟩ := Option.filter_eq_some_iff.mp hfound
    obtain ⟨definition, hdefinition⟩ := Option.isSome_iff_exists.mp hsome
    have heditable : b.editable? = some key := by rw [Blueprint.editable?, h.target, hfound]
    have hamended : amended b clause = b.edit key fun _ => clause.onto definition := by
      rw [amended, heditable]
      simp only [hdefinition]
    rw [hamended]
    refine ⟨?_, h.target, h.options⟩
    show b.definitions.edit key (fun _ => clause.onto definition) = _
    rw [h.definitions, Definitions.edit, Plan.run, List.map_map, List.map_map]
    -- both sides go through the entries, and change those that have the key
    refine List.map_congr_left fun e he => ?_
    show (if e.key = key then (e.key, clause.onto definition) else e.definition) =
      Entry.definition (if p.target = some e.key then e.amend clause else e)
    by_cases hkey : e.key = key
    · obtain rfl : e.sql = definition :=
        Option.some.inj ((hget e he).symm.trans (hkey ▸ hdefinition))
      rw [if_pos hkey, if_pos (htarget.trans (congrArg some hkey.symm)), Entry.definition,
        Entry.key_amend, Entry.sql_amend hclause]
    · have : ¬ p.target = some e.key := by simpa [htarget] using Ne.symm hkey
      rw [if_neg hkey, if_neg this]

/-- An action keeps the plan in step, unless it reads a definition again. -/
theorem run (h : p.Describes b) (hdistinct : b.definitions.Distinct) {action : Action}
    (haction : action ≠ .amend .notNull) : (p.run action).Describes (action.run b) := by
  cases action with
  | place entry => exact h.place entry
  | aim key => exact h.aim key
  | start index => exact h.start index
  | amend clause => exact h.amend hdistinct fun hclause => haction (hclause ▸ rfl)

/-- Without NOT NULL, a plan that is run goes on describing the blueprint. -/
theorem runAll (h : p.Describes b) (hdistinct : b.definitions.Distinct) {actions : List Action}
    (hactions : .amend .notNull ∉ actions) :
    (actions.foldl Plan.run p).Describes (actions.foldl Action.run b) := by
  induction actions generalizing p b with
  | nil => exact h
  | cons action actions ih =>
    have haction : action ≠ .amend .notNull := fun heq => hactions (heq ▸ List.mem_cons_self)
    exact ih (h.run hdistinct haction) (distinct_run hdistinct action)
      fun hmem => hactions (List.mem_cons_of_mem action hmem)

end Plan.Describes

/-- Only a modifier amends an entry. -/
theorem Helper.amend_mem_allActions {clause : Clause} {helpers : List Helper}
    (h : .amend clause ∈ Helper.allActions helpers) : .modify clause ∈ helpers := by
  obtain ⟨helper, hmem, haction⟩ := List.mem_flatMap.mp h
  cases helper with
  | modify other =>
    obtain rfl : clause = other := by simpa [Helper.actions] using haction
    exact hmem
  | id =>
    rw [Helper.actions] at haction
    split at haction <;> simp at haction
  | column | timestamps | unique | index | primary => simp [Helper.actions] at haction

/-- The plan describes the blueprint, unless a definition was read again. -/
theorem describes_build (table : String) {helpers : List Helper}
    (h : .modify .notNull ∉ helpers) : (plan helpers).Describes (build table helpers) := by
  have hempty : ({} : Plan).Describes { table := .str table } := ⟨rfl, rfl, rfl⟩
  exact hempty.runAll List.nodup_nil fun hmem => h (Helper.amend_mem_allActions hmem)

end Querysmith.Table
