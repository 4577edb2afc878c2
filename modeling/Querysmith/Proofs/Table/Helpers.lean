import Querysmith.Blueprint.Call
import Querysmith.Proofs.Outcome
import Querysmith.Proofs.Table.Definitions

/-!
# Helper calls on a blueprint

The helpers of a blueprint take names, whole numbers, and values to write; called so, none of them
fails. A helper places entries, each with a subject, which is what it defines, and the clauses
behind it. A column helper also aims the modifiers at its column, and a modifier amends the entry
that they are aimed at.

## Main definitions

- `Subject`, `Clause`, `Entry`: what a definition is made of
- `Helper`, `Helper.call`: the helpers, and how they are called
- `Action`, `Helper.actions`: what they do
- `build`: the blueprint that helpers make of a fresh one

## Key results

- `Clause.apply_modifier`: what a modifier makes of a definition
- `lists_build`: the statements of a blueprint list its definitions
- `runAll_map_call`: helper calls succeed and do what their actions say
-/

namespace Querysmith.Table

open Text

/-! ## Definitions -/

/-- The type of a column. -/
inductive Kind where
  | string (length : Int)
  | text
  | integer
  | bigInteger
  | decimal (precision scale : Int)
  | boolean
  | date
  | timestamp
  | datetime
  | json
  | enum (values : List Value)

/-- What an entry of a blueprint defines. -/
inductive Subject where
  /-- A primary key that counts by itself. -/
  | counter (name : String) (length : Option Int)
  | column (name : String) (kind : Kind)
  | unique (target : String)
  | index (name target : String)
  | primary (target : String)

/-- What a modifier writes behind a definition. -/
inductive Clause where
  | default (value : Value)
  | defaultNow
  | updateNow
  | null
  | notNull
  | comment (text : String)
  | after (column : String)

/-- A subject and the clauses behind it. -/
structure Entry where
  subject : Subject
  clauses : List Clause

namespace Kind

/-- The column type of a kind. -/
def type : Kind → ColumnType
  | string length => .string (.int length)
  | text => .text
  | integer => .integer
  | bigInteger => .bigInteger
  | decimal precision scale => .decimal (.int precision) (.int scale)
  | boolean => .boolean
  | date => .date
  | timestamp => .timestamp
  | datetime => .datetime
  | json => .json
  | enum values => .enum (.list values)

/-- A kind in SQL. -/
def sql : Kind → String
  | string length => "VARCHAR(" ++ toString length ++ ")"
  | text => "TEXT"
  | integer => "INT"
  | bigInteger => "BIGINT"
  | decimal precision scale => "DECIMAL(" ++ toString precision ++ "," ++ toString scale ++ ")"
  | boolean => "TINYINT(1)"
  | date => "DATE"
  | timestamp => "TIMESTAMP"
  | datetime => "DATETIME"
  | json => "JSON"
  | enum values => "ENUM(" ++ joined "," (values.map fun v => quotedString v.text) ++ ")"

/-- The type of a kind of column is written as the kind is. -/
theorem sql_type (kind : Kind) : kind.type.sql = .ok kind.sql := by
  cases kind <;> rfl

end Kind

namespace Subject

/-- The type of a counter in SQL. -/
def counterSql (length : Option Int) : String :=
  (match length with
    | none => "INT"
    | some n => if n = 0 then "INT" else "INT(" ++ toString n ++ ")") ++
    " UNSIGNED AUTO_INCREMENT PRIMARY KEY"

/-- The key under which a subject is defined. -/
def key : Subject → String
  | counter name _ => name
  | column name _ => name
  | unique target => "unique_" ++ target
  | index name _ => name
  | primary target => "primary_" ++ target

/-- What a definition of the subject starts with: a column's quoted name and type, and the whole
of a constraint. -/
def sql : Subject → String
  | counter name length => quotedName name ++ " " ++ counterSql length
  | column name kind => quotedName name ++ " " ++ kind.sql
  | unique target => "UNIQUE (" ++ quotedName target ++ ")"
  | index name target => "INDEX " ++ quotedName name ++ " (" ++ quotedName target ++ ")"
  | primary target => "PRIMARY KEY (" ++ quotedName target ++ ")"

/-- Whether the subject is a column. -/
def isColumn : Subject → Bool
  | counter .. | column .. => true
  | unique _ | index .. | primary _ => false

end Subject

namespace Clause

/-- The modifier that writes the clause. -/
def modifier : Clause → Modifier
  | default value => .default value
  | defaultNow => .defaultNow
  | updateNow => .updateNow
  | null => .nullable
  | notNull => .notNull
  | comment text => .comment (.str text)
  | after column => .after (.str column)

/-- A clause in SQL. -/
def sql : Clause → String
  | default value => " DEFAULT " ++ value.defaultLiteral
  | defaultNow => " DEFAULT CURRENT_TIMESTAMP"
  | updateNow => " ON UPDATE CURRENT_TIMESTAMP"
  | null => " NULL"
  | notNull => " NOT NULL"
  | comment text => " COMMENT " ++ quotedString text
  | after column => " AFTER " ++ quotedName column

/-- What the modifier makes of a definition. -/
def onto (definition : String) : Clause → String
  | null => if Nullability.mentionsNull definition then definition else definition ++ " NULL"
  | notNull => Nullability.strip definition ++ " NOT NULL"
  | clause => definition ++ clause.sql

/-- On a definition no modifier fails. -/
theorem apply_modifier (clause : Clause) (definition : String) :
    clause.modifier.apply definition = .ok (clause.onto definition) := by
  cases clause <;> simp [modifier, Modifier.apply, onto, sql, Blueprint.quoteText,
    Blueprint.quoteName, String.append_assoc, bind, Except.bind, pure, Except.pure]

end Clause

namespace Entry

/-- The key of an entry. -/
def key (e : Entry) : String := e.subject.key

/-- An entry in SQL. -/
def sql (e : Entry) : String := e.clauses.foldl (fun s clause => s ++ clause.sql) e.subject.sql

end Entry

/-! ## Helpers -/

/-- What a helper does to a blueprint. -/
inductive Action where
  /-- Defines an entry under its key. -/
  | place (entry : Entry)
  /-- Aims the modifiers at a key. -/
  | aim (key : String)
  /-- Sets the index that a counter starts with. -/
  | start (index : Int)
  /-- Writes a clause behind the definition that the modifiers are aimed at. -/
  | amend (clause : Clause)

/-- A helper call. -/
inductive Helper where
  | id (name : String) (startingIndex : Int) (length : Option Int)
  | column (name : String) (kind : Kind)
  | timestamps
  | unique (target : String)
  | index (target : String) (name : Option String)
  | primary (target : String)
  | modify (clause : Clause)

namespace Helper

/-- The call of a helper. -/
def call : Helper → BlueprintCall
  | id name startingIndex length =>
    .addId (.str name) (.int startingIndex) ((length.map Value.int).getD .null)
  | column name kind => .addColumn (.str name) kind.type
  | timestamps => .addTimestamps
  | unique target => .addUnique (.str target)
  | index target name => .addIndex (.str target) ((name.map Value.str).getD .null)
  | primary target => .addPrimary (.str target)
  | modify clause => .editTarget clause.modifier

/-- The name of an index: one made for the column when none, or an empty one, is given. -/
def indexName (target : String) : Option String → String
  | none => "index_" ++ target
  | some name => if name = "" then "index_" ++ target else name

/-- What a helper does. -/
def actions : Helper → List Action
  | id name startingIndex length =>
    [.place ⟨.counter name length, []⟩, .aim name] ++
      if 0 < startingIndex then [.start startingIndex] else []
  | column name kind => [.place ⟨.column name kind, [.null]⟩, .aim name]
  | timestamps =>
    [.place ⟨.column "created_at" .timestamp, [.null, .defaultNow]⟩,
      .place ⟨.column "updated_at" .timestamp, [.null, .defaultNow, .updateNow]⟩]
  | unique target => [.place ⟨.unique target, []⟩]
  | index target name => [.place ⟨.index (indexName target name) target, []⟩]
  | primary target => [.place ⟨.primary target, []⟩]
  | modify clause => [.amend clause]

/-- What helpers do, one after the other. -/
def allActions (helpers : List Helper) : List Action := helpers.flatMap actions

end Helper

/-- Writes a clause behind the definition that the modifiers are aimed at, or warns that they are
aimed at none. -/
def amended (b : Blueprint) (clause : Clause) : Blueprint :=
  match b.editable? with
  | none => b.warn clause.modifier.name
  | some key =>
    match b.definitions.get? key with
    | none => b
    | some definition => b.edit key fun _ => clause.onto definition

/-- Does an action. -/
def Action.run (b : Blueprint) : Action → Blueprint
  | place entry => b.define entry.key entry.sql
  | aim key => b.aim key
  | start index => b.setOption "AUTO_INCREMENT" (.int index)
  | amend clause => amended b clause

/-- The blueprint that helpers make of a fresh one. -/
def build (table : String) (helpers : List Helper) : Blueprint :=
  (Helper.allActions helpers).foldl Action.run { table := .str table }

/-- One more helper is run on what the others have built. -/
theorem build_concat (table : String) (helpers : List Helper) (helper : Helper) :
    build table (helpers ++ [helper]) = helper.actions.foldl Action.run (build table helpers) := by
  simp [build, Helper.allActions, List.flatMap_append, List.foldl_append]

/-! ## Statements -/

theorem distinct_run {b : Blueprint} (h : b.definitions.Distinct) (action : Action) :
    (action.run b).definitions.Distinct := by
  cases action with
  | place entry => exact h.set _ _
  | aim key => exact h
  | start index => exact h
  | amend clause =>
    show (amended b clause).definitions.Distinct
    -- a modifier edits a definition where it is, and adds none
    unfold amended
    split
    · exact h
    · split
      · exact h
      · next key _ _ definition _ => exact h.edit key fun _ => clause.onto definition

/-- Whatever helpers build has distinct keys. -/
theorem distinct_build (table : String) (helpers : List Helper) :
    (build table helpers).definitions.Distinct :=
  List.foldlRecOn (motive := fun b : Blueprint => b.definitions.Distinct) _ _ List.nodup_nil
    fun _ h action _ => distinct_run h action

theorem Action.table_run (b : Blueprint) (action : Action) : (action.run b).table = b.table := by
  cases action with
  | amend clause =>
    show (amended b clause).table = b.table
    unfold amended
    split
    · rfl
    · split <;> rfl
  | _ => rfl

theorem table_build (table : String) (helpers : List Helper) :
    (build table helpers).table = .str table :=
  List.foldlRecOn (motive := fun b : Blueprint => b.table = .str table) _ _ rfl
    fun _ h action _ => (Action.table_run _ action).trans h

/-- The two statements of a blueprint name the table and list the definitions in order; a
blueprint without definitions has empty ones. -/
structure Lists (table : String) (b : Blueprint) : Prop where
  create : b.toSql (.str "create") = .ok (if b.definitions = [] then "" else
    "CREATE TABLE IF NOT EXISTS " ++ quotedName table ++ " (" ++
      commaJoined (b.definitions.map Prod.snd) ++ ")" ++
      String.join (b.options.map fun o => " " ++ o.1 ++ "=" ++ o.2.text) ++ ";")
  alter : b.toSql (.str "alter") = .ok (if b.definitions = [] then "" else
    "ALTER TABLE " ++ quotedName table ++ " " ++
      commaJoined (b.definitions.map fun d => "ADD " ++ d.2) ++ ";")

/-- What helpers build lists its definitions. -/
theorem lists_build (table : String) (helpers : List Helper) :
    Lists table (build table helpers) := by
  have htable := table_build table helpers
  generalize build table helpers = b at htable
  have hquote : Blueprint.quoteName b.table = .ok (quotedName table) := by rw [htable]; rfl
  constructor
  -- without definitions the text is empty, for either mode
  · rw [Blueprint.toSql, hquote]
    by_cases h : b.definitions = []
    · simp [h]
    · rw [if_neg (by simpa using h), if_neg h]
      rfl
  · rw [Blueprint.toSql, hquote]
    by_cases h : b.definitions = []
    · simp [h]
    · rw [if_neg (by simpa using h), if_neg h]
      rfl

/-! ## Runs -/

open Blueprint BlueprintCall

/-- A modifier amends the definition that it is called on. -/
theorem run_amend (clause : Clause) (b : Blueprint) :
    (editTarget clause.modifier).run b = .ok .itself (amended b clause) := by
  have hself : (get : Blueprint.Edit Blueprint) b = .ok b b := rfl
  have happly : applyModifier clause.modifier b = .ok () (amended b clause) := by
    rw [applyModifier, EStateM.bind_of_ok hself, amended]
    -- a modifier that is aimed at nothing does nothing
    cases b.editable? with
    | none => rfl
    | some key =>
      dsimp only
      cases b.definitions.get? key with
      | none => rfl
      | some definition =>
        dsimp only
        rw [clause.apply_modifier]
        rfl
  exact EStateM.bind_of_ok happly _

/-- A helper call succeeds and does what its actions say. -/
theorem run_call (helper : Helper) (b : Blueprint) :
    helper.call.run b = .ok .itself (helper.actions.foldl Action.run b) := by
  cases helper with
  | id name startingIndex length =>
    -- neither a missing length nor zero counts as true
    have htype : (if ((length.map Value.int).getD .null).isTrue
          then "INT(" ++ ((length.map Value.int).getD .null).text ++ ")" else "INT") ++
        " UNSIGNED AUTO_INCREMENT PRIMARY KEY" = Subject.counterSql length := by
      cases length with
      | none => rfl
      | some n =>
        by_cases hn : n = 0
        · simp [Subject.counterSql, Value.isTrue, hn]
        · simp [Subject.counterSql, Value.isTrue, hn]
          rfl
    rw [Helper.call, BlueprintCall.run]
    simp only [htype]
    -- the counter starts where it is told to, unless that is zero or less
    by_cases hstart : 0 < startingIndex
    · simp only [Value.isPositive, hstart, decide_true, Helper.actions, if_true]
      rfl
    · simp only [Value.isPositive, hstart, decide_false, Helper.actions, if_false]
      rfl
  | column name kind =>
    have hsql : quotedName name ++ " " ++ (kind.sql ++ " NULL") =
        Entry.sql ⟨.column name kind, [.null]⟩ := (String.append_assoc ..).symm
    have hdefine : defineColumn (.str name) (kind.sql ++ " NULL") b =
        .ok () (((Action.place ⟨.column name kind, [.null]⟩).run b).aim name) := by
      rw [Action.run, ← hsql]
      rfl
    have hsucceeds :
        (ofExcept (Except.ok kind.sql) : Blueprint.Edit String) b = .ok kind.sql b := rfl
    rw [Helper.call, BlueprintCall.run, kind.sql_type, EStateM.bind_of_ok hsucceeds]
    exact EStateM.bind_of_ok hdefine _
  | timestamps => rfl
  | unique target => rfl
  | index target name =>
    -- an index without a name is named for its column
    have hname : ((name.map Value.str).getD .null).orElse (.str ("index_" ++ target)) =
        .str (Helper.indexName target name) := by
      cases name with
      | none => rfl
      | some name =>
        by_cases h : name = "" <;> simp [Value.orElse, Value.isTrue, Helper.indexName, h]
    rw [Helper.call, BlueprintCall.run]
    simp only [Value.text_str, hname]
    rfl
  | primary target => rfl
  | modify clause => exact run_amend clause b

/-- Helper calls succeed, on whatever blueprint, and do what their actions say. -/
theorem runAll_map_call (helpers : List Helper) (b : Blueprint) :
    runAll (helpers.map Helper.call) b =
      .ok () ((Helper.allActions helpers).foldl Action.run b) := by
  rw [Helper.allActions]
  induction helpers generalizing b with
  | nil => rfl
  | cons helper helpers ih =>
    rw [List.flatMap_cons, List.foldl_append, ← ih]
    exact EStateM.bind_of_ok (run_call helper b) _

/-- Calls of helpers never fail. -/
theorem runAll_calls (table : String) (helpers : List Helper) :
    runAll (helpers.map Helper.call) { table := .str table } = .ok () (build table helpers) :=
  runAll_map_call helpers _

end Querysmith.Table
