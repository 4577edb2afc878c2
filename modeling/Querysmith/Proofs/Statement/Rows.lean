import Mathlib.Data.List.Perm.Lattice
import Querysmith.Proofs.Entries
import Querysmith.Proofs.Statement.Compiled

/-!
# Rows of an INSERT

An INSERT writes one group of placeholders for each row, and binds the values of the rows one row
behind the other. The columns are those of the first row, and every row is read in their order,
whatever order its own keys have. So the values fall into blocks, one for each row, in which every
column has its place.

## Key results

- `compileInsert_list`: the statement for a list of rows
- `block_flatMap`: the values of a row are those of its block
- `zip_cells_perm`: columns and values together are the entries of the row
- `compileInsert_cells`: every value of a row is bound in the cell of its row and column
-/

namespace Querysmith

open Text Fragment

/-- The block at a position, when values are cut into blocks of `k`. -/
def block {α : Type} (k i : Nat) (values : List α) : List α := (values.drop (i * k)).take k

section Blocks

variable {α β : Type} {k : Nat}

/-- Lists of one length fill the blocks. -/
theorem block_flatMap {f : α → List β} (h : ∀ a, (f a).length = k) {rows : List α} {i : Nat} {a : α}
    (ha : rows[i]? = some a) : block k i (rows.flatMap f) = f a := by
  -- the index is generalized, since dropping the first row lowers it by one
  induction rows generalizing i with
  | nil => simp at ha
  | cons row rest ih =>
    cases i with
    | zero =>
      obtain rfl : row = a := by simpa using ha
      simp [block, ← h row]
    | succ i =>
      have hrest : rest[i]? = some a := by simpa using ha
      rw [← ih hrest, block, block, List.flatMap_cons, Nat.succ_mul, Nat.add_comm,
        ← List.drop_drop, List.drop_left' (h row)]

/-- A place in a block, counted from the start of the first block. -/
theorem getElem?_block {values : List α} {i j : Nat} (hj : j < k) :
    (block k i values)[j]? = values[i * k + j]? := by
  rw [block, List.getElem?_take_of_lt hj, List.getElem?_drop]

/-- Rows of one width make a list of that width times their number. -/
theorem length_flatMap_of_length {f : α → List β} (h : ∀ a, (f a).length = k) (rows : List α) :
    (rows.flatMap f).length = rows.length * k := by
  induction rows with
  | nil => simp
  | cons row rest ih =>
    rw [List.flatMap_cons, List.length_append, h, ih, List.length_cons, Nat.succ_mul, Nat.add_comm]

end Blocks

/-! ## The values of a row -/

/-- The value of a row for a column; null when the row lacks the column. -/
def cell (row : Entries) (column : Value) : Value := (row.get? column).getD .null

/-- Columns and values together are the entries of the row, when the row has the columns for its
keys. -/
theorem zip_cells_perm {row : Entries} {columns : List String} (hrow : row.Distinct)
    (hcolumns : columns.Nodup)
    (hkeys : ∀ key, key ∈ row.map Prod.fst ↔ key ∈ columns.map Value.str) :
    ((columns.map Value.str).zip (columns.map fun column => cell row (.str column))).Perm row := by
  -- keys are texts, and a text is the same key as itself
  have hself : ∀ e ∈ row, e.1.sameKey e.1 = true := by
    intro e he
    obtain ⟨column, -, hcolumn⟩ := List.mem_map.1 ((hkeys e.1).1 (List.mem_map_of_mem he))
    simp [← hcolumn]
  -- a row is its keys with their cells
  have hcells : (row.map Prod.fst).map (fun key => (key, cell row key)) = row := by
    rw [List.map_map]
    refine (List.map_congr_left fun e he => ?_).trans (List.map_id row)
    simp [cell, hrow.get?_of_mem he (hself e he)]
  have hnodup : (row.map Prod.fst).Nodup := by
    refine List.pairwise_map.2 (hrow.imp_of_mem ?_)
    rintro d e hd - hne heq
    have hsame : d.1.sameKey d.1 = false := by rwa [← heq] at hne
    exact nomatch (hself d hd).symm.trans hsame
  have hcolumns : (columns.map Value.str).Nodup :=
    hcolumns.map fun _ _ h => by simpa using h
  -- the columns are the keys in another order, and each key is beside its cell
  have hperm : (columns.map Value.str).Perm (row.map Prod.fst) :=
    (List.perm_ext_iff_of_nodup hcolumns hnodup).2 fun key => (hkeys key).symm
  rw [List.zip_map']
  calc columns.map (fun column => (Value.str column, cell row (.str column)))
      = (columns.map Value.str).map fun key => (key, cell row key) := by rw [List.map_map]; rfl
    _ |>.Perm ((row.map Prod.fst).map fun key => (key, cell row key)) := hperm.map _
    _ = row := hcells

/-- Columns that are the keys of a row are named once. -/
theorem nodup_of_keys {row : Entries} {columns : List String} (hrow : row.Distinct)
    (h : row.map Prod.fst = columns.map Value.str) : columns.Nodup := by
  have hkeys : (row.map Prod.fst).Pairwise fun a b => a.sameKey b = false :=
    List.pairwise_map.2 hrow
  rw [h, List.pairwise_map] at hkeys
  exact hkeys.imp fun hne heq => by simp [heq] at hne

namespace Builder

variable {b : Builder} {verb : Value} {columns : List String}

/-- The values of a row are its cells under the columns. -/
theorem rowValues_map (columns : List Value) (row : Entries) :
    rowValues columns (.map row) = .ok (columns.map (cell row)) := by
  cases columns with
  | nil => rfl
  | cons column columns => rfl

/-- Three fragments that have text, as one statement. -/
private theorem assemble_three {f g h : Fragment} (hf : f.sql ≠ "") (hg : g.sql ≠ "")
    (hh : h.sql ≠ "") : assemble [f, g, h] =
      ⟨f.sql ++ " " ++ g.sql ++ " " ++ h.sql, f.bindings ++ g.bindings ++ h.bindings⟩ := by
  simp [assemble, texts, hf, hg, hh, joined, String.append_assoc]

/-- The statement for a list of rows, of which the first one has the columns for its keys. -/
theorem compileInsert_list {first : Entries} (h : first.map Prod.fst = columns.map .str)
    (rest : List Entries) :
    b.compileInsert (.list ((first :: rest).map .map)) verb =
      .ok ⟨verb.text ++ " INTO " ++ b.table.text ++ " (" ++ commaJoined columns ++ ") VALUES " ++
          commaJoined (List.replicate (first :: rest).length
            ("(" ++ commaJoined (List.replicate columns.length "?") ++ ")")),
        (first :: rest).flatMap fun row => columns.map fun column => cell row (.str column)⟩ := by
  -- the first row says which columns there are
  have hcolumns : insertColumns (.list ((first :: rest).map .map)) = .ok (columns.map .str) := by
    rw [← h]
    rfl
  have hvalues : ((first :: rest).map Value.map).mapM (rowValues (columns.map .str)) =
      .ok ((first :: rest).map fun row => columns.map fun column => cell row (.str column)) := by
    rw [List.mapM_map]
    simp only [Function.comp_def, rowValues_map, List.map_map]
    exact List.mapM_pure
  have hnames : Value.joinTexts ", " (columns.map .str) = .ok (commaJoined columns) :=
    Value.joinTexts_eq_ok_iff.2 ⟨columns, rfl, rfl⟩
  have hitems :
      (Value.list ((first :: rest).map .map)).items = .ok ((first :: rest).map .map) := rfl
  -- a group of placeholders for each row
  have hgroups : ((first :: rest).map Value.map).map
      (fun _ => Condition.placeholders (columns.map Value.str).length) =
      List.replicate (first :: rest).length
        ("(" ++ commaJoined (List.replicate columns.length "?") ++ ")") := by
    rw [List.map_const', List.length_map, List.length_map, Condition.placeholders]
  -- there is a first row, so that there is a group
  have hsome : (List.replicate (first :: rest).length
      ("(" ++ commaJoined (List.replicate columns.length "?") ++ ")")).isEmpty = false := rfl
  simp only [compileInsert, asRows, hcolumns, hitems, hvalues, hnames, hgroups, hsome,
    Except.ok_bind, Bool.false_eq_true, if_false]
  have hopen : " (" = " " ++ "(" := rfl
  have hclose : ") VALUES " = ")" ++ " " ++ "VALUES " := rfl
  -- the verb with the columns, the keyword, and the groups
  rw [assemble_three (by simp [ofText]) (by simp [ofText]) (by simp)]
  simp only [ofText, hopen, hclose, String.append_assoc, List.nil_append, List.flatMap_def, pure,
    Except.pure]

/-- Every value of a row is bound in the cell of its row and column: the statement has one group of
placeholders for each row, and the values of a row stand in the order of the columns of the first
row, in the block of their row. A row with the columns for its keys can be read back from its
block, and a single row is a list of one. -/
theorem compileInsert_cells (b : Builder) (verb : Value) {rows : List Entries}
    {columns : List String} (hrows : ∀ row ∈ rows, row.Distinct)
    (hcolumns : rows.head?.map (fun row => row.map Prod.fst) = some (columns.map .str)) :
    ∃ f, b.compileInsert (.list (rows.map .map)) verb = .ok f ∧
      f.sql = verb.text ++ " INTO " ++ b.table.text ++ " (" ++ commaJoined columns ++ ") VALUES " ++
        commaJoined (List.replicate rows.length
          ("(" ++ commaJoined (List.replicate columns.length "?") ++ ")")) ∧
      f.bindings.length = rows.length * columns.length ∧
      (∀ (i : Nat) (row : Entries), rows[i]? = some row →
        (∀ (j : Nat) (column : String), columns[j]? = some column →
          f.bindings[i * columns.length + j]? =
            some ((Entries.get? row (.str column)).getD .null)) ∧
        ((∀ key, key ∈ row.map Prod.fst ↔ key ∈ columns.map Value.str) →
          ((columns.map Value.str).zip (block columns.length i f.bindings)).Perm row)) ∧
      ∀ row, b.compileInsert (.map row) verb = b.compileInsert (.list [.map row]) verb := by
  cases rows with
  | nil => simp at hcolumns
  | cons first rest =>
    have hfirst : first.map Prod.fst = columns.map .str := by simpa using hcolumns
    have hlength : ∀ row : Entries, (columns.map fun column => cell row (.str column)).length =
        columns.length := fun row => List.length_map _
    refine ⟨_, compileInsert_list hfirst rest, rfl, length_flatMap_of_length hlength _,
      fun i row hrow => ?_, fun row => rfl⟩
    -- the values of a row are a block, as wide as there are columns
    have hblock := block_flatMap hlength hrow
    refine ⟨fun j column hcolumn => ?_, fun hkeys => ?_⟩
    · have hj : j < columns.length := (List.getElem?_eq_some_iff.1 hcolumn).1
      rw [← getElem?_block hj, hblock, List.getElem?_map, hcolumn]
      rfl
    -- a row with the same columns in any order is found cell by cell
    · rw [hblock]
      exact zip_cells_perm (hrows row (List.mem_of_getElem? hrow))
        (nodup_of_keys (hrows first List.mem_cons_self) hfirst) hkeys

/-- A row of three columns, one whose keys come in another order, and one that lacks a column. -/
def turnedRows : List Entries :=
  [[(.str "a", .int 1), (.str "b", .null), (.str "c", .str "x")],
    [(.str "b", .str "y"), (.str "c", .str "z"), (.str "a", .int 2)],
    [(.str "c", .str "w"), (.str "b", .int 3)]]

/-- Each row has a group of three placeholders. The second row can be read back from its block, and
the third one has null for the column that it lacks. -/
theorem compileInsert_cells_turned :
    (∀ row ∈ turnedRows, row.Distinct) ∧
      turnedRows.head?.map (fun row => row.map Prod.fst) = some (["a", "b", "c"].map .str) ∧
      ∃ f, (Builder.withTable {} (.str "t")).compileInsert (.list (turnedRows.map .map))
          (.str "REPLACE") = .ok f ∧
        f.sql = "REPLACE INTO t (a, b, c) VALUES (?, ?, ?), (?, ?, ?), (?, ?, ?)" ∧
        f.bindings[1 * 3 + 1]? = some (.str "y") ∧
        f.bindings[2 * 3 + 0]? = some .null ∧
        ((["a", "b", "c"].map Value.str).zip (block 3 1 f.bindings)).Perm
          [(.str "b", .str "y"), (.str "c", .str "z"), (.str "a", .int 2)] := by
  have hrows : ∀ row ∈ turnedRows, row.Distinct := by simp [turnedRows, Entries.Distinct]
  have hcolumns : turnedRows.head?.map (fun row => row.map Prod.fst) =
      some (["a", "b", "c"].map .str) := rfl
  obtain ⟨f, hf, hsql, -, hcells, -⟩ :=
    compileInsert_cells (Builder.withTable {} (.str "t")) (.str "REPLACE") hrows hcolumns
  -- the second row has its keys in another order, the third one lacks a key
  obtain ⟨hcell, hback⟩ := hcells 1 _ rfl
  obtain ⟨hlacking, -⟩ := hcells 2 _ rfl
  refine ⟨hrows, hcolumns, f, hf, hsql.trans rfl, (hcell 1 "b" rfl).trans ?_,
    (hlacking 0 "a" rfl).trans ?_, hback ?_⟩
  · simp [Entries.get?]
  · simp [Entries.get?]
  · intro key
    simp only [List.map_cons, List.map_nil, List.mem_cons, List.not_mem_nil, or_false]
    -- the same three keys, in another order
    constructor
    · rintro (rfl | rfl | rfl) <;> simp
    · rintro (rfl | rfl | rfl) <;> simp

end Builder

end Querysmith
