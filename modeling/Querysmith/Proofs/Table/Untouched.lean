import Querysmith.Proofs.Column.Shedding
import Querysmith.Proofs.Table.Helpers

/-!
# What stripping leaves of a column

The type of a column, its literals included, is left alone when the nullability clauses are taken
out of a definition.

## Key results

- `isUntouched_kind`, `isUntouched_counter`: the types of columns
- `Subject.exists_type`: a column is its quoted name and a type that is left alone
-/

namespace Querysmith.Table

open Text Nullability

/-! ## Types -/

/-- Literals, each behind a comma, and what closes the list. -/
theorem isUntouched_literals (values : List Value) :
    IsUntouched (values.flatMap (fun v => ',' :: (quotedString v.text).toList) ++ [')']) := by
  induction values with
  | nil => exact IsSolid.isUntouched (by decide +kernel)
  | cons v values ih =>
    have hopener : IsOpener [','] := ⟨by decide, by decide +kernel, by decide +kernel, by decide⟩
    have hhead : (values.flatMap (fun v => ',' :: (quotedString v.text).toList) ++ [')']).head? ≠
        some stringQuote := by
      cases values <;> simp [stringQuote]
    simpa using ih.literal hopener hhead v.text

/-- The type of an enumeration is left alone, whatever its values. -/
theorem isUntouched_enum (values : List Value) :
    IsUntouched (' ' :: (Kind.enum values).sql.toList) := by
  cases values with
  | nil => exact IsSolid.isUntouched (by decide +kernel)
  | cons v values =>
    have hopener : IsOpener " ENUM(".toList :=
      ⟨by decide, by decide +kernel, by decide +kernel, by decide +kernel⟩
    -- a comma or the closing parenthesis follows the first value
    have hhead : (values.flatMap (fun v => ',' :: (quotedString v.text).toList) ++ [')']).head? ≠
        some stringQuote := by
      cases values <;> simp [stringQuote]
    have hsql : ' ' :: (Kind.enum (v :: values)).sql.toList =
        " ENUM(".toList ++ ((quotedString v.text).toList ++
          (values.flatMap (fun v => ',' :: (quotedString v.text).toList) ++ [')'])) := by
      simp [Kind.sql, toList_joined_cons, List.flatMap_map]
    rw [hsql]
    exact (isUntouched_literals values).literal hopener hhead v.text

/-- The type of a column is left alone. -/
theorem isUntouched_kind (kind : Kind) : IsUntouched (' ' :: kind.sql.toList) := by
  -- a type is a fixed word, a word with numbers, or a list of literals
  cases kind with
  | string length =>
    have hmarks : IsMarks ((toString length).toList ++ [')']) :=
      (isMarks_of_isFigures (isFigures_int length)).append (by decide +kernel)
    have hsolid := hmarks.isSolid (by simp) " VARCHAR(".toList (by decide +kernel)
      (by decide +kernel) (by decide +kernel)
    simpa [Kind.sql] using hsolid.isUntouched
  | decimal precision scale =>
    have hmarks : IsMarks ((toString precision).toList ++ ([','] ++
        ((toString scale).toList ++ [')']))) :=
      (isMarks_of_isFigures (isFigures_int precision)).append (.append (by decide +kernel)
        ((isMarks_of_isFigures (isFigures_int scale)).append (by decide +kernel)))
    have hsolid := hmarks.isSolid (by simp) " DECIMAL(".toList (by decide +kernel)
      (by decide +kernel) (by decide +kernel)
    simpa [Kind.sql] using hsolid.isUntouched
  | enum values => exact isUntouched_enum values
  | text | integer | bigInteger | boolean | date | timestamp | datetime | json =>
    exact IsSolid.isUntouched (by decide +kernel)

/-- The type of a counter is left as it is. -/
theorem isUntouched_counter (length : Option Int) :
    IsUntouched (' ' :: (Subject.counterSql length).toList) := by
  have hplain : IsSolid " INT UNSIGNED AUTO_INCREMENT PRIMARY KEY".toList := by decide +kernel
  cases length with
  | none => exact hplain.isUntouched
  | some n =>
    -- a length of zero counts as none
    by_cases hn : n = 0
    · subst hn
      exact hplain.isUntouched
    · have hmarks : IsMarks ((toString n).toList ++ [')']) :=
        (isMarks_of_isFigures (isFigures_int n)).append (by decide +kernel)
      -- the length stands between two solid texts
      have hsolid := hmarks.isSolid (by simp) " INT(".toList (by decide +kernel)
        (by decide +kernel) (by decide +kernel)
      have hrest : IsSolid " UNSIGNED AUTO_INCREMENT PRIMARY KEY".toList := by decide +kernel
      simpa [Subject.counterSql, hn] using hsolid.isUntouched.append hrest.isUntouched rfl

theorem endsWord_append_of {s t : String} (h : EndsWord t.toList) : EndsWord (s ++ t).toList := by
  rw [String.toList_append]
  exact h.append _

/-- The type of a column does not end with a blank. -/
theorem endsWord_kind (kind : Kind) : EndsWord (' ' :: kind.sql.toList) := by
  have hclose : EndsWord ")".toList := ⟨')', rfl, by decide⟩
  refine EndsWord.append ?_ [' ']
  cases kind with
  | string length => exact endsWord_append_of hclose
  | decimal precision scale => exact endsWord_append_of hclose
  | enum values => exact endsWord_append_of hclose
  | text | integer | bigInteger | boolean | date | timestamp | datetime | json =>
    exact endsWord_iff.mpr (by decide +kernel)

theorem endsWord_counter (length : Option Int) :
    EndsWord (' ' :: (Subject.counterSql length).toList) :=
  EndsWord.append (endsWord_append_of (endsWord_iff.mpr (by decide +kernel))) [' ']

/-- A column is its quoted name and a type that is left alone. -/
theorem Subject.exists_type {x : Subject} (h : x.isColumn = true) :
    ∃ type : String, x.sql = quotedName x.key ++ " " ++ type ∧
      IsUntouched (' ' :: type.toList) ∧ EndsWord (' ' :: type.toList) := by
  cases x with
  | counter name length => exact ⟨_, rfl, isUntouched_counter length, endsWord_counter length⟩
  | column name kind => exact ⟨_, rfl, isUntouched_kind kind, endsWord_kind kind⟩
  | unique | index | primary => cases h

end Querysmith.Table
