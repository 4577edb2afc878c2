/-!
# Prefixes of texts

What is left of a text when another one is taken off its beginning.
-/

namespace Querysmith.Text

/-- What follows a text that comes first. -/
def dropPrefix? : (start cs : List Char) → Option (List Char)
  | [], cs => some cs
  | _ :: _, [] => none
  | s :: start, c :: cs => if s = c then dropPrefix? start cs else none

theorem dropPrefix?_eq_some {start cs rest : List Char} :
    dropPrefix? start cs = some rest ↔ cs = start ++ rest := by
  fun_induction dropPrefix? start cs with
  | case1 => simp [eq_comm]
  | case2 => simp
  | case3 s start cs ih => simp [ih]
  | case4 s start c cs h => simp [Ne.symm h]

/-- The text without its beginning, once, or the whole text when it begins otherwise. -/
def withoutPrefix (start s : String) : String :=
  match dropPrefix? start.toList s.toList with
  | some rest => .ofList rest
  | none => s

/-- What was written in front is taken off again, whatever stands behind it. -/
@[simp] theorem withoutPrefix_append (start s : String) : withoutPrefix start (start ++ s) = s := by
  have hdrop : dropPrefix? start.toList (start ++ s).toList = some s.toList :=
    dropPrefix?_eq_some.mpr (String.toList_append ..)
  rw [withoutPrefix, hdrop]
  exact String.ofList_toList

end Querysmith.Text
