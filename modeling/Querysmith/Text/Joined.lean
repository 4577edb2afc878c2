/-!
# Joined texts

Texts written one after the other with a separator between neighbours.
-/

namespace Querysmith.Text

/-- The texts in order, with `separator` between neighbours. -/
def joined (separator : String) : List String → String
  | [] => ""
  | [s] => s
  | s :: rest => s ++ separator ++ joined separator rest

@[simp] theorem joined_nil (separator : String) : joined separator [] = "" := rfl

@[simp] theorem joined_singleton (separator s : String) : joined separator [s] = s := rfl

theorem joined_cons_cons (separator s t : String) (rest : List String) :
    joined separator (s :: t :: rest) = s ++ separator ++ joined separator (t :: rest) := rfl

/-- The first text, and each other one behind a separator. -/
theorem joined_cons (separator s : String) (rest : List String) :
    joined separator (s :: rest) = s ++ String.join (rest.map fun t => separator ++ t) := by
  induction rest generalizing s with
  | nil => simp
  | cons t rest ih =>
    rw [joined_cons_cons, ih, List.map_cons, String.join_cons, String.append_assoc,
      String.append_assoc]

/-- The same, character by character. -/
theorem toList_joined_cons (separator s : String) (rest : List String) :
    (joined separator (s :: rest)).toList =
      s.toList ++ rest.flatMap fun t => separator.toList ++ t.toList := by
  induction rest generalizing s with
  | nil => simp
  | cons t rest ih =>
    rw [joined_cons_cons]
    simp [ih]

/-- The texts in order, each preceded by a comma and a space but the first. -/
def commaJoined (texts : List String) : String := joined ", " texts

end Querysmith.Text
