import Querysmith.Text.Joined
import Mathlib.Algebra.BigOperators.Group.List.Basic
import Mathlib.Algebra.GroupWithZero.Nat

/-!
# Placeholders in texts

A placeholder is the character `?`. `marks` counts the placeholders of a text and `fill` writes
texts in their places, one for each from the left; what is written is not looked at again.
Filling goes through concatenation as long as every part gets the texts of its own placeholders,
which is what keeps a value with its placeholder when a statement is assembled.

## Key results

- `marks_append`, `marks_joined`: placeholders add up
- `fill_append`, `fill_joined`: parts are filled one by one
- `fill_eq_empty_iff`: filling with texts that are not empty leaves no text empty
-/

namespace Querysmith.Text

/-- The number of placeholders of a text. -/
def marks (s : String) : Nat := s.toList.count '?'

/-- Writes texts in the places of placeholders, from the left. -/
def fillFrom : List Char → List String → List Char
  | cs, [] => cs
  | [], _ :: _ => []
  | c :: cs, t :: ts => if c = '?' then t.toList ++ fillFrom cs ts else c :: fillFrom cs (t :: ts)

/-- The text with its placeholders filled. -/
def fill (s : String) (texts : List String) : String := String.ofList (fillFrom s.toList texts)

/-! ## Counting -/

@[simp] theorem marks_empty : marks "" = 0 := rfl

@[simp] theorem marks_append (s t : String) : marks (s ++ t) = marks s + marks t := by
  simp [marks, List.count_append]

/-- A separator without placeholders adds none. -/
theorem marks_joined {separator : String} (hsep : marks separator = 0) (texts : List String) :
    marks (joined separator texts) = (texts.map marks).sum := by
  induction texts with
  | nil => rfl
  | cons s rest ih =>
    cases rest with
    -- the separator stands between neighbours, so the last text has none behind it
    | nil => simp
    | cons t rest =>
      rw [joined_cons_cons, marks_append, marks_append, hsep, ih, List.map_cons, List.sum_cons]
      rfl

/-- A list of texts without placeholders has none. -/
theorem marks_commaJoined {texts : List String} (h : ∀ s ∈ texts, marks s = 0) :
    marks (commaJoined texts) = 0 := by
  rw [commaJoined, marks_joined (by decide), List.sum_eq_zero]
  simpa using h

/-- Numbers have no placeholders. -/
theorem marks_nat (n : Nat) : marks n.repr = 0 := by
  rw [marks, Nat.toList_repr, List.count_eq_zero]
  intro h
  -- every character of a number is a digit, which `?` is not
  have := Nat.isDigit_of_mem_toDigits (by decide) (by decide) h
  exact absurd this (by decide)

/-- A whole number has no placeholder in its text. -/
theorem marks_int (n : Int) : marks (toString n) = 0 := by
  cases n with
  | ofNat m => exact marks_nat m
  | negSucc m =>
    have h : toString (Int.negSucc m) = "-" ++ (m + 1).repr := rfl
    rw [h, marks_append, marks_nat]
    rfl

/-! ## Filling -/

@[simp] theorem fillFrom_nil (cs : List Char) : fillFrom cs [] = cs := by
  cases cs <;> rfl

@[simp] theorem fill_nil (s : String) : fill s [] = s := by
  simp [fill]

/-- Both parts of a list are filled with their own texts. -/
private theorem fillFrom_append (cs ds : List Char) (xs ys : List String)
    (h : cs.count '?' = xs.length) :
    fillFrom (cs ++ ds) (xs ++ ys) = fillFrom cs xs ++ fillFrom ds ys := by
  induction cs generalizing xs with
  | nil =>
    obtain rfl : xs = [] := by simpa using h.symm
    simp
  | cons c cs ih =>
    by_cases hc : c = '?'
    · subst hc
      -- the placeholder takes the first of the texts, and there is one
      cases xs with
      | nil => simp at h
      | cons x xs =>
        have hcs : cs.count '?' = xs.length := by simpa using h
        simp [fillFrom, ih xs hcs, List.append_assoc]
    · have hcs : cs.count '?' = xs.length := by simpa [hc] using h
      have ih := ih xs hcs
      -- the texts may have run out, on either side
      cases xs with
      | nil =>
        cases ys with
        | nil => simp
        | cons y ys => simpa [fillFrom, hc] using ih
      | cons x xs => simpa [fillFrom, hc] using ih

/-- Both parts of a text are filled with their own texts. -/
theorem fill_append {s : String} {xs : List String} (h : marks s = xs.length) (t : String)
    (ys : List String) : fill (s ++ t) (xs ++ ys) = fill s xs ++ fill t ys := by
  rw [fill, String.toList_append, fillFrom_append _ _ _ _ h, String.ofList_append]
  rfl

/-- A part without placeholders in front is left as it is. -/
theorem fill_append_left {s : String} (h : marks s = 0) (t : String) (ys : List String) :
    fill (s ++ t) ys = s ++ fill t ys := by
  have hnone : marks s = ([] : List String).length := h
  simpa using fill_append hnone t ys

/-- A part at the end gets no texts when those before it take them all. -/
theorem fill_append_right {s : String} {xs : List String} (h : marks s = xs.length) (t : String) :
    fill (s ++ t) xs = fill s xs ++ t := by
  simpa using fill_append h t []

/-- Between parentheses, or any other parts without placeholders. -/
theorem fill_between {left s : String} (hl : marks left = 0) {xs : List String}
    (h : marks s = xs.length) (right : String) :
    fill (left ++ s ++ right) xs = left ++ fill s xs ++ right := by
  rw [String.append_assoc, fill_append_left hl, fill_append_right h, String.append_assoc]

/-- A placeholder gives way to its text. -/
@[simp] theorem fill_mark (x : String) : fill "?" [x] = x := by
  have h : "?".toList = ['?'] := by decide
  simp [fill, h, fillFrom]

/-- Texts that are not empty leave an empty text only where there was one. -/
private theorem fillFrom_eq_nil_iff (cs : List Char) (xs : List String) (h : ∀ x ∈ xs, x ≠ "") :
    fillFrom cs xs = [] ↔ cs = [] := by
  cases cs with
  | nil => cases xs <;> simp [fillFrom]
  | cons c cs =>
    cases xs with
    | nil => simp
    | cons x xs =>
      by_cases hc : c = '?'
      · -- the only character that goes away is a placeholder, and its text stays
        have hx : x.toList ≠ [] := by simpa using h x List.mem_cons_self
        simp [fillFrom, hc, hx]
      · simp [fillFrom, hc]

/-- Filling in texts that are not empty makes no text empty. -/
theorem fill_eq_empty_iff {s : String} {xs : List String} (h : ∀ x ∈ xs, x ≠ "") :
    fill s xs = "" ↔ s = "" := by
  rw [fill, String.ofList_eq_empty_iff, fillFrom_eq_nil_iff _ _ h, String.toList_eq_nil_iff]

/-- The parts of a joined text are filled with their own texts. -/
theorem fill_joined {α : Type} {separator : String} (hsep : marks separator = 0)
    (text : α → String) (own : α → List String) (parts : List α)
    (h : ∀ p ∈ parts, marks (text p) = (own p).length) :
    fill (joined separator (parts.map text)) (parts.flatMap own) =
      joined separator (parts.map fun p => fill (text p) (own p)) := by
  induction parts with
  | nil => simp
  | cons p rest ih =>
    have hp := h p List.mem_cons_self
    have ih := ih fun q hq => h q (List.mem_cons_of_mem _ hq)
    cases rest with
    | nil => simp
    | cons q rest =>
      -- the separator goes with the part before it, so that `fill_append` applies to the two
      have hhead : marks (text p ++ separator) = (own p).length := by simp [hp, hsep]
      simp only [List.map_cons, joined_cons_cons, List.flatMap_cons] at ih ⊢
      rw [fill_append hhead, fill_append_right hp, ih]

end Querysmith.Text
