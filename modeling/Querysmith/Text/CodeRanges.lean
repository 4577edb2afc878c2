/-!
# Ranges of code points

A character property is given as a list of closed ranges of code points in increasing order,
and a character has the property when one of the ranges holds it.
-/

namespace Querysmith.Text

/-- Closed ranges of code points, in increasing order. -/
abbrev CodeRanges := List (Nat × Nat)

namespace CodeRanges

/-- Whether one of the ranges holds the code point. -/
def contains (ranges : CodeRanges) (code : Nat) : Bool :=
  ranges.any fun r => r.1 ≤ code && code ≤ r.2

/-- The place of a code point inside the range that holds it. -/
def offset? : CodeRanges → Nat → Option Nat
  | [], _ => none
  | (low, high) :: rest, code =>
    if low ≤ code && code ≤ high then some (code - low) else offset? rest code

theorem contains_eq_true_iff {ranges : CodeRanges} {code : Nat} :
    ranges.contains code = true ↔ ∃ r ∈ ranges, r.1 ≤ code ∧ code ≤ r.2 := by
  simp [contains]

end CodeRanges

end Querysmith.Text
