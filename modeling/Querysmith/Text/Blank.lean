import Querysmith.Text.CodeRanges

/-!
# Blanks

White space: the line and field separators of the control area, and every space, line and
paragraph separator.
-/

namespace Querysmith.Text

/-- The blank code points. -/
def blankRanges : CodeRanges :=
  [(9, 13), (28, 32), (0x85, 0x85), (0xa0, 0xa0), (0x1680, 0x1680), (0x2000, 0x200a),
   (0x2028, 0x2029), (0x202f, 0x202f), (0x205f, 0x205f), (0x3000, 0x3000)]

/-- Whether a character is white space. -/
def isBlank (c : Char) : Bool := blankRanges.contains c.toNat

/-- Drops the blanks at both ends. -/
def trimBlanks (cs : List Char) : List Char :=
  ((cs.dropWhile isBlank).reverse.dropWhile isBlank).reverse

/-- Whether a blank comes next. -/
def startsBlank : List Char → Bool
  | [] => false
  | c :: _ => isBlank c

/-- Collapses runs of blanks; `inRun` tells that the text starts behind the first blank of a
run. -/
def collapseFrom (inRun : Bool) : List Char → List Char
  | [] => []
  | c :: rest =>
    if isBlank c then
      if inRun then collapseFrom true rest
      else (if startsBlank rest then ' ' else c) :: collapseFrom true rest
    else c :: collapseFrom false rest

/-- Writes every run of two or more blanks as one space. A single blank stays as it is. -/
def collapseBlanks (cs : List Char) : List Char := collapseFrom false cs

end Querysmith.Text
