import Querysmith.Value.Basic
import Querysmith.Text.Joined
import Querysmith.Text.Shown
import Querysmith.Number.Shortest

/-!
# The text of a value

`Value.text` is what a value contributes to a statement: a text is taken as it is, and any
other value as it is shown. `Value.shown` is the form inside lists and messages, where texts
are quoted.
-/

namespace Querysmith.Value

open Text

/-- Items between parentheses; a single item is followed by a comma. -/
def shownTuple : List String → String
  | [item] => "(" ++ item ++ ",)"
  | items => "(" ++ commaJoined items ++ ")"

mutual
/-- A value as it is shown inside another one. -/
def shown : Value → String
  | .null => "None"
  | .bool true => "True"
  | .bool false => "False"
  | .int n => toString n
  | .float x => x.text
  | .decimal d => "Decimal('" ++ d.text ++ "')"
  | .str s => Text.shown s
  | .bytes content => shownBytes content
  | .list items => "[" ++ commaJoined (shownItems items) ++ "]"
  | .tuple items => shownTuple (shownItems items)
  | .map entries => "\x7b" ++ commaJoined (shownEntries entries) ++ "\x7d"
  | .moment m => m.shown
  | .omitted => "EMPTY"
  | .function => "<function>"

/-- The items of a list, each as it is shown. -/
def shownItems : List Value → List String
  | [] => []
  | v :: rest => v.shown :: shownItems rest

/-- The entries of a map, each as it is shown. -/
def shownEntries : List (Value × Value) → List String
  | [] => []
  | (k, v) :: rest => (k.shown ++ ": " ++ v.shown) :: shownEntries rest
end

/-- What a value contributes to a text. -/
def text : Value → String
  | .str s => s
  | .decimal d => d.text
  | .moment m => m.text
  | v => v.shown

@[simp] theorem text_str (s : String) : (Value.str s).text = s := rfl

end Querysmith.Value
