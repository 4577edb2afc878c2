import Querysmith.Number.Binary64
import Querysmith.Number.Decimal
import Querysmith.Value.Moment

/-!
# Values

What a statement binds, what a setting holds and what a result row carries: a value of one of
a few kinds, known only when the program runs. Texts that a caller supplies for names and
operators are values too, because they are written into a statement whatever their kind.
-/

namespace Querysmith

/-- A value. -/
inductive Value where
  | null
  | bool (value : Bool)
  | int (value : Int)
  | float (value : Binary64)
  | decimal (value : Decimal)
  | str (value : String)
  | bytes (content : List UInt8)
  | list (items : List Value)
  | tuple (items : List Value)
  /-- Keys and values in the order in which the keys came. -/
  | map (entries : List (Value × Value))
  /-- A day, a time or both, as profile files hold them. -/
  | moment (moment : Moment)
  /-- An argument that was left out, told apart from every value that can be given. -/
  | omitted
  /-- A block of calls where a value is expected: it can be kept, but not read. -/
  | function
  deriving Inhabited

/-- The entries of a map, in insertion order. -/
abbrev Entries := List (Value × Value)

namespace Value

/-- The name of a value's kind, as messages give it. -/
def kindName : Value → String
  | .null => "NoneType"
  | .bool _ => "bool"
  | .int _ => "int"
  | .float _ => "float"
  | .decimal _ => "decimal.Decimal"
  | .str _ => "str"
  | .bytes _ => "bytes"
  | .list _ => "list"
  | .tuple _ => "tuple"
  | .map _ => "dict"
  | .moment m => "datetime." ++ m.kindName
  | .omitted => "_Empty"
  | .function => "function"

/-- The name of a value's kind without the group that the kind belongs to. -/
def shortKindName : Value → String
  | .decimal _ => "Decimal"
  | .moment m => m.kindName
  | v => v.kindName

/-- A value counts as true unless it is null, false, a zero, or empty. -/
def isTrue : Value → Bool
  | .null => false
  | .bool b => b
  | .int n => n ≠ 0
  | .float x => !x.isZero
  | .decimal d => !d.isZero
  | .str s => s ≠ ""
  | .bytes content => !content.isEmpty
  | .list items => !items.isEmpty
  | .tuple items => !items.isEmpty
  | .map entries => !entries.isEmpty
  | .moment _ => true
  | .omitted => true
  | .function => true

/-- Whether the value is null. -/
def isNull : Value → Bool
  | .null => true
  | _ => false

/-- The text of a value that is one. -/
def str? : Value → Option String
  | .str s => some s
  | _ => none

/-- The first value when it counts as true, else the second. -/
def orElse (v default : Value) : Value := if v.isTrue then v else default

end Value

end Querysmith
