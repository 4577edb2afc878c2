import Querysmith.Value.Key

/-!
# Items and maps

What a value holds when it is gone through item by item, and maps as entries in insertion
order.
-/

namespace Querysmith

namespace Value

/-- The items of a value: the characters of a text, the bytes of a byte string, the keys of a
map. -/
def items : Value → Except Error (List Value)
  | .str s => .ok (s.toList.map fun c => .str (String.singleton c))
  | .bytes content => .ok (content.map fun b => .int b.toNat)
  | .list items => .ok items
  | .tuple items => .ok items
  | .map entries => .ok (entries.map Prod.fst)
  | v => .error (.notIterable v.kindName)

end Value

namespace Entries

/-- The value of a key. -/
def get? (entries : Entries) (key : Value) : Option Value :=
  (entries.find? fun e => e.1.sameKey key).map Prod.snd

/-- Sets the value of a key: in its place when the key is there, else at the end. -/
def set (entries : Entries) (key value : Value) : Entries :=
  match entries with
  | [] => [(key, value)]
  | e :: rest => if e.1.sameKey key then (e.1, value) :: rest else e :: set rest key value

/-- Takes a key out. -/
def erase (entries : Entries) (key : Value) : Entries :=
  entries.filter fun e => !e.1.sameKey key

/-- Sets every key of `updates` in order. -/
def update (entries updates : Entries) : Entries :=
  updates.foldl (fun acc e => acc.set e.1 e.2) entries

/-- The entry that the value at a position makes: a key and a value. -/
def entryAt (position : Nat) (v : Value) : Except Error (Value × Value) :=
  match v.items with
  | .error _ => .error (.notPair position)
  | .ok [key, value] => do
    let key ← key.asKey
    pure (key, value)
  | .ok items => .error (.pairLength position items.length)

/-- The entries that a row of values makes, counted from `position`. -/
def ofItems (position : Nat) : List Value → Except Error Entries
  | [] => .ok []
  | v :: rest => do
    let e ← entryAt position v
    let es ← ofItems (position + 1) rest
    pure (e :: es)

/-- The entries of a map, or of items that are pairs. -/
def ofValue : Value → Except Error Entries
  | .map entries => .ok entries
  | v => do
    let items ← v.items
    let pairs ← ofItems 0 items
    pure (update [] pairs)

end Entries

end Querysmith
