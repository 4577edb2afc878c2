import Querysmith.Profile.Toml.Moment
import Querysmith.Profile.Toml.Numeral
import Querysmith.Profile.Toml.Tables

/-!
# Values of profile files

Strings, truth values, numbers, dates and times, arrays, and tables on one line. Arrays may hold
values of different kinds, line ends and comments.
-/

namespace Querysmith.Toml

/-- The greatest depth. An array is two deep, and a table on one line three, because its keys
have values of their own. -/
def depthLimit : Nat := 980

mutual
/-- A value at a depth. -/
def readValue (depth : Nat) : (fuel : Nat) → Reader Value
  | 0, cs => fail .value cs
  | fuel + 1, cs =>
    match cs with
    | '"' :: _ => (readQuoted '"' cs).map fun (s, rest) => (.str s, rest)
    | '\x27' :: _ => (readQuoted '\x27' cs).map fun (s, rest) => (.str s, rest)
    | 't' :: 'r' :: 'u' :: 'e' :: rest => .ok (.bool true, rest)
    | 'f' :: 'a' :: 'l' :: 's' :: 'e' :: rest => .ok (.bool false, rest)
    | '[' :: rest =>
      if depth + 2 ≤ depthLimit then
        (readItems (depth + 2) fuel rest).map fun (vs, rest) => (.list vs, rest)
      else .error .tooDeep
    | '\x7b' :: rest =>
      if depth + 3 ≤ depthLimit then
        match skipSpaces rest with
        | '\x7d' :: rest => .ok (.map [], rest)
        | rest =>
          (readPairs (depth + 3) fuel {} rest).map fun (t, rest) => (.map t.entries, rest)
      else .error .tooDeep
    | _ => (readMoment? cs).getD (readNumber cs)

/-- The items of an array and its closing bracket. -/
def readItems (depth : Nat) : (fuel : Nat) → Reader (List Value)
  | 0, cs => fail .arrayEnd cs
  | fuel + 1, cs => do
    match ← skipLines (cs.length + 1) cs with
    | ']' :: rest => pure ([], rest)
    | cs =>
      let (v, rest) ← readValue depth fuel cs
      match ← skipLines (rest.length + 1) rest with
      | ',' :: rest => do
        let (vs, rest) ← readItems depth fuel rest
        pure (v :: vs, rest)
      | ']' :: rest => pure ([v], rest)
      | rest => fail .arrayEnd rest

/-- A key and its value. -/
def readPair (depth : Nat) : (fuel : Nat) → Reader (List String × Value)
  | 0, cs => fail .keyPart cs
  | fuel + 1, cs => do
    let (key, rest) ← readKey (cs.length + 1) cs
    match rest with
    | '=' :: rest => do
      let (value, rest) ← readValue depth fuel (skipSpaces rest)
      pure ((key, value), rest)
    | rest => fail .equalsSign rest

/-- The keys and values of a table on one line, and its closing brace. -/
def readPairs (depth : Nat) : (fuel : Nat) → InlineTable → Reader InlineTable
  | 0, _, cs => fail .inlineTableEnd cs
  | fuel + 1, t, cs => do
    let ((key, value), rest) ← readPair depth fuel cs
    let t ← located rest (t.setValue key value)
    match skipSpaces rest with
    | '\x7d' :: rest => pure (t, rest)
    | ',' :: rest => readPairs depth fuel t (skipSpaces rest)
    | rest => fail .inlineTableEnd rest
end

end Querysmith.Toml
