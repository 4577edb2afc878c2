import Querysmith.Profile.Toml.Fault

/-!
# Strings and keys of profile files

Blanks and comments, strings between quotes, and the keys that they can be a part of. A basic
string knows escapes, a literal string none; with three quotes on either side a string goes
over several lines.
-/

namespace Querysmith.Toml

/-- Blanks inside a line. -/
def isSpace (c : Char) : Bool := c = ' ' || c = '\t'

/-- Blanks inside a line, and its end. -/
def isSpaceOrLineEnd (c : Char) : Bool := isSpace c || c = '\n'

/-- Skips the blanks of a line. -/
def skipSpaces (cs : List Char) : List Char := cs.dropWhile isSpace

/-- Control characters that no line of the file can hold. -/
def isControl (c : Char) : Bool := (c.toNat < 32 && c ≠ '\t') || c.toNat = 127

/-- Characters that a string cannot hold as they are. -/
def isForbidden (long : Bool) (c : Char) : Bool := isControl c && !(long && c = '\n')

/-- Refuses `body`, which is how `cs` starts, when a forbidden character stands in it. -/
def refuseStray (forbidden : Char → Bool) (body cs : List Char) : Result Unit :=
  match body.find? forbidden with
  | some c => fail (.strayCharacter c) (cs.dropWhile fun d => !forbidden d)
  | none => .ok ()

/-- The rest of the line behind a comment, if one is there. -/
def skipComment : List Char → Result (List Char)
  | '#' :: rest => do
    refuseStray isControl (rest.takeWhile (· ≠ '\n')) rest
    pure (rest.dropWhile (· ≠ '\n'))
  | cs => .ok cs

/-- Skips blanks, line ends and comments; `fuel` bounds their number. -/
def skipLines : (fuel : Nat) → List Char → Result (List Char)
  | 0, cs => .ok cs
  | fuel + 1, cs =>
    match cs.dropWhile isSpaceOrLineEnd with
    | '#' :: rest => do
      let rest ← skipComment ('#' :: rest)
      skipLines fuel rest
    | rest => .ok rest

/-! ## Escapes -/

/-- The value of a hexadecimal digit. -/
def hexDigit? (c : Char) : Option Nat :=
  if c.isDigit then some (c.toNat - 48)
  else if 'a' ≤ c && c ≤ 'f' then some (c.toNat - 87)
  else if 'A' ≤ c && c ≤ 'F' then some (c.toNat - 55)
  else none

/-- The value of hexadecimal digits. -/
def hexValue? (cs : List Char) : Option Nat :=
  cs.foldl (fun acc c => do pure (16 * (← acc) + (← hexDigit? c))) (some 0)

/-- The character of a code point given by so many hexadecimal digits. -/
def readCode (digits : Nat) : Reader (List Char) := fun cs =>
  let hex := cs.take digits
  if hex.length < digits then fail .hexDigits cs
  else match hexValue? hex with
    | some n =>
      if n.isValidChar then .ok ([Char.ofNat n], cs.drop digits)
      else fail .codePoint (cs.drop digits)
    | none => fail .hexDigits cs

/-- What a backslash that ends a line skips: blanks and line ends. -/
def readLineBreak : Reader (List Char) := fun cs =>
  match skipSpaces cs with
  | [] => .ok ([], [])
  | '\n' :: rest => .ok ([], rest.dropWhile isSpaceOrLineEnd)
  | rest => fail .escape rest

/-- What an escape stands for, behind its backslash. -/
def readEscape (long : Bool) : Reader (List Char)
  | 'b' :: rest => .ok (['\x08'], rest)
  | 't' :: rest => .ok (['\t'], rest)
  | 'n' :: rest => .ok (['\n'], rest)
  | 'f' :: rest => .ok (['\x0c'], rest)
  | 'r' :: rest => .ok (['\r'], rest)
  | '"' :: rest => .ok (['"'], rest)
  | '\\' :: rest => .ok (['\\'], rest)
  | 'u' :: rest => readCode 4 rest
  | 'U' :: rest => readCode 8 rest
  | c :: rest => if long && isSpaceOrLineEnd c then readLineBreak (c :: rest) else fail .escape rest
  | [] => fail .escape []

/-! ## Strings -/

/-- A basic string behind its opening quotes. -/
def readBasic (long : Bool) : (fuel : Nat) → Reader (List Char)
  | 0, cs => fail .unterminated cs
  | _, [] => fail .unterminated []
  | fuel + 1, c :: rest =>
    if c = '"' && !long then .ok ([], rest)
    else if c = '"' && rest.take 2 = ['"', '"'] then .ok ([], rest.drop 2)
    else if c = '\\' then do
      let (ds, rest) ← readEscape long rest
      let (es, rest) ← readBasic long fuel rest
      pure (ds ++ es, rest)
    else if isForbidden long c then fail (.stringCharacter c) (c :: rest)
    else do
      let (ds, rest) ← readBasic long fuel rest
      pure (c :: ds, rest)

/-- A text up to the quotes that end it, and what follows them. -/
def splitAtQuotes? (quotes : List Char) : List Char → Option (List Char × List Char)
  | [] => none
  | c :: rest =>
    if quotes.isPrefixOf (c :: rest) then some ([], (c :: rest).drop quotes.length)
    else (splitAtQuotes? quotes rest).map fun (body, rest) => (c :: body, rest)

/-- A literal string behind its opening quotes, which are the same as those that end it. -/
def readLiteral (long : Bool) (quotes : List Char) : Reader (List Char) := fun cs =>
  match splitAtQuotes? quotes cs with
  | some (body, rest) => do
    refuseStray (isForbidden long) body cs
    pure (body, rest)
  | none => fail (.quotesExpected (String.ofList quotes)) []

/-- A string on one line, which can be a part of a key. -/
def readString : Reader (List Char)
  | '"' :: rest => readBasic false (rest.length + 1) rest
  | '\x27' :: rest => readLiteral false ['\x27'] rest
  | cs => fail .keyPart cs

/-- A string over several lines behind its opening quotes. A line end at its start is skipped,
and up to two quotes more at its end belong to it. -/
def readLong (quote : Char) : Reader (List Char) := fun cs => do
  let cs := match cs with
    | '\n' :: rest => rest
    | cs => cs
  let (body, rest) ← if quote = '"' then readBasic true (cs.length + 1) cs
    else readLiteral true [quote, quote, quote] cs
  let more := (rest.take 2).takeWhile (· = quote)
  pure (body ++ more, rest.drop more.length)

/-- A string that starts with this quote. -/
def readQuoted (quote : Char) : Reader String := fun cs => do
  let (body, rest) ← if cs.take 3 = [quote, quote, quote] then readLong quote (cs.drop 3)
    else readString cs
  pure (String.ofList body, rest)

/-! ## Keys -/

/-- Characters of a bare key. -/
def isBare (c : Char) : Bool := c.isAlphanum || c = '-' || c = '_'

/-- Characters that a key starts with. -/
def startsKey (c : Char) : Bool := isBare c || c = '"' || c = '\x27'

/-- One part of a key. -/
def readKeyPart : Reader String := fun cs =>
  match cs with
  | [] => fail .keyPart []
  | c :: _ =>
    if isBare c then .ok (String.ofList (cs.takeWhile isBare), cs.dropWhile isBare)
    else (readString cs).map fun (s, rest) => (String.ofList s, rest)

/-- A key: parts with dots between them, and the blanks behind it. -/
def readKey : (fuel : Nat) → Reader (List String)
  | 0, cs => fail .keyPart cs
  | fuel + 1, cs => do
    let (part, rest) ← readKeyPart cs
    match skipSpaces rest with
    | '.' :: rest => do
      let (parts, rest) ← readKey fuel (skipSpaces rest)
      pure (part :: parts, rest)
    | rest => pure ([part], rest)

end Querysmith.Toml
