import Querysmith.Text.Joined

/-!
# Paths

A path is a root and the names on the way from it. Repeated and trailing slashes and single
dots do not count; two dots stay. A path that starts with exactly two slashes has a root of
its own.
-/

namespace Querysmith

/-- A path of the file system. -/
structure Path where
  /-- One slash, two slashes, or nothing for a relative path. -/
  root : String
  names : List String
  deriving DecidableEq, Repr

namespace Path

/-- The texts between slashes. -/
def splitSlashes : List Char → List (List Char)
  | [] => [[]]
  | c :: rest =>
    if c = '/' then [] :: splitSlashes rest
    else match splitSlashes rest with
      | [] => [[c]]
      | name :: names => (c :: name) :: names

/-- The root of a path by its number of leading slashes. -/
def rootOf : Nat → String
  | 0 => ""
  | 2 => "//"
  | _ => "/"

/-- The names of a path, without the ones that do not count. -/
def namesOf (cs : List Char) : List String :=
  ((splitSlashes cs).filter fun name => !name.isEmpty && name ≠ ['.']).map String.ofList

/-- The path that a text writes. -/
def ofString (s : String) : Path :=
  { root := rootOf (s.toList.takeWhile (· = '/')).length, names := namesOf s.toList }

/-- The text of a path. -/
def text (p : Path) : String :=
  if p.root = "" && p.names.isEmpty then "." else p.root ++ Text.joined "/" p.names

/-- Whether the path starts at the root. -/
def isAbsolute (p : Path) : Bool := p.root ≠ ""

/-- The path of an entry of a directory. -/
def entry (p : Path) (name : String) : Path := { p with names := p.names ++ [name] }

/-- The path without slashes at its end; the root alone keeps one. -/
def trimSlashes (s : String) : String :=
  match (s.toList.reverse.dropWhile (· = '/')).reverse with
  | [] => "/"
  | cs => String.ofList cs

/-- The user whose home directory the path starts from: the name behind a leading `~`, which is
empty for the user at hand. -/
def user? (p : Path) : Option String :=
  match p.root, p.names with
  | "", name :: _ =>
    match name.toList with
    | '~' :: user => some (String.ofList user)
    | _ => none
  | _, _ => none

/-- Replaces a leading `~`, with the name behind it, by the home directory of that user, which
`homeOf` gives. None when the directory is not known, or starts with `~` itself. -/
def expandHome? (homeOf : String → Option String) (p : Path) : Option Path :=
  match p.user? with
  | none => some p
  | some user =>
    match (homeOf user).map trimSlashes with
    | some home =>
      if home.toList.head? = some '~' then none
      else
        let home := ofString home
        some { home with names := home.names ++ p.names.drop 1 }
    | none => none

end Path

end Querysmith
