import Querysmith.Error
import Querysmith.Profile.Path

/-!
# File trees

Files and directories by the names on the way from the root. A directory is listed, or
holds something that is.
-/

namespace Querysmith

/-- What can be read from disk. -/
structure FileTree where
  directories : List (List String) := []
  files : List (List String × String) := []

namespace FileTree

/-- Whether the names lead to a directory. -/
def isDirectory (t : FileTree) (names : List String) : Bool :=
  names.isEmpty ||
  t.directories.any (fun d => names.isPrefixOf d) ||
  t.files.any (fun f => names.isPrefixOf f.1 && names ≠ f.1)

/-- The text of the file that the names lead to. -/
def file? (t : FileTree) (names : List String) : Option String :=
  (t.files.find? fun f => f.1 = names).map Prod.snd

/-- The most bytes in a name. -/
def nameLimit : Nat := 255

/-- The number of bytes from which on a path is too long. -/
def pathLimit : Nat := 4096

/-- What is found by following a path. -/
inductive Lookup where
  | nothing
  /-- The names on the way from the root. -/
  | found (names : List String)
  /-- A name, or the path, that is too long. -/
  | tooLong
  deriving DecidableEq, Repr

/-- Follows names from a place, whose own names stand nearest first; two dots lead back. Only
a directory can be left. -/
def walk (t : FileTree) (place : List String) : List String → Lookup
  | [] => .found place.reverse
  | name :: rest =>
    if !t.isDirectory place.reverse then .nothing
    else if nameLimit < name.utf8ByteSize then .tooLong
    else t.walk (if name = ".." then place.drop 1 else name :: place) rest

/-- Follows a path from a place where nothing is known to be. -/
def walkNowhere (names : List String) : Lookup :=
  match names.dropWhile (· = "..") with
  | name :: _ => if nameLimit < name.utf8ByteSize then .tooLong else .nothing
  | [] => .nothing

/-- What an absolute path leads to. Nothing is found by a relative one, or by a path with a
null character. -/
def lookup (t : FileTree) (p : Path) : Lookup :=
  if p.text.toList.contains '\x00' then .nothing
  else if pathLimit ≤ p.text.utf8ByteSize then .tooLong
  else if p.isAbsolute then t.walk [] p.names
  else walkNowhere p.names

/-- Whether a file or a directory is at the path. -/
def contains (t : FileTree) (p : Path) : Except Error Bool :=
  match t.lookup p with
  | .nothing => .ok false
  | .found names => .ok (t.isDirectory names || (t.file? names).isSome)
  | .tooLong => .error (.longPath p.text)

/-- Reads the file at the path; none when there is nothing. -/
def read? (t : FileTree) (p : Path) : Except Error (Option String) :=
  match t.lookup p with
  | .nothing => .ok none
  | .found names =>
    if t.isDirectory names then .error (.directory p.text) else .ok (t.file? names)
  | .tooLong => .error (.longPath p.text)

end FileTree

end Querysmith
