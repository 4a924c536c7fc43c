import GnuplotScript.Text.Lines

/-!
# Paths

A path is a text of names with slashes between them. Empty names and the name of a single
dot lead nowhere; two dots lead to the parent directory and are kept, since the name before
them may be a link.

## Main definitions

* `Path.names` — the names in a path, slashes alone left out
* `Path.isAbsolute`, `Path.endsInSlash` — where a path starts, and whether it must name a
  directory
* `Path.child` — the path of a name inside a directory
-/

namespace GnuplotScript.Path

open Text (join pieces)

/-- The names between the slashes of a path, without the empty ones. -/
def names (path : String) : List String :=
  ((pieces '/' path.toList).filter fun name => !name.isEmpty).map String.ofList

/-- Whether a path starts at the root. -/
def isAbsolute (path : String) : Bool :=
  path.toList.head? == some '/'

/-- Whether a path ends in a slash, so that it can only name a directory. -/
def endsInSlash (path : String) : Bool :=
  path.toList.getLast? == some '/'

/-- The names that lead somewhere: a single dot does not. -/
def steps (path : String) : List String :=
  (names path).filter (· ≠ ".")

/-- The root that a path starts at, as it is written: exactly two slashes are kept, any other
number counts as one. -/
def root (path : String) : String :=
  match path.toList.takeWhile (· == '/') with
  | [] => ""
  | ['/', '/'] => "//"
  | _ => "/"

/-- The path of a name inside the directory that a path names. -/
def child (directory name : String) : String :=
  root directory ++ join "/" (steps directory ++ [name])

end GnuplotScript.Path
