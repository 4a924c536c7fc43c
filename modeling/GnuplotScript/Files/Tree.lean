import GnuplotScript.Files.Path
import GnuplotScript.Text.Inspect

/-!
# File trees

What the program knows of the file system: some files and directories, together with its
working directory, the directories above that and the root. A path is followed name by name,
and each name but the last must lead to a directory.

## Main definitions

* `Place` — where a path leads to
* `FileTree` — the entries that are known
* `FileTree.Trouble` — why a path cannot be read or written
* `FileTree.isDirectory` — whether a path names a directory
* `FileTree.read` — the content of a file
* `FileTree.opened`, `FileTree.insert` — the place of a file that is written, and the tree with its
  entry set
* `FileTree.changes` — the files that one tree has and another has not
-/

namespace GnuplotScript

/-- What a path can name. -/
inductive Entry where
  | directory
  | file (octets : List UInt8)
  deriving DecidableEq, Repr

/-- A place in the file system: some number of levels above the working directory, or the
root if there is none, and names down from there. -/
structure Place where
  levels : Option Nat
  down : List String
  deriving DecidableEq, Repr

namespace Place

/-- The working directory. -/
def working : Place := ⟨some 0, []⟩

/-- The root directory. -/
def root : Place := ⟨none, []⟩

/-- Where a path starts. -/
def start (path : String) : Place :=
  if Path.isAbsolute path then root else working

/-- Where a name leads from a directory. -/
def step (place : Place) (name : String) : Place :=
  -- A single dot stays where it is, but the walk has asked for a directory.
  if name = "." then place
  else if name = ".." then
    match place.down with
    -- Nothing is above the root, whose number of levels is none.
    | [] => { place with levels := place.levels.map (· + 1) }
    | _ :: _ => { place with down := place.down.dropLast }
  else { place with down := place.down ++ [name] }

/-- The place that a path leads to if all directories on the way are there. -/
def ofPath (path : String) : Place :=
  (Path.names path).foldl step (start path)

/-- A path to a place. -/
def path (place : Place) : String :=
  match place.levels with
  | none => "/" ++ Text.join "/" place.down
  | some count => Text.join "/" (List.replicate count ".." ++ place.down)

end Place

/-- The entries that are known, each by its place. -/
structure FileTree where
  entries : List (Place × Entry)
  deriving DecidableEq, Repr

namespace FileTree

/-- Why a path cannot be read or written. -/
inductive Trouble where
  | notFound
  | isDirectory
  | notDirectory
  | nameTooLong
  | nullCharacter
  deriving DecidableEq, Repr

/-- What messages say of trouble with a path. -/
def Trouble.message (path : String) : Trouble → String
  | notFound => "[Errno 2] No such file or directory: " ++ Text.inspect path
  | isDirectory => "[Errno 21] Is a directory: " ++ Text.inspect path
  | notDirectory => "[Errno 20] Not a directory: " ++ Text.inspect path
  | nameTooLong => "[Errno 36] File name too long: " ++ Text.inspect path
  | nullCharacter => "embedded null byte"

/-- What there is at a place. The working directory, those above it and the root are always
there. -/
def entry? (tree : FileTree) (place : Place) : Option Entry :=
  if place.down = [] then some .directory else tree.entries.lookup place

/-- The place that names lead to; every place on the way must be a directory. -/
def walk (tree : FileTree) (place : Place) : List String → Except Trouble Place
  | [] => .ok place
  | name :: rest =>
    match tree.entry? place with
    | none => .error .notFound
    | some (.file _) => .error .notDirectory
    | some .directory =>
      if name.utf8ByteSize > 255 then .error .nameTooLong
      else walk tree (place.step name) rest

/-- The place that a path leads to. -/
def resolve (tree : FileTree) (path : String) : Except Trouble Place :=
  if path.toList.contains '\x00' then .error .nullCharacter
  else if path = "" then .error .notFound
  else if path.utf8ByteSize ≥ 4096 then .error .nameTooLong
  else tree.walk (.start path) (Path.names path)

/-- Whether a path names a directory. -/
def isDirectory (tree : FileTree) (path : String) : Bool :=
  match tree.resolve path with
  | .ok place => tree.entry? place == some .directory
  | .error _ => false

/-- The content of the file that a path names. -/
def read (tree : FileTree) (path : String) : Except Trouble (List UInt8) :=
  match tree.resolve path with
  | .error trouble => .error trouble
  | .ok place =>
    match tree.entry? place with
    | none => .error .notFound
    | some .directory => .error .isDirectory
    | some (.file octets) =>
      -- A slash at the end asks for a directory.
      if Path.endsInSlash path then .error .notDirectory else .ok octets

/-- The tree with an entry set. -/
def insert (tree : FileTree) (place : Place) (entry : Entry) : FileTree :=
  ⟨tree.entries.filter (fun (other, _) => other ≠ place) ++ [(place, entry)]⟩

/-- The place of the file that a path opens for writing, whether or not it is there already. A path
that ends in a slash can only be that of a directory. -/
def opened (tree : FileTree) (path : String) : Except Trouble Place :=
  match tree.resolve path with
  | .error trouble => .error trouble
  | .ok place =>
    if Path.endsInSlash path || tree.entry? place == some .directory then .error .isDirectory
    else .ok place

/-- The tree with a directory and all directories that lead to it. -/
def addDirectory (tree : FileTree) (place : Place) : FileTree :=
  (List.range place.down.length).foldl
    (fun sofar depth =>
      sofar.insert { place with down := place.down.take (depth + 1) } .directory) tree

/-- The tree with a file and all directories that lead to it. -/
def addFile (tree : FileTree) (place : Place) (octets : List UInt8) : FileTree :=
  (tree.addDirectory { place with down := place.down.dropLast }).insert place (.file octets)

/-- The files that a later tree has and an earlier one has not, with their contents. -/
def changes (before after : FileTree) : List (Place × List UInt8) :=
  after.entries.filterMap fun (place, entry) =>
    match entry with
    | .directory => none
    | .file octets =>
      -- A file that is rewritten as it was has not changed.
      if before.entry? place = some (.file octets) then none else some (place, octets)

@[simp] theorem insert_insert (tree : FileTree) (place : Place) (entry other : Entry) :
    (tree.insert place entry).insert place other = tree.insert place other := by
  simp [insert]

end FileTree

end GnuplotScript
