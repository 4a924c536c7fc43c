import GnuplotScript.Proofs.Files.Tree
import GnuplotScript.Proofs.Text.Lines

/-!
# Files in directories

The path of a file in a directory is written anew from the names in the path of the directory.
Those that lead nowhere are left out and the root is kept, so that it leads to the file in the
same directory. But where nothing is left of the path of the directory, the name of the file
stands alone.

## Main definitions

* `Path.IsName` — names that can stand between slashes

## Main results

* `Path.names_child`, `Path.root_child` — the names and the root of such a path
* `Path.slash_mem_child_iff` — when there is a slash in it
* `FileTree.walk_child` — the file that it leads to
-/

namespace GnuplotScript

open Text (join pieces)

variable {name path directory : String} {ns : List String}

namespace Path

/-- A name that can stand between slashes: not empty, and without a slash. -/
def IsName (name : String) : Prop :=
  name ≠ "" ∧ '/' ∉ name.toList

/-! ### Names -/

theorem isName_of_mem_names (h : name ∈ names path) : IsName name := by
  obtain ⟨piece, hpiece, rfl⟩ := List.mem_map.1 h
  obtain ⟨hmem, filled⟩ := List.mem_filter.1 hpiece
  rw [IsName, String.toList_ofList]
  refine ⟨?_, Text.notMem_of_mem_pieces hmem⟩
  rintro none
  have empty : piece = [] := by simpa using congrArg String.toList none
  simp [empty] at filled

theorem isName_of_mem_steps (h : name ∈ steps path) : IsName name :=
  isName_of_mem_names (List.mem_filter.1 h).1

/-- Names that are joined by slashes are those in the path. -/
theorem names_join (h : ∀ name ∈ ns, IsName name) : names (join "/" ns) = ns := by
  by_cases hne : ns = []
  · rw [hne]
    rfl
  have some : ns.map String.toList ≠ [] := by rwa [Ne, List.map_eq_nil_iff]
  have free : ∀ piece ∈ ns.map String.toList, '/' ∉ piece := by
    rw [List.forall_mem_map]
    exact fun name hname => (h name hname).2
  have filled : ∀ piece ∈ ns.map String.toList, (!piece.isEmpty) = true := by
    rw [List.forall_mem_map]
    intro name hname
    simpa using (h name hname).1
  rw [names, Text.toList_join_of_toList_eq (c := '/') rfl, Text.pieces_joinPieces free some,
    List.filter_eq_self.2 filled, List.map_map]
  exact List.map_id'' (fun _ => String.ofList_toList) ns

/-- A slash in front adds no name. -/
theorem names_slash_append (path : String) : names ("/" ++ path) = names path := by
  have added : pieces '/' ("/" ++ path).toList = [] :: pieces '/' path.toList := by
    rw [String.toList_append]
    exact if_pos rfl
  rw [names, added]
  rfl

/-! ### The root -/

/-- A path starts at no root, or at one that is written as a slash or as two. -/
theorem root_cases (path : String) :
    (isAbsolute path = false ∧ root path = "") ∨
      (isAbsolute path = true ∧ (root path = "/" ∨ root path = "//")) := by
  unfold isAbsolute root
  cases path.toList with
  | nil => exact .inl ⟨rfl, rfl⟩
  | cons c rest =>
    by_cases hc : c = '/'
    · subst hc
      refine .inr ⟨rfl, ?_⟩
      rw [List.takeWhile_cons_of_pos rfl]
      split
      next h => cases h
      next => exact .inr rfl
      next => exact .inl rfl
    · have other : (c == '/') = false := by simpa using hc
      refine .inl ⟨by simpa using hc, ?_⟩
      rw [List.takeWhile_cons_of_neg (by simp [other])]

theorem slash_mem_root_iff : '/' ∈ (root path).toList ↔ isAbsolute path = true := by
  rcases root_cases path with ⟨relative, hroot⟩ | ⟨absolute, hroot | hroot⟩
  · rw [relative, hroot]
    decide
  · rw [absolute, hroot]
    decide
  · rw [absolute, hroot]
    decide

theorem root_root (path : String) : root (root path) = root path := by
  rcases root_cases path with ⟨-, hroot⟩ | ⟨-, hroot | hroot⟩ <;>
    rw [hroot] <;> rfl

/-- Only the slashes that a path begins with say which root it has. -/
theorem root_congr {other : String}
    (h : path.toList.takeWhile (· == '/') = other.toList.takeWhile (· == '/')) :
    root path = root other := by
  rw [root, root, h]

/-- What stands behind a root and is not absolute itself leaves the root as it is. -/
theorem root_root_append (directory : String) (h : isAbsolute path = false) :
    root (root directory ++ path) = root directory := by
  have stops : path.toList.takeWhile (· == '/') = [] := by
    rw [isAbsolute] at h
    cases hpath : path.toList with
    | nil => rfl
    | cons c rest =>
      rw [hpath] at h
      exact List.takeWhile_cons_of_neg (by simpa using h)
  refine (root_congr ?_).trans (root_root directory)
  rcases root_cases directory with ⟨-, hroot⟩ | ⟨-, hroot | hroot⟩ <;>
    simp [hroot, stops]

/-- The root in front adds no name. -/
theorem names_root_append (directory path : String) :
    names (root directory ++ path) = names path := by
  rcases root_cases directory with ⟨-, hroot⟩ | ⟨-, hroot | hroot⟩
  · rw [hroot, String.empty_append]
  · rw [hroot, names_slash_append]
  · have twice : "//" ++ path = "/" ++ ("/" ++ path) := by
      rw [← String.append_assoc]
      rfl
    rw [hroot, twice, names_slash_append, names_slash_append]

theorem isAbsolute_join (h : ∀ name ∈ ns, IsName name) : isAbsolute (join "/" ns) = false := by
  cases ns with
  | nil => rfl
  | cons name others =>
    obtain ⟨filled, free⟩ := h name List.mem_cons_self
    have begins : ∃ rest, (join "/" (name :: others)).toList = name.toList ++ rest := by
      cases others with
      | nil => exact ⟨[], (List.append_nil _).symm⟩
      | cons next others =>
        rw [Text.join_cons_cons, String.append_assoc, String.toList_append]
        exact ⟨_, rfl⟩
    obtain ⟨rest, hrest⟩ := begins
    rw [isAbsolute, hrest]
    cases hname : name.toList with
    | nil => exact absurd (String.toList_eq_nil_iff.1 hname) filled
    | cons c cs =>
      have other : c ≠ '/' := by
        rintro rfl
        exact free (hname ▸ List.mem_cons_self)
      simpa using other

/-! ### Files -/

section Child

variable (directory) (h : IsName name)

include h

theorem isName_of_mem_child : ∀ n ∈ steps directory ++ [name], IsName n := by
  rw [List.forall_mem_append, List.forall_mem_singleton]
  exact ⟨fun n hn => isName_of_mem_steps hn, h⟩

/-- The names in the path of a file are the steps to its directory and its own name. -/
theorem names_child : names (child directory name) = steps directory ++ [name] := by
  rw [child, names_root_append, names_join (isName_of_mem_child directory h)]

/-- The path of a file has the root of the path of its directory. -/
theorem root_child : root (child directory name) = root directory :=
  root_root_append directory (isAbsolute_join (isName_of_mem_child directory h))

theorem isAbsolute_child : isAbsolute (child directory name) = isAbsolute directory := by
  rw [Bool.eq_iff_iff, ← slash_mem_root_iff, ← slash_mem_root_iff, root_child directory h]

/-- There is a slash in the path of a file if there is a root or a step to its directory. -/
theorem slash_mem_child_iff :
    '/' ∈ (child directory name).toList ↔
      isAbsolute directory = true ∨ steps directory ≠ [] := by
  rw [child, String.toList_append, List.mem_append, slash_mem_root_iff]
  refine or_congr_right ?_
  by_cases hsteps : steps directory = []
  · rw [hsteps, List.nil_append, Text.join_singleton]
    exact iff_of_false h.2 fun some => some rfl
  · rw [Text.join_append "/" hsteps (List.cons_ne_nil name [])]
    exact iff_of_true (by simp) hsteps

end Child

end Path

namespace FileTree

variable {tree : FileTree} {place middle target : Place} {front back : List String}

/-- Names are followed in parts. -/
theorem walk_append_of_ok (h : tree.walk place front = .ok middle)
    (hback : tree.walk middle back = .ok target) :
    tree.walk place (front ++ back) = .ok target := by
  induction front generalizing place with
  | nil =>
    cases h
    exact hback
  | cons name rest ih =>
    obtain ⟨hplace, short, hrest⟩ := walk_cons_eq_ok_iff.1 h
    exact walk_cons_eq_ok_iff.2 ⟨hplace, short, ih hrest⟩

/-- Single dots can be left out on the way to a place. -/
theorem walk_filter_dots (h : tree.walk place ns = .ok target) :
    tree.walk place (ns.filter (· ≠ ".")) = .ok target := by
  induction ns generalizing place with
  | nil => exact h
  | cons name rest ih =>
    obtain ⟨hplace, short, hrest⟩ := walk_cons_eq_ok_iff.1 h
    by_cases hdot : name = "."
    · subst hdot
      rw [List.filter_cons_of_neg (by simp)]
      exact ih hrest
    · rw [List.filter_cons_of_pos (by simpa using hdot)]
      exact walk_cons_eq_ok_iff.2 ⟨hplace, short, ih hrest⟩

theorem isDirectory_iff :
    tree.isDirectory path = true ↔
      ∃ place, tree.resolve path = .ok place ∧ tree.entry? place = some .directory := by
  unfold isDirectory
  cases tree.resolve path with
  | error trouble => simp
  | ok place => simp

/-- A path that leads to a place does so by its names, from where it starts. -/
theorem walk_names_of_resolve (h : tree.resolve path = .ok place) :
    tree.walk (.start path) (Path.names path) = .ok place := by
  unfold resolve at h
  split at h
  next => cases h
  split at h
  next => cases h
  split at h
  next => cases h
  next => exact h

/-- Where a path names a directory, the path of a file in it leads to the file there. -/
theorem walk_child (h : tree.isDirectory directory = true) (hname : Path.IsName name)
    (hshort : name.utf8ByteSize ≤ 255) :
    ∃ place, tree.resolve directory = .ok place ∧
      tree.walk (.start (Path.child directory name)) (Path.names (Path.child directory name)) =
        .ok (place.step name) := by
  obtain ⟨place, hplace, hentry⟩ := isDirectory_iff.1 h
  have start : Place.start (Path.child directory name) = .start directory := by
    rw [Place.start, Path.isAbsolute_child directory hname]
    rfl
  have last : tree.walk place [name] = .ok (place.step name) :=
    walk_cons_eq_ok_iff.2 ⟨hentry, hshort, rfl⟩
  refine ⟨place, hplace, ?_⟩
  rw [start, Path.names_child directory hname]
  exact walk_append_of_ok (walk_filter_dots (walk_names_of_resolve hplace)) last

end FileTree

end GnuplotScript
