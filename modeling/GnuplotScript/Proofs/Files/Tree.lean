import GnuplotScript.Files.Tree

/-!
# Writing to files

A file that is written is read back as it was written, by the same path. The path still leads
to the same place then: all places on the way are directories, and no directory is replaced.

## Main definitions

* `FileTree.Writable` — paths that can be written to

## Main results

* `exists_opened_iff` — exactly the writable paths are opened
* `read_insert` — what is written there is read back
-/

namespace GnuplotScript.FileTree

variable {tree : FileTree} {place other target : Place} {entry : Entry} {path : String}

/-- A path can be written to if it leads to a place and does not name a directory there. -/
def Writable (tree : FileTree) (path : String) : Prop :=
  ∃ place, tree.resolve path = .ok place ∧ tree.entry? place ≠ some .directory ∧
    Path.endsInSlash path = false

theorem opened_eq_ok_iff : tree.opened path = .ok place ↔
    tree.resolve path = .ok place ∧ tree.entry? place ≠ some .directory ∧
      Path.endsInSlash path = false := by
  unfold opened
  cases tree.resolve path with
  | error trouble => simp
  | ok found =>
    simp only [Except.ok.injEq]
    split
    next refused =>
      simp only [Bool.or_eq_true, beq_iff_eq] at refused
      refine iff_of_false nofun ?_
      rintro ⟨rfl, hfree, hslash⟩
      rcases refused with slash | directory
      · exact absurd slash (by simp [hslash])
      · exact hfree directory
    next taken =>
      simp only [Bool.or_eq_true, beq_iff_eq, not_or, Bool.not_eq_true] at taken
      constructor
      · rintro ⟨rfl⟩
        exact ⟨rfl, taken.2, taken.1⟩
      · rintro ⟨rfl, -, -⟩
        rfl

/-- Exactly the writable paths are opened. -/
theorem exists_opened_iff : (∃ place, tree.opened path = .ok place) ↔ tree.Writable path :=
  exists_congr fun _ => opened_eq_ok_iff

/-! ### The place of the file -/

theorem down_ne_nil (h : tree.entry? place ≠ some .directory) : place.down ≠ [] := by
  intro hdown
  exact h (if_pos hdown)

theorem lookup_filter_of_ne (h : other ≠ place) (entries : List (Place × Entry)) :
    (entries.filter fun (key, _) => key ≠ place).lookup other = entries.lookup other := by
  induction entries with
  | nil => rfl
  | cons first rest ih =>
    obtain ⟨key, entry⟩ := first
    by_cases hkey : key = place
    · have passed : (other == key) = false := by simp [hkey, h]
      rw [List.filter_cons_of_neg (by simp [hkey]), List.lookup_cons, passed, ih]
    · rw [List.filter_cons_of_pos (by simp [hkey]), List.lookup_cons, List.lookup_cons, ih]

theorem entry?_insert_self (h : place.down ≠ []) :
    entry? (tree.insert place entry) place = some entry := by
  have absent : (tree.entries.filter fun (key, _) => key ≠ place).lookup place = none := by
    rw [List.lookup_eq_none_iff]
    intro pair hpair
    have kept : pair.1 ≠ place := by simpa using (List.mem_filter.1 hpair).2
    simp [kept.symm]
  unfold entry?
  rw [if_neg h, insert, List.lookup_append, absent]
  simp

theorem entry?_insert_of_ne (h : other ≠ place) :
    entry? (tree.insert place entry) other = tree.entry? other := by
  have added : [(place, entry)].lookup other = none := by simp [List.lookup_eq_none_iff, h]
  unfold entry?
  rw [insert, List.lookup_append, lookup_filter_of_ne h, added, Option.or_none]

/-- A name is followed from a directory, if it is short enough. -/
theorem walk_cons_eq_ok_iff {name : String} {names : List String} :
    tree.walk place (name :: names) = .ok target ↔
      tree.entry? place = some .directory ∧ name.utf8ByteSize ≤ 255 ∧
        tree.walk (place.step name) names = .ok target := by
  rw [walk]
  split
  next hplace => simp [hplace]
  next hplace => simp [hplace]
  next hplace =>
    rw [and_iff_right hplace]
    split
    next long =>
      have tooLong : ¬ name.utf8ByteSize ≤ 255 := Nat.not_le.2 long
      simp [tooLong]
    next short => rw [and_iff_right (Nat.not_lt.1 short)]

/-- Names that lead to a place where no directory is lead there still after it has been set. -/
theorem walk_insert {names : List String} (h : tree.walk place names = .ok target)
    (hfree : tree.entry? target ≠ some .directory) :
    (tree.insert target entry).walk place names = .ok target := by
  induction names generalizing place with
  | nil => exact h
  | cons name rest ih =>
    obtain ⟨hplace, short, hrest⟩ := walk_cons_eq_ok_iff.1 h
    -- A place on the way is a directory, and so it is not the one that has been set.
    have passed : place ≠ target := by
      rintro rfl
      exact hfree hplace
    have still : entry? (tree.insert target entry) place = some .directory := by
      rw [entry?_insert_of_ne passed, hplace]
    exact walk_cons_eq_ok_iff.2 ⟨still, short, ih hrest⟩

theorem resolve_insert (h : tree.resolve path = .ok place)
    (hfree : tree.entry? place ≠ some .directory) :
    (tree.insert place entry).resolve path = .ok place := by
  unfold resolve at h ⊢
  split at h
  next => cases h
  split at h
  next => cases h
  split at h
  next => cases h
  next hnull hempty hlong => rw [if_neg hnull, if_neg hempty, if_neg hlong, walk_insert h hfree]

/-- What is written is read back. -/
theorem read_insert (h : tree.opened path = .ok place) (octets : List UInt8) :
    (tree.insert place (.file octets)).read path = .ok octets := by
  obtain ⟨hplace, hfree, hslash⟩ := opened_eq_ok_iff.1 h
  rw [read, resolve_insert hplace hfree]
  dsimp only
  rw [entry?_insert_self (down_ne_nil hfree)]
  exact if_neg (by simp [hslash])

end GnuplotScript.FileTree
