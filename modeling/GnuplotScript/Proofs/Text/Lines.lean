import GnuplotScript.Text.Lines

/-!
# Lines of joined texts

Pieces in which a separator does not occur are found again in the text that they are joined
to. So the lines of a script can be told from those of its fragments.

## Main results

* `pieces_joinPieces` — joining is undone by cutting
* `joinPieces_flatMap` — what is joined from lines that are joined themselves
* `toList_join` — texts joined by line feeds are pieces joined by them
-/

namespace GnuplotScript.Text

variable {c : Char} {cs piece : List Char} {ps front back : List (List Char)}

theorem pieces_of_notMem (h : c ∉ cs) : pieces c cs = [cs] := by
  induction cs with
  | nil => rfl
  | cons x rest ih =>
    rw [List.mem_cons, not_or] at h
    rw [pieces, if_neg (Ne.symm h.1), ih h.2]

theorem pieces_append_cons (h : c ∉ cs) (rest : List Char) :
    pieces c (cs ++ c :: rest) = cs :: pieces c rest := by
  induction cs with
  | nil => rw [List.nil_append, pieces, if_pos rfl]
  | cons x others ih =>
    rw [List.mem_cons, not_or] at h
    rw [List.cons_append, pieces, if_neg (Ne.symm h.1), ih h.2]

theorem joinPieces_cons (c : Char) (piece : List Char) (h : ps ≠ []) :
    joinPieces c (piece :: ps) = piece ++ c :: joinPieces c ps := by
  cases ps with
  | nil => exact absurd rfl h
  | cons next rest => rfl

theorem joinPieces_ne_nil (h : piece ≠ []) : joinPieces c (piece :: ps) ≠ [] := by
  cases ps with
  | nil => exact h
  | cons next rest => exact List.append_ne_nil_of_left_ne_nil h _

/-- The separator does not occur in any piece. -/
theorem notMem_of_mem_pieces (h : piece ∈ pieces c cs) : c ∉ piece := by
  induction cs generalizing piece with
  | nil =>
    rw [List.mem_singleton.1 h]
    exact List.not_mem_nil
  | cons x rest ih =>
    rw [pieces] at h
    split at h
    next =>
      rcases List.mem_cons.1 h with rfl | hrest
      · exact List.not_mem_nil
      · exact ih hrest
    next hx =>
      split at h
      next hnone => exact absurd hnone (pieces_ne_nil c rest)
      next first others hpieces =>
        rcases List.mem_cons.1 h with rfl | hothers
        · rw [List.mem_cons, not_or]
          exact ⟨Ne.symm hx, ih (hpieces ▸ List.mem_cons_self)⟩
        · exact ih (hpieces ▸ List.mem_cons_of_mem first hothers)

/-- Pieces in which the separator does not occur are those of the joined text. -/
theorem pieces_joinPieces (h : ∀ piece ∈ ps, c ∉ piece) (hne : ps ≠ []) :
    pieces c (joinPieces c ps) = ps := by
  induction ps with
  | nil => exact absurd rfl hne
  | cons piece rest ih =>
    obtain ⟨hpiece, hrest⟩ := List.forall_mem_cons.1 h
    by_cases last : rest = []
    · rw [last, joinPieces, pieces_of_notMem hpiece]
    · rw [joinPieces_cons c piece last, pieces_append_cons hpiece, ih hrest last]

theorem joinPieces_append (c : Char) (hfront : front ≠ []) (hback : back ≠ []) :
    joinPieces c (front ++ back) = joinPieces c front ++ c :: joinPieces c back := by
  induction front with
  | nil => exact absurd rfl hfront
  | cons piece rest ih =>
    by_cases last : rest = []
    · rw [last, List.singleton_append, joinPieces_cons c piece hback, joinPieces]
    · have more : rest ++ back ≠ [] := List.append_ne_nil_of_left_ne_nil last back
      rw [List.cons_append, joinPieces_cons c piece more, joinPieces_cons c piece last, ih last,
        List.append_assoc, List.cons_append]

/-- What is joined from lines that are joined themselves is joined from all the lines. -/
theorem joinPieces_flatMap {α : Type} (c : Char) {xs : List α} {lines : α → List (List Char)}
    (h : ∀ x ∈ xs, lines x ≠ []) :
    joinPieces c (xs.map fun x => joinPieces c (lines x)) = joinPieces c (xs.flatMap lines) := by
  induction xs with
  | nil => rfl
  | cons x rest ih =>
    obtain ⟨hx, hrest⟩ := List.forall_mem_cons.1 h
    by_cases last : rest = []
    · rw [last, List.map_singleton, List.flatMap_singleton, joinPieces]
    · have more : rest.flatMap lines ≠ [] := by
        intro none
        obtain ⟨y, hy⟩ := List.exists_mem_of_ne_nil rest last
        exact hrest y hy (List.flatMap_eq_nil_iff.1 none y hy)
      have others : rest.map (fun x => joinPieces c (lines x)) ≠ [] := by
        rwa [Ne, List.map_eq_nil_iff]
      rw [List.map_cons, List.flatMap_cons, joinPieces_cons c _ others, ih hrest,
        joinPieces_append c hx more]

/-- Texts joined by one character are pieces joined by it. -/
theorem toList_join_of_toList_eq {separator : String} (h : separator.toList = [c])
    (texts : List String) :
    (join separator texts).toList = joinPieces c (texts.map String.toList) := by
  induction texts with
  | nil => rfl
  | cons text rest ih =>
    by_cases last : rest = []
    · rw [last]
      rfl
    · have others : rest.map String.toList ≠ [] := by
        rwa [Ne, List.map_eq_nil_iff]
      rw [join_cons separator text last, List.map_cons, joinPieces_cons c _ others, ← ih]
      simp only [String.toList_append, List.append_assoc, h, List.singleton_append]

/-- Texts joined by line feeds are pieces joined by them. -/
theorem toList_join (texts : List String) :
    (join "\n" texts).toList = joinPieces '\n' (texts.map String.toList) :=
  toList_join_of_toList_eq rfl texts

end GnuplotScript.Text
