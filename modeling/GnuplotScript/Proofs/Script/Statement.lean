import GnuplotScript.Proofs.Text.Inert
import GnuplotScript.Proofs.Text.Lines

/-!
# Statements of a script

A script can be read without knowing anything of values: its lines show where statements
begin. A line that ends like the header of a data block opens one, which goes on to the first
line that is the terminator. A plot goes on as long as its lines end in a comma and the next
one is indented. Any other line is a statement by itself.

## Main definitions

* `Statement` — the statements that are told apart
* `Statement.readLines`, `Statement.read` — the statements that lines and texts are read as
* `Statement.lines`, `Statement.text` — the lines and the text of a statement
* `Statement.Sound` — statements whose lines show where they begin

## Main results

* `readLines_flatMap_lines` — sound statements are read from their lines
* `read_joinPieces_text` — and from their texts, each from a new line on
-/

namespace GnuplotScript

/-- The statements that are told apart in a script: a plot of curves, a data block of lines
under a name, and a command on a line of its own. -/
inductive Statement where
  | command (line : List Char)
  | plot (curves : List (List Char))
  | block (name : List Char) (lines : List (List Char))
  deriving DecidableEq, Repr

namespace Statement

/-- The line that ends a data block. -/
def terminator : List Char :=
  ['E', 'O', 'D']

/-- What the header of a data block has after the name. -/
def headerEnd : List Char :=
  [' ', '<', '<', ' '] ++ terminator

/-- What a plot begins with. -/
def plotMark : List Char :=
  ['p', 'l', 'o', 't', ' ']

/-- What the lines of a plot after the first begin with. -/
def indent : List Char :=
  [' ', ' ', ' ', ' ', ' ']

/-! ### Reading -/

/-- The curves of a plot and the lines after it. The first line of the plot is given without
its mark. -/
def takeCurves (current : List Char) : List (List Char) → List (List Char) × List (List Char)
  | [] => ([current], [])
  | next :: rest =>
    if current.getLast? = some ',' ∧ indent <+: next then
      let (curves, after) := takeCurves (next.drop indent.length) rest
      (current.dropLast :: curves, after)
    else ([current], next :: rest)

theorem length_takeCurves_le (current : List Char) (lines : List (List Char)) :
    (takeCurves current lines).2.length ≤ lines.length := by
  induction lines generalizing current with
  | nil => exact Nat.le_refl 0
  | cons next rest ih =>
    rw [takeCurves]
    split
    · exact Nat.le_succ_of_le (ih _)
    · exact Nat.le_refl _

/-- The statements that lines are read as. -/
def readLines : List (List Char) → List Statement
  | [] => []
  | line :: rest =>
    if headerEnd <:+ line then
      block (line.take (line.length - headerEnd.length)) (rest.takeWhile (· ≠ terminator)) ::
        readLines ((rest.dropWhile (· ≠ terminator)).drop 1)
    else if plotMark <+: line then
      plot (takeCurves (line.drop plotMark.length) rest).1 ::
        readLines (takeCurves (line.drop plotMark.length) rest).2
    else command line :: readLines rest
termination_by lines => lines.length
decreasing_by
  · have shorter := (List.dropWhile_suffix (· ≠ terminator) : _ <:+ rest).length_le
    simp only [List.length_drop, List.length_cons]
    omega
  · exact Nat.lt_succ_of_le (length_takeCurves_le _ rest)
  · exact Nat.lt_succ_self rest.length

/-- The statements that a text is read as. An empty text has no lines. -/
def read (text : List Char) : List Statement :=
  if text = [] then [] else readLines (Text.physicalLines text)

/-! ### Writing -/

/-- The lines of curves, of which the first begins with a mark. -/
def curveLines (mark : List Char) : List (List Char) → List (List Char)
  | [] => []
  | [last] => [mark ++ last]
  | current :: next :: rest => (mark ++ current ++ [',']) :: curveLines indent (next :: rest)

/-- The lines of a statement. -/
def lines : Statement → List (List Char)
  | command line => [line]
  | plot curves => curveLines plotMark curves
  | block name lines => (name ++ headerEnd) :: (lines ++ [terminator])

/-- The text of a statement. -/
def text (s : Statement) : List Char :=
  Text.joinPieces '\n' s.lines

/-- Statements whose lines show where they begin. -/
def Sound : Statement → Prop
  | command line =>
    line ≠ [] ∧ '\n' ∉ line ∧ ¬ headerEnd <:+ line ∧ ¬ plotMark <+: line ∧ ¬ indent <+: line
  | plot curves => curves ≠ [] ∧ ∀ curve ∈ curves, Text.InertChars curve
  | block name lines =>
    '\n' ∉ name ∧ ¬ indent <+: name ++ headerEnd ∧
      ∀ line ∈ lines, '\n' ∉ line ∧ line ≠ terminator

variable {s : Statement} {statements : List Statement} {curve line mark : List Char}
  {curves rest : List (List Char)}

/-- Lines of which the first does not go on with a plot. -/
def Unindented (lines : List (List Char)) : Prop :=
  ∀ line ∈ lines.head?, ¬ indent <+: line

theorem not_headerEnd_suffix (h : line.getLast? ≠ some 'D') : ¬ headerEnd <:+ line := by
  intro ⟨name, hline⟩
  rw [← hline, List.getLast?_append] at h
  exact h rfl

theorem takeCurves_of_unindented (current : List Char) (h : Unindented rest) :
    takeCurves current rest = ([current], rest) := by
  cases rest with
  | nil => rfl
  | cons next after => rw [takeCurves, if_neg fun goes => h next rfl goes.2]

/-- The curves are taken from their lines, and the lines after them are left. -/
theorem takeCurves_curveLines (mark : List Char) (hne : curves ≠ []) (h : Unindented rest) :
    ∃ current others, curveLines mark curves = (mark ++ current) :: others ∧
      takeCurves current (others ++ rest) = (curves, rest) := by
  -- All lines after the first have the same mark, so the induction is over every mark.
  induction curves generalizing mark with
  | nil => exact absurd rfl hne
  | cons curve more ih =>
    cases more with
    | nil => exact ⟨curve, [], rfl, takeCurves_of_unindented curve h⟩
    | cons next more =>
      obtain ⟨current, others, hlines, htake⟩ := ih indent nofun
      refine ⟨curve ++ [','], curveLines indent (next :: more), ?_, ?_⟩
      · rw [curveLines, List.append_assoc]
      · have goes : (curve ++ [',']).getLast? = some ',' ∧ indent <+: indent ++ current :=
          ⟨List.getLast?_concat, List.prefix_append indent current⟩
        rw [hlines, List.cons_append, takeCurves, if_pos goes, List.drop_left, htake,
          List.dropLast_concat]

theorem curveLines_ne_nil (mark : List Char) (hne : curves ≠ []) : curveLines mark curves ≠ [] := by
  obtain ⟨current, others, hlines, -⟩ := takeCurves_curveLines mark hne (nofun : Unindented [])
  rw [hlines]
  exact List.cons_ne_nil _ others

theorem inertChars_plotMark : Text.InertChars plotMark := by
  decide

theorem inertChars_indent : Text.InertChars indent := by
  decide

theorem inertChars_curveLines (hmark : Text.InertChars mark)
    (h : ∀ curve ∈ curves, Text.InertChars curve) :
    ∀ line ∈ curveLines mark curves, Text.InertChars line := by
  induction curves generalizing mark with
  | nil => exact nofun
  | cons curve more ih =>
    obtain ⟨hcurve, hmore⟩ := List.forall_mem_cons.1 h
    cases more with
    | nil =>
      rw [curveLines, List.forall_mem_singleton]
      exact hmark.append hcurve
    | cons next more =>
      have comma : Text.InertChars [','] := by decide
      rw [curveLines, List.forall_mem_cons]
      exact ⟨(hmark.append hcurve).append comma, ih inertChars_indent hmore⟩

/-! ### Reading what is written -/

theorem readLines_block {name : List Char} {body : List (List Char)}
    (h : ∀ line ∈ body, line ≠ terminator) (rest : List (List Char)) :
    readLines ((name ++ headerEnd) :: (body ++ terminator :: rest)) =
      block name body :: readLines rest := by
  have inside : ∀ line ∈ body, decide (line ≠ terminator) = true := by
    intro line hline
    exact decide_eq_true (h line hline)
  have taken : (body ++ terminator :: rest).takeWhile (· ≠ terminator) = body := by
    rw [List.takeWhile_append_of_pos inside, List.takeWhile_cons_of_neg (by simp),
      List.append_nil]
  have left : (body ++ terminator :: rest).dropWhile (· ≠ terminator) = terminator :: rest := by
    rw [List.dropWhile_append_of_pos inside, List.dropWhile_cons_of_neg (by simp)]
  have named : (name ++ headerEnd).take ((name ++ headerEnd).length - headerEnd.length) = name := by
    rw [List.length_append, Nat.add_sub_cancel, List.take_left]
  rw [readLines, if_pos (List.suffix_append name headerEnd), taken, left, named]
  rfl

theorem readLines_plot (hne : curves ≠ []) (h : ∀ curve ∈ curves, Text.InertChars curve)
    (hrest : Unindented rest) :
    readLines (curveLines plotMark curves ++ rest) = plot curves :: readLines rest := by
  obtain ⟨current, others, hlines, htake⟩ := takeCurves_curveLines plotMark hne hrest
  have first : plotMark ++ current ∈ curveLines plotMark curves := by
    rw [hlines]
    exact List.mem_cons_self
  have inert := inertChars_curveLines inertChars_plotMark h (plotMark ++ current) first
  rw [hlines, List.cons_append, readLines, if_neg (not_headerEnd_suffix inert.2),
    if_pos (List.prefix_append plotMark current), List.drop_left, htake]

/-- A sound statement is read from the lines that it begins. -/
theorem readLines_lines_append (h : s.Sound) (hrest : Unindented rest) :
    readLines (s.lines ++ rest) = s :: readLines rest := by
  cases s with
  | command line =>
    obtain ⟨_, _, noHeader, noPlot, _⟩ := h
    rw [lines, List.singleton_append, readLines, if_neg noHeader, if_neg noPlot]
  | plot curves => exact readLines_plot h.1 h.2 hrest
  | block name body =>
    rw [lines, List.cons_append, List.append_assoc, List.singleton_append]
    exact readLines_block (fun line hline => (h.2.2 line hline).2) rest

/-- The lines of a sound statement do not go on with a plot. -/
theorem unindented_lines_append (h : s.Sound) (rest : List (List Char)) :
    Unindented (s.lines ++ rest) := by
  cases s with
  | command line =>
    intro first hfirst
    cases hfirst
    exact h.2.2.2.2
  | plot curves =>
    obtain ⟨current, others, hlines, -⟩ :=
      takeCurves_curveLines plotMark h.1 (nofun : Unindented [])
    rw [lines, hlines]
    intro first hfirst
    cases hfirst
    intro ⟨tail, htail⟩
    cases htail
  | block name body =>
    intro first hfirst
    cases hfirst
    exact h.2.1

theorem unindented_flatMap_lines (h : ∀ s ∈ statements, s.Sound) :
    Unindented (statements.flatMap lines) := by
  cases statements with
  | nil => exact nofun
  | cons s rest =>
    rw [List.flatMap_cons]
    exact unindented_lines_append (h s List.mem_cons_self) _

/-- Sound statements are read from their lines. -/
theorem readLines_flatMap_lines (h : ∀ s ∈ statements, s.Sound) :
    readLines (statements.flatMap lines) = statements := by
  induction statements with
  | nil => rw [List.flatMap_nil, readLines]
  | cons s rest ih =>
    obtain ⟨hs, hrest⟩ := List.forall_mem_cons.1 h
    rw [List.flatMap_cons, readLines_lines_append hs (unindented_flatMap_lines hrest), ih hrest]

theorem newline_notMem_lines (h : s.Sound) : ∀ line ∈ s.lines, '\n' ∉ line := by
  cases s with
  | command line => exact List.forall_mem_singleton.2 h.2.1
  | plot curves =>
    intro line hline
    exact (inertChars_curveLines inertChars_plotMark h.2 line hline).1
  | block name body =>
    have header : '\n' ∉ headerEnd := by decide
    have ending : '\n' ∉ terminator := by decide
    rw [lines, List.forall_mem_cons, List.forall_mem_append, List.forall_mem_singleton,
      List.mem_append, not_or]
    exact ⟨⟨h.1, header⟩, fun line hline => (h.2.2 line hline).1, ending⟩

/-- A sound statement has a first line, and this is not empty. -/
theorem exists_lines_eq_cons (h : s.Sound) :
    ∃ first others, s.lines = first :: others ∧ first ≠ [] := by
  cases s with
  | command line => exact ⟨line, [], rfl, h.1⟩
  | plot curves =>
    obtain ⟨current, others, hlines, -⟩ :=
      takeCurves_curveLines plotMark h.1 (nofun : Unindented [])
    exact ⟨_, others, hlines, nofun⟩
  | block name body =>
    exact ⟨_, _, rfl, List.append_ne_nil_of_right_ne_nil name nofun⟩

/-- Sound statements are read from their texts, each from a new line on. -/
theorem read_joinPieces_text (h : ∀ s ∈ statements, s.Sound) :
    read (Text.joinPieces '\n' (statements.map text)) = statements := by
  have some : ∀ s ∈ statements, s.lines ≠ [] := by
    intro s hs none
    obtain ⟨first, others, hlines, -⟩ := exists_lines_eq_cons (h s hs)
    rw [none] at hlines
    cases hlines
  have free : ∀ line ∈ statements.flatMap lines, '\n' ∉ line := by
    intro line hline
    obtain ⟨s, hs, hmem⟩ := List.mem_flatMap.1 hline
    exact newline_notMem_lines (h s hs) line hmem
  have joined : Text.joinPieces '\n' (statements.map text) =
      Text.joinPieces '\n' (statements.flatMap lines) := Text.joinPieces_flatMap '\n' some
  cases statements with
  | nil => rfl
  | cons s rest =>
    -- An empty text has no lines, so the first line must not be empty.
    obtain ⟨first, others, hlines, hfirst⟩ := exists_lines_eq_cons (h s List.mem_cons_self)
    have all : (s :: rest).flatMap lines = first :: (others ++ rest.flatMap lines) := by
      rw [List.flatMap_cons, hlines, List.cons_append]
    have nonempty : Text.joinPieces '\n' ((s :: rest).flatMap lines) ≠ [] := by
      rw [all]
      exact Text.joinPieces_ne_nil hfirst
    rw [joined, read, if_neg nonempty, Text.physicalLines,
      Text.pieces_joinPieces free (all ▸ List.cons_ne_nil _ _), readLines_flatMap_lines h]

end Statement

end GnuplotScript
