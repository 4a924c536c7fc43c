import GnuplotScript.Form.Fragment
import GnuplotScript.Proofs.Script.Statement

/-!
# The statements of forms

Each form is written as one statement of a script: a plot as the plot of its curves, a table
and data as a block of lines, and any other form as a command. The statement is sound, so that
it can be told from what stands around it, if the names are words and the values are inert.

## Main definitions

* `IsWord` — names that are words
* `Form.statement` — the statement that a form is written as
* `Form.Bounded` — forms that draw no boundary but their own

## Main results

* `Form.sound_statement` — the statement of such a form is sound
* `Form.text_statement` — and its text is the fragment of the form
-/

namespace GnuplotScript

open Text (Inert InertChars join joinPieces)

/-- A name that is a word: not empty, and without blanks. -/
def IsWord (name : String) : Prop :=
  name ≠ "" ∧ ∀ c ∈ name.toList, Text.isBlank c = false

variable {name : String} {front line : List Char} {f : Form}

namespace IsWord

theorem of_any (h : name ≠ "") (noBlank : name.toList.any Text.isBlank = false) : IsWord name :=
  ⟨h, fun c hc => eq_false_of_ne_true (List.any_eq_false.1 noBlank c hc)⟩

theorem space_notMem (h : IsWord name) : ' ' ∉ name.toList := by
  intro hmem
  cases h.2 ' ' hmem

theorem newline_notMem (h : IsWord name) : '\n' ∉ name.toList := by
  intro hmem
  cases h.2 '\n' hmem

/-- A word begins with a character that is no space. -/
theorem exists_toList_eq_cons (h : IsWord name) :
    ∃ first others, name.toList = first :: others ∧ first ≠ ' ' := by
  cases hname : name.toList with
  | nil => exact absurd (String.toList_eq_nil_iff.1 hname) h.1
  | cons first others =>
    refine ⟨first, others, rfl, ?_⟩
    rintro rfl
    exact h.space_notMem (hname ▸ List.mem_cons_self)

/-- The header of the data block of a word is not indented. -/
theorem not_indent_prefix (h : IsWord name) (rest : List Char) :
    ¬ Statement.indent <+: name.toList ++ rest := by
  obtain ⟨first, others, hname, hfirst⟩ := h.exists_toList_eq_cons
  rw [hname]
  intro ⟨tail, htail⟩
  exact hfirst (List.cons.inj htail).1.symm

/-- A word after the last letter of `set` and `unset` does not make the line a header. -/
theorem not_headerEnd_suffix (h : IsWord name) (front : List Char) :
    ¬ Statement.headerEnd <:+ front ++ 't' :: ' ' :: name.toList := by
  intro header
  have space : ' ' ∈ Statement.headerEnd := by decide
  have last : 't' :: ' ' :: name.toList <:+ front ++ 't' :: ' ' :: name.toList :=
    List.suffix_append front _
  -- Either the word would hold the spaces of the header, or the header the letter before it.
  rcases List.suffix_or_suffix_of_suffix header last with shorter | longer
  · rcases List.suffix_cons_iff.1 shorter with same | shorter
    · cases same
    · rcases List.suffix_cons_iff.1 shorter with same | shorter
      · obtain ⟨-, rest⟩ := List.cons.inj same
        exact h.space_notMem (rest ▸ by decide)
      · exact h.space_notMem (shorter.subset space)
  · have letter : 't' ∈ Statement.headerEnd := longer.subset List.mem_cons_self
    revert letter
    decide

end IsWord

/-! ### Commands -/

/-- A line that names a word after `set` or `unset` is a command, whatever inert text is
behind the word. -/
theorem Statement.sound_command {first : Char} {rest : List Char} (word : IsWord name)
    (hplot : first ≠ 'p') (hindent : first ≠ ' ') (hfront : '\n' ∉ first :: front)
    (hrest : InertChars rest) :
    Sound (.command (first :: front ++ 't' :: ' ' :: name.toList ++ rest)) := by
  have newline : '\n' ∉ 't' :: ' ' :: name.toList := by
    rw [List.mem_cons, not_or, List.mem_cons, not_or]
    exact ⟨by decide, by decide, word.newline_notMem⟩
  refine ⟨nofun, ?_, ?_, ?_, ?_⟩
  · rw [List.mem_append, not_or, List.mem_append, not_or]
    exact ⟨⟨hfront, newline⟩, hrest.1⟩
  · cases hlast : rest.getLast? with
    | none =>
      rw [List.getLast?_eq_none_iff.1 hlast, List.append_nil]
      exact word.not_headerEnd_suffix (first :: front)
    | some last =>
      apply Statement.not_headerEnd_suffix
      rw [List.getLast?_append, hlast, Option.some_or, ← hlast]
      exact hrest.2
  · intro ⟨tail, htail⟩
    exact hplot (List.cons.inj htail).1.symm
  · intro ⟨tail, htail⟩
    exact hindent (List.cons.inj htail).1.symm

/-! ### Plots -/

/-- The lines of a plot are those of its fragment. -/
theorem Statement.joinPieces_curveLines (mark : List Char) {texts : List String}
    (hne : texts ≠ []) :
    joinPieces '\n' (curveLines mark (texts.map String.toList)) =
      mark ++ (join Form.curveSeparator texts).toList := by
  induction texts generalizing mark with
  | nil => exact absurd rfl hne
  | cons text rest ih =>
    cases rest with
    | nil => rfl
    | cons next more =>
      have others : curveLines indent ((next :: more).map String.toList) ≠ [] :=
        curveLines_ne_nil indent (List.cons_ne_nil _ _)
      rw [List.map_cons, List.map_cons, curveLines, ← List.map_cons,
        Text.joinPieces_cons '\n' _ others, ih indent (List.cons_ne_nil next more),
        Text.join_cons_cons]
      simp only [String.toList_append, List.append_assoc]
      rfl

/-! ### Blocks -/

/-- The lines of a data block are those of its fragment. -/
theorem Statement.text_block (name : String) {lines : List String} (hne : lines ≠ []) :
    text (.block name.toList (lines.map String.toList)) = (Form.block name lines).toList := by
  have some : lines.map String.toList ≠ [] := by
    rwa [Ne, List.map_eq_nil_iff]
  have last : [terminator] ≠ [] := List.cons_ne_nil _ _
  have more : lines.map String.toList ++ [terminator] ≠ [] :=
    List.append_ne_nil_of_left_ne_nil some _
  rw [text, Statement.lines, Text.joinPieces_cons '\n' _ more,
    Text.joinPieces_append '\n' some last, ← Text.toList_join, Form.block]
  simp only [String.toList_append, List.append_assoc]
  rfl

/-- An inert line does not end a data block. -/
theorem ne_terminator_of_inertChars (h : InertChars line) : line ≠ Statement.terminator := by
  rintro rfl
  exact h.2 rfl

/-! ### Forms -/

section Halves

variable [Text.Halves]

namespace Form

/-- The statement that a form is written as. -/
def statement : Form → Statement
  | plot curves => .plot (curves.map fun c => c.fragment.toList)
  | table name rows => .block name.toList (rows.map fun row => (rowText row).toList)
  | data name lines => .block name.toList (lines.map String.toList)
  | f => .command f.fragment.toList

/-- Forms that draw no boundary but their own: their names are words, their values are inert,
and the lines of data are lines that do not end the block. -/
def Bounded : Form → Prop
  | set name values => IsWord name ∧ ∀ v ∈ values, Inert v.render
  | unset name => IsWord name
  | plot curves => curves ≠ [] ∧ ∀ c ∈ curves, Inert c.fragment
  | table name rows => IsWord name ∧ rows ≠ [] ∧ ∀ row ∈ rows, Inert (rowText row)
  | data name lines =>
    IsWord name ∧ lines ≠ [] ∧ ∀ line ∈ lines, '\n' ∉ line.toList ∧ line ≠ terminator
  | reset => True
  | _ => False

theorem exists_toList_fragment_set (name : String) {values : List Value}
    (h : ∀ v ∈ values, Inert v.render) :
    ∃ rest, InertChars rest ∧
      (set name values).fragment.toList = 's' :: ['e'] ++ 't' :: ' ' :: name.toList ++ rest := by
  cases values with
  | nil => exact ⟨[], by decide, by simp [fragment]⟩
  | cons v others =>
    have shown : Inert (" " ++ join " " (v.render :: others.map Value.render)) := by
      apply Text.inert_space.append
      apply Text.inert_space.join
      intro text htext
      rw [← List.map_cons] at htext
      obtain ⟨w, hw, rfl⟩ := List.mem_map.1 htext
      exact h w hw
    refine ⟨_, shown, ?_⟩
    rw [fragment_set]
    simp only [String.toList_append, List.append_assoc]
    rfl

/-- The statement of a form that draws no boundary but its own is sound. -/
theorem sound_statement (h : f.Bounded) : f.statement.Sound := by
  cases f with
  | set name values =>
    obtain ⟨word, inert⟩ := h
    obtain ⟨rest, hrest, hfragment⟩ := exists_toList_fragment_set name inert
    change Statement.Sound (.command (set name values).fragment.toList)
    rw [hfragment]
    exact Statement.sound_command word (by decide) (by decide) (by decide) hrest
  | unset name =>
    have hfragment : (unset name).fragment.toList =
        'u' :: ['n', 's', 'e'] ++ 't' :: ' ' :: name.toList ++ [] := by
      simp [fragment]
    change Statement.Sound (.command (unset name).fragment.toList)
    rw [hfragment]
    exact Statement.sound_command h (by decide) (by decide) (by decide) (by decide)
  | plot curves =>
    refine ⟨?_, fun line hline => ?_⟩
    · rw [Ne, List.map_eq_nil_iff]
      exact h.1
    · obtain ⟨c, hc, rfl⟩ := List.mem_map.1 hline
      exact h.2 c hc
  | table name rows =>
    obtain ⟨word, -, inert⟩ := h
    refine ⟨word.newline_notMem, word.not_indent_prefix _, fun line hline => ?_⟩
    obtain ⟨row, hrow, rfl⟩ := List.mem_map.1 hline
    exact ⟨(inert row hrow).1, ne_terminator_of_inertChars (inert row hrow)⟩
  | data name lines =>
    obtain ⟨word, -, free⟩ := h
    refine ⟨word.newline_notMem, word.not_indent_prefix _, fun line hline => ?_⟩
    obtain ⟨text, htext, rfl⟩ := List.mem_map.1 hline
    refine ⟨(free text htext).1, fun ends => (free text htext).2 ?_⟩
    exact String.toList_inj.1 ends
  | reset =>
    have sound : Statement.Sound (.command "reset".toList) :=
      ⟨by decide, by decide, by decide, by decide, by decide⟩
    exact sound
  | _ => exact h.elim

/-- The text of its statement is the fragment of such a form. -/
theorem text_statement (h : f.Bounded) : f.statement.text = f.fragment.toList := by
  cases f with
  | plot curves =>
    have some : curves.map Curve.fragment ≠ [] := by
      rw [Ne, List.map_eq_nil_iff]
      exact h.1
    have joined := Statement.joinPieces_curveLines Statement.plotMark some
    rw [List.map_map] at joined
    rw [fragment, String.toList_append]
    exact joined
  | table name rows =>
    have some : rows.map rowText ≠ [] := by
      rw [Ne, List.map_eq_nil_iff]
      exact h.2.1
    have block := Statement.text_block name some
    rw [List.map_map] at block
    exact block
  | data name lines => exact Statement.text_block name h.2.1
  | function name parameters body => exact h.elim
  | constant name body => exact h.elim
  | _ => rfl

end Form

end Halves

end GnuplotScript
