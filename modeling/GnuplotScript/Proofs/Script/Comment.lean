import GnuplotScript.Proofs.Datum.Display
import GnuplotScript.Proofs.Text.Lines
import GnuplotScript.Script

/-!
# Comments among the lines of a script

A comment is one mark with the texts of its parts behind it. Wherever it stands, a script has the
lines of the comment in addition to those of the other forms, and its output goes to the same place.
But the mark is at the first of these lines only. A text with a line feed in it goes on in a line
without the mark, and what it says there is a statement; nothing else that a part can be breaks the
line. All this is so as long as the parts can be written.

## Main definitions

* `Form.physicalLines`, `scriptLines` — the lines of a form and of a script
* `AddsRemarks` — lines to which only lines with the mark of comments are added

## Main results

* `scriptLines_eq_flatMap` — the lines of a script are those of its forms
* `addsRemarks_insert_iff` — only remarks are added exactly if all that is added are remarks
* `comment_inert_iff` — the comments that add nothing but remarks
* `broken_comment_adds_statement` — one that adds a statement
-/

namespace GnuplotScript

open Text (join pieces)

variable {c mark : Char} {cs piece : List Char} {others lines front back : List (List Char)}
  {before after : List (List Char)} {d : Datum} {parts : List Datum}

/-! ### Pieces that begin with a mark -/

namespace Text

theorem head?_of_pieces (h : pieces c cs = piece :: others) (hmark : mark ≠ c) :
    piece.head? = some mark ↔ cs.head? = some mark := by
  cases cs with
  | nil =>
    cases h
    rfl
  | cons x rest =>
    rw [pieces] at h
    split at h
    next hx =>
      cases h
      refine iff_of_false (by simp) fun same => hmark ?_
      rw [← hx]
      exact (Option.some.inj same).symm
    next =>
      split at h
      · cases h
        rfl
      · cases h
        rfl

/-- Whether the pieces after the first begin with a mark is decided behind the separators. -/
theorem forall_mem_tail_pieces_iff (hmark : mark ≠ c) (cs : List Char) :
    (∀ piece ∈ (pieces c cs).tail, piece.head? = some mark) ↔
      ∀ after, c :: after <:+ cs → after.head? = some mark := by
  induction cs with
  | nil => simp [pieces]
  | cons x rest ih =>
    obtain ⟨piece, others, hpieces⟩ := List.exists_cons_of_ne_nil (pieces_ne_nil c rest)
    rw [hpieces, List.tail_cons] at ih
    by_cases hx : x = c
    · rw [pieces, if_pos hx, List.tail_cons, hpieces, List.forall_mem_cons, ih,
        head?_of_pieces hpieces hmark]
      simp [List.suffix_cons_iff, hx, or_imp, forall_and]
    · have later : ∀ after, c :: after <:+ x :: rest ↔ c :: after <:+ rest := by
        simp [List.suffix_cons_iff, Ne.symm hx]
      simp only [pieces, if_neg hx, hpieces, List.tail_cons, ih, later]

end Text

/-- Texts put together without anything between them. -/
theorem Text.toList_join_empty (texts : List String) :
    (join "" texts).toList = texts.flatMap String.toList := by
  induction texts with
  | nil => rfl
  | cons text rest ih =>
    by_cases last : rest = []
    · rw [last, join_singleton, List.flatMap_singleton]
    · rw [join_cons "" text last, List.flatMap_cons, ← ih, String.append_empty,
        String.toList_append]

/-! ### Remarks -/

/-- A line that is a remark: it begins with the mark of comments. -/
def IsRemark (line : List Char) : Prop :=
  line.head? = some '#'

instance : DecidablePred IsRemark :=
  fun line => inferInstanceAs (Decidable (line.head? = some '#'))

/-- Lines to which nothing but remarks is added, wherever these stand. -/
inductive AddsRemarks : List (List Char) → List (List Char) → Prop where
  | nil : AddsRemarks [] []
  | keep {before after : List (List Char)} (line : List Char) :
    AddsRemarks before after → AddsRemarks (line :: before) (line :: after)
  | remark {line : List Char} {before after : List (List Char)} :
    IsRemark line → AddsRemarks before after → AddsRemarks before (line :: after)

theorem AddsRemarks.refl (lines : List (List Char)) : AddsRemarks lines lines := by
  induction lines with
  | nil => exact .nil
  | cons line rest ih => exact .keep line ih

/-- The other lines stay as they are. -/
theorem AddsRemarks.filter_eq (h : AddsRemarks before after) :
    after.filter (¬IsRemark ·) = before.filter (¬IsRemark ·) := by
  induction h with
  | nil => rfl
  | keep line _ ih => rw [List.filter_cons, List.filter_cons, ih]
  | remark hline _ ih => rw [List.filter_cons_of_neg (by simpa using hline), ih]

theorem addsRemarks_append (h : ∀ line ∈ lines, IsRemark line) (back : List (List Char)) :
    AddsRemarks back (lines ++ back) := by
  induction lines with
  | nil => exact .refl back
  | cons line rest ih =>
    obtain ⟨hline, hrest⟩ := List.forall_mem_cons.1 h
    exact .remark hline (ih hrest)

/-- Only remarks are added exactly if all lines that are added are remarks. -/
theorem addsRemarks_insert_iff :
    AddsRemarks (front ++ back) (front ++ lines ++ back) ↔ ∀ line ∈ lines, IsRemark line := by
  constructor
  · intro h
    have same := h.filter_eq
    rw [List.append_assoc] at same
    simp only [List.filter_append, List.append_cancel_left_eq, List.append_left_eq_self,
      List.filter_eq_nil_iff] at same
    simpa using same
  · intro h
    rw [List.append_assoc]
    induction front with
    | nil => exact addsRemarks_append h back
    | cons line rest ih => exact .keep line ih

/-! ### Lines of scripts -/

section Halves

variable [Text.Halves]

/-- The physical lines of a form. -/
def Form.physicalLines (f : Form) : List (List Char) :=
  Text.physicalLines f.fragment.toList

/-- The physical lines of the script of forms. Without forms there is no line, and not an empty
one. -/
def scriptLines (forms : List Form) : List (List Char) :=
  if forms = [] then [] else Text.physicalLines (Script.ofForms forms).text.toList

theorem Form.physicalLines_ne_nil (f : Form) : f.physicalLines ≠ [] :=
  Text.pieces_ne_nil '\n' _

/-- The lines of a script are those of its forms. -/
theorem scriptLines_eq_flatMap (forms : List Form) :
    scriptLines forms = forms.flatMap Form.physicalLines := by
  rw [scriptLines]
  split
  next none => rw [none, List.flatMap_nil]
  next given =>
    have text : (Script.ofForms forms).text.toList =
        Text.joinPieces '\n' (forms.flatMap Form.physicalLines) := by
      rw [Script.ofForms, Text.toList_join, List.map_map,
        ← Text.joinPieces_flatMap '\n' fun f _ => f.physicalLines_ne_nil]
      exact congrArg _ (List.map_congr_left fun f _ => (Text.joinPieces_pieces '\n' _).symm)
    have single : ∀ line ∈ forms.flatMap Form.physicalLines, '\n' ∉ line := by
      intro line hline
      obtain ⟨f, -, hf⟩ := List.mem_flatMap.1 hline
      exact Text.notMem_of_mem_pieces hf
    have some : forms.flatMap Form.physicalLines ≠ [] := by
      obtain ⟨f, rest, rfl⟩ := List.exists_cons_of_ne_nil given
      exact List.append_ne_nil_of_left_ne_nil f.physicalLines_ne_nil _
    rw [text, Text.physicalLines, Text.pieces_joinPieces single some]

theorem scriptLines_append (front back : List Form) :
    scriptLines (front ++ back) = scriptLines front ++ scriptLines back := by
  simp only [scriptLines_eq_flatMap, List.flatMap_append]

theorem scriptLines_cons (f : Form) (forms : List Form) :
    scriptLines (f :: forms) = f.physicalLines ++ scriptLines forms := by
  simp only [scriptLines_eq_flatMap, List.flatMap_cons]

/-! ### Comments -/

/-- Only a text breaks the line. -/
theorem Datum.newline_notMem_display (h : ∀ s, d ≠ .text s) : '\n' ∉ d.display.toList := by
  have shown : d.display = d.inspect := by
    unfold display
    split
    next s => exact absurd rfl (h s)
    next => rfl
  rw [shown]
  exact d.inert_inspect.1

/-- A form that declares nothing leaves the path as it is wherever it is put. -/
theorem lastOutput_insert {f : Form} (h : f.declaredOutput = none) (front back : List Form) :
    lastOutput (front ++ f :: back) = lastOutput (front ++ back) := by
  simp only [lastOutput, List.foldl_append, List.foldl_cons, outputAfter, h, Option.getD_none]

namespace Form

theorem toList_fragment_comment (parts : List Datum) :
    (comment parts).fragment.toList = '#' :: ' ' :: parts.flatMap fun d => d.display.toList := by
  rw [fragment, String.toList_append, Text.toList_join_empty, List.flatMap_map]
  rfl

/-- The first line of a comment is a remark. The others are remarks exactly if each line feed in the
parts has the mark behind it. -/
theorem exists_physicalLines_comment (parts : List Datum) :
    ∃ first others, (comment parts).physicalLines = first :: others ∧ IsRemark first ∧
      ((∀ line ∈ others, IsRemark line) ↔
        ∀ rest, '\n' :: rest <:+ parts.flatMap (fun d => d.display.toList) →
          rest.head? = some '#') := by
  have hmark : '#' ≠ '\n' := by decide
  rw [physicalLines, Text.physicalLines, toList_fragment_comment]
  obtain ⟨first, others, hpieces⟩ := List.exists_cons_of_ne_nil
    (Text.pieces_ne_nil '\n' ('#' :: ' ' :: parts.flatMap fun d => d.display.toList))
  have behind := Text.forall_mem_tail_pieces_iff hmark
    ('#' :: ' ' :: parts.flatMap fun d => d.display.toList)
  rw [hpieces, List.tail_cons] at behind
  refine ⟨first, others, hpieces, (Text.head?_of_pieces hpieces hmark).2 rfl, behind.trans ?_⟩
  simp [List.suffix_cons_iff]

/-- A comment whose texts have no line feed is one line. -/
theorem physicalLines_comment_of_single (h : ∀ s, .text s ∈ parts → '\n' ∉ s.toList) :
    (comment parts).physicalLines = [(comment parts).fragment.toList] := by
  have single : ∀ d ∈ parts, '\n' ∉ d.display.toList := by
    intro d hd
    by_cases text : ∃ s, d = .text s
    · obtain ⟨s, rfl⟩ := text
      exact h s hd
    · exact Datum.newline_notMem_display (not_exists.1 text)
  apply Text.pieces_of_notMem
  rw [toList_fragment_comment]
  simpa using single

end Form

theorem assemble_of_comment {front back : List Form}
    (h : (front ++ back).all Form.isWritable = true) (hparts : ∀ d ∈ parts, d.isWritable = true) :
    Script.assemble Form.render ((front ++ .comment parts :: back).map .form) =
      .ok (Script.ofForms (front ++ .comment parts :: back)) := by
  have comment : (Form.comment parts).isWritable = true := by
    rw [Form.isWritable, areWritable_eq_all, List.all_eq_true]
    exact hparts
  rw [List.all_append, Bool.and_eq_true] at h
  rw [Script.assemble_render, List.all_append, List.all_cons, h.1, comment, h.2]
  rfl

/-- Wherever a comment is put whose parts can be written, the script gets the lines of the comment
there and stays the same otherwise, also as to the path of its output. The first of these lines is a
remark. All of them are exactly if each line feed in the texts of the parts has the mark of comments
behind it, and in particular if no part is a text with a line feed in it; there is then one line
only. -/
theorem comment_inert_iff {front back : List Form} {script : Script}
    (hscript : Script.assemble Form.render ((front ++ back).map .form) = .ok script)
    (hparts : ∀ d ∈ parts, d.isWritable = true) :
    ∃ commented,
      Script.assemble Form.render ((front ++ .comment parts :: back).map .form) = .ok commented ∧
      script = Script.ofForms (front ++ back) ∧
      commented = Script.ofForms (front ++ .comment parts :: back) ∧
      let before := scriptLines (front ++ back)
      let after := scriptLines (front ++ .comment parts :: back)
      (∃ first others, IsRemark first ∧
          before = scriptLines front ++ scriptLines back ∧
          after = scriptLines front ++ first :: others ++ scriptLines back) ∧
        (AddsRemarks before after ↔
          ∀ rest, '\n' :: rest <:+ parts.flatMap (fun d => d.display.toList) →
            rest.head? = some '#') ∧
        ((∀ s, .text s ∈ parts → '\n' ∉ s.toList) →
          AddsRemarks before after ∧ after.length = before.length + 1) ∧
        commented.outputPath = script.outputPath := by
  rw [Script.assemble_render, ifWritable_eq_ok_iff] at hscript
  obtain ⟨written, rfl⟩ := hscript
  refine ⟨_, assemble_of_comment written hparts, rfl, rfl, ?_⟩
  intro before after
  have hbefore : before = scriptLines front ++ scriptLines back := scriptLines_append front back
  have hafter : after = scriptLines front ++ (Form.comment parts).physicalLines ++
      scriptLines back := by
    rw [List.append_assoc, ← scriptLines_cons]
    exact scriptLines_append front _
  obtain ⟨first, others, hlines, hfirst, hothers⟩ := Form.exists_physicalLines_comment parts
  refine ⟨⟨first, others, hfirst, hbefore, hlines ▸ hafter⟩, ?_, ?_, ?_⟩
  · rw [hbefore, hafter, addsRemarks_insert_iff, hlines, List.forall_mem_cons, hothers]
    exact and_iff_right hfirst
  · intro single
    have one := Form.physicalLines_comment_of_single single
    rw [hbefore, hafter, addsRemarks_insert_iff, one, List.forall_mem_singleton]
    obtain rfl := (List.cons.inj (hlines.symm.trans one)).1
    refine ⟨hfirst, ?_⟩
    simp only [List.length_append, List.length_singleton]
    omega
  · exact lastOutput_insert rfl front back

end Halves

/-- A comment of a text and a number between two statements. -/
theorem comment_inert_between_statements :
    ∃ commented,
      Script.assemble Form.render
          ([Form.unset "key", .comment [.text "fit ", .int 3], .reset].map .form) =
        .ok commented ∧
      AddsRemarks (scriptLines [.unset "key", .reset])
        (scriptLines [.unset "key", .comment [.text "fit ", .int 3], .reset]) ∧
      commented.outputPath = none := by
  have written : Script.assemble Form.render (([.unset "key"] ++ [.reset] : List Form).map .form) =
      .ok (Script.ofForms [.unset "key", .reset]) := rfl
  have parts : ∀ d ∈ [Datum.text "fit ", .int 3], d.isWritable = true := by
    rw [List.forall_mem_cons, List.forall_mem_singleton]
    exact ⟨rfl, by decide⟩
  have single : ∀ s, .text s ∈ [Datum.text "fit ", .int 3] → '\n' ∉ s.toList := by
    intro s hs
    obtain rfl : s = "fit " := by simpa using hs
    decide
  obtain ⟨commented, assembled, -, -, -, -, remarks, path⟩ := comment_inert_iff written parts
  exact ⟨commented, assembled, (remarks single).1, path⟩

theorem broken_comment_adds_statement :
    let before := scriptLines [.reset]
    let after := scriptLines [.comment [.text "fit\nquit"], .reset]
    before = ["reset".toList] ∧ after = ["# fit".toList, "quit".toList, "reset".toList] ∧
      ¬AddsRemarks before after := by
  have hbefore : scriptLines [.reset] = ["reset".toList] := by decide
  have hafter : scriptLines [.comment [.text "fit\nquit"], .reset] =
      ["# fit".toList, "quit".toList, "reset".toList] := by decide
  refine ⟨hbefore, hafter, fun h => ?_⟩
  have same := h.filter_eq
  rw [hbefore, hafter] at same
  revert same
  decide

end GnuplotScript
