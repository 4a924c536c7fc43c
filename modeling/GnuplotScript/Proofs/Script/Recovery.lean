import GnuplotScript.Proofs.Form.Grammar
import GnuplotScript.Proofs.Form.Statement
import GnuplotScript.Proofs.Form.Writable
import GnuplotScript.Proofs.Value.Rendering
import GnuplotScript.Script

/-!
# Recovering statements from a script

No value that is free of tags moves a boundary of a script: whatever texts, numbers, lists and
mappings stand in the arguments of assignments, in plots and in tables, the statements that
the script is read as are those of its forms.

## Main definitions

* `Datum.IsWordName` — data that give words as names
* `Head.Confines`, `Datum.IsConfined` — expressions whose values are free of tags

## Main results

* `Head.bounded_of_build` — forms of such expressions draw no boundary but their own
* `read_assembled_statements` — their statements are read from the script
-/

namespace GnuplotScript

open Text (Inert)

/-- A datum that gives a word as a name. -/
def Datum.IsWordName (d : Datum) : Prop :=
  ∃ n, d.Names n ∧ IsWord n

/-- Arguments whose names are words and whose values are free of tags. A table has rows, and
data have lines that are none but lines and do not end the block. -/
def Head.Confines : Head → List Datum → Prop
  | .set, name :: values => name.IsWordName ∧ ∀ v ∈ values, v.TagFree
  | .unset, [name] => name.IsWordName
  | .plot, items => ∀ item ∈ items, item.TagFree
  | .table, [name, rows] => name.IsWordName ∧ rows.TagFree ∧ rows.items? ≠ some []
  | .data, name :: arguments =>
    name.IsWordName ∧ ∃ lines, linesOfArguments arguments = .ok lines ∧ lines ≠ [] ∧
      ∀ line ∈ lines, '\n' ∉ line.toList ∧ line ≠ Form.terminator
  | .reset, _ => True
  | _, _ => False

/-- An expression of a head with such arguments. -/
def Datum.IsConfined (d : Datum) : Prop :=
  ∃ (head : Head) (arguments : List Datum),
    d.items? = some (.text head.name :: arguments) ∧ head.Confines arguments

variable {d name rows : Datum} {values items arguments : List Datum} {vs : List Value}
  {head : Head} {f : Form} {c : Curve} {n : String} {expressions : List Datum}
  {forms : List Form}

section Halves

variable [Text.Halves]

theorem isWord_of_nameOf (h : d.IsWordName) (hn : nameOf head d = .ok n) : IsWord n := by
  obtain ⟨m, hm, word⟩ := h
  have named : nameOf head d = .ok m := nameOf_of_names hm
  exact Except.ok.inj (named.symm.trans hn) ▸ word

theorem inert_of_mapM_decode (h : ∀ d ∈ values, d.TagFree)
    (hvs : values.mapM Value.decode = .ok vs) : ∀ v ∈ vs, Inert v.render := by
  intro v hv
  obtain ⟨d, hd, hread⟩ := exists_mem_of_forall₂ (mapM_eq_ok_iff.1 hvs) hv
  exact Value.inert_of_decode (h d hd) hread

theorem inert_fragment_curve {source : Value} {options : List Value}
    (h : ∀ v ∈ source :: options, Inert v.render) :
    Inert (Curve.mk source options).fragment := by
  apply Text.inert_space.join
  intro text htext
  obtain ⟨v, hv, rfl⟩ := List.mem_map.1 (List.map_cons ▸ htext)
  exact h v hv

theorem inert_of_curveOfArguments (h : ∀ d ∈ arguments, d.TagFree)
    (hc : curveOfArguments arguments = .ok c) : Inert c.fragment := by
  cases arguments with
  | nil => cases hc
  | cons source options =>
    obtain ⟨v, hv, vs, hvs, rfl⟩ := curveOfArguments_eq_ok_iff.1 hc
    obtain ⟨hsource, hoptions⟩ := List.forall_mem_cons.1 h
    apply inert_fragment_curve
    rw [List.forall_mem_cons]
    constructor
    · exact Value.inert_of_decode hsource hv
    · exact inert_of_mapM_decode hoptions hvs

theorem inert_of_plotItem (h : d.TagFree) (hc : plotItem d = .ok c) : Inert c.fragment := by
  rcases plotItem_cases d with ⟨other, rfl⟩ | ⟨arguments, hitems, hread⟩ | ⟨-, hread⟩
  · exact absurd rfl ((h _ (.refl _)).2.2 _)
  · have free := (Datum.tagFree_iff_items hitems).1 h
    have freeArguments : ∀ d ∈ arguments, d.TagFree := (List.forall_mem_cons.1 free).2
    rw [hread] at hc
    exact inert_of_curveOfArguments freeArguments hc
  · rw [hread, map_eq_ok_iff] at hc
    obtain ⟨v, hv, rfl⟩ := hc
    apply inert_fragment_curve
    rw [List.forall_mem_singleton]
    exact Value.inert_of_decode h hv

theorem inert_rowText (h : ∀ v ∈ vs, Inert v.render) :
    Inert (Form.rowText (vs.map .value)) := by
  apply Text.inert_space.join
  intro text htext
  obtain ⟨cell, hcell, rfl⟩ := List.mem_map.1 htext
  obtain ⟨v, hv, rfl⟩ := List.mem_map.1 hcell
  exact h v hv

/-- The rows of a table free of tags are inert, and there are as many as are given. -/
theorem bounded_of_rowsOfArgument {cells : List (List Datum)} {tables : List (List Value)}
    (free : rows.TagFree) (given : rows.items? ≠ some []) (hcells : rowsOfArgument rows = .ok cells)
    (htables : cells.mapM (·.mapM Value.decode) = .ok tables) :
    tables ≠ [] ∧ ∀ vs ∈ tables, ∀ v ∈ vs, Inert v.render := by
  obtain ⟨items, hitems, hlook⟩ := Head.rowsOfArgument_eq_ok_iff.1 hcells
  rw [mapM_eq_some_iff] at hlook
  rw [mapM_eq_ok_iff] at htables
  constructor
  · have hne : items ≠ [] := fun none => given (hitems.trans (congrArg _ none))
    have someCells : cells ≠ [] := ne_nil_of_forall₂ hlook hne
    exact ne_nil_of_forall₂ htables someCells
  · intro vs hvs
    obtain ⟨ds, hds, hread⟩ := exists_mem_of_forall₂ htables hvs
    obtain ⟨row, hrow, hrowItems⟩ := exists_mem_of_forall₂ hlook hds
    have freeRow : row.TagFree := (Datum.tagFree_iff_items hitems).1 free row hrow
    have freeCells : ∀ d ∈ ds, d.TagFree := (Datum.tagFree_iff_items hrowItems).1 freeRow
    exact inert_of_mapM_decode freeCells hread

/-- Forms built of confined arguments draw no boundary but their own. -/
theorem Head.bounded_of_build (h : head.Confines arguments)
    (hf : head.build arguments = .ok f) : f.Bounded := by
  match head, arguments, h with
  | .set, name :: values, ⟨word, free⟩ =>
    obtain ⟨n, hn, vs, hvs, rfl⟩ := build_set_eq_ok_iff.1 hf
    exact ⟨isWord_of_nameOf word hn, inert_of_mapM_decode free hvs⟩
  | .unset, [name], word =>
    obtain ⟨n, hn, rfl⟩ := build_unset_eq_ok_iff.1 hf
    exact isWord_of_nameOf word hn
  | .plot, [], _ => cases hf
  | .plot, item :: items, free =>
    have given : item :: items ≠ [] := List.cons_ne_nil item items
    obtain ⟨curves, hcurves, rfl⟩ := (build_plot_eq_ok_iff given).1 hf
    rw [mapM_eq_ok_iff] at hcurves
    refine ⟨ne_nil_of_forall₂ hcurves given, fun c hc => ?_⟩
    obtain ⟨d, hd, hread⟩ := exists_mem_of_forall₂ hcurves hc
    exact inert_of_plotItem (free d hd) hread
  | .table, [name, rows], ⟨word, free, given⟩ =>
    obtain ⟨cells, hcells, n, hn, tables, htables, rfl⟩ := build_table_eq_ok_iff.1 hf
    obtain ⟨filled, inert⟩ := bounded_of_rowsOfArgument free given hcells htables
    refine ⟨isWord_of_nameOf word hn, ?_, fun row hrow => ?_⟩
    · rwa [Ne, List.map_eq_nil_iff]
    · obtain ⟨vs, hvs, rfl⟩ := List.mem_map.1 hrow
      exact inert_rowText (inert vs hvs)
  | .data, name :: arguments, ⟨word, lines, hlines, given, free⟩ =>
    obtain ⟨texts, htexts, n, hn, rfl⟩ := build_data_eq_ok_iff.1 hf
    obtain rfl := Except.ok.inj (hlines.symm.trans htexts)
    exact ⟨isWord_of_nameOf word hn, given, free⟩
  | .reset, [], _ =>
    cases hf
    trivial
  | .reset, _ :: _, _ => cases hf

theorem bounded_of_ofExpression (h : d.IsConfined) (hf : Form.ofExpression d = .ok f) :
    f.Bounded := by
  obtain ⟨head, arguments, hitems, confines⟩ := h
  rw [Form.ofExpression_of_items? hitems] at hf
  exact Head.bounded_of_build confines hf

/-- The script of confined expressions is read as the statements of their forms, in order, and
each of these is written as its form is. There is a script as soon as all numbers in the expressions
can be written, as those of a document can. -/
theorem read_assembled_statements
    (parsed : expressions.mapM Form.ofExpression = .ok forms)
    (confined : ∀ e ∈ expressions, e.IsConfined) :
    ∃ script, Script.assemble Form.render (forms.map .form) =
        ifWritable (forms.all Form.isWritable) script ∧
      ((∀ e ∈ expressions, e.isWritable = true) →
        Script.assemble Form.render (forms.map .form) = .ok script) ∧
      Statement.read script.text.toList = forms.map Form.statement ∧
      ∀ f ∈ forms, f.statement.text = f.fragment.toList := by
  have bounded : ∀ f ∈ forms, f.Bounded := by
    intro f hf
    obtain ⟨e, he, hread⟩ := exists_mem_of_forall₂ (mapM_eq_ok_iff.1 parsed) hf
    exact bounded_of_ofExpression (confined e he) hread
  have texts : ∀ f ∈ forms, f.statement.text = f.fragment.toList :=
    fun f hf => Form.text_statement (bounded f hf)
  have assembled := Script.assemble_render forms
  refine ⟨Script.ofForms forms, assembled, fun writable => ?_, ?_, texts⟩
  · have written := Form.all_isWritable_of_mapM parsed writable
    rw [assembled, written, ifWritable_true]
  · have sound : ∀ s ∈ forms.map Form.statement, s.Sound := by
      intro s hs
      obtain ⟨f, hf, rfl⟩ := List.mem_map.1 hs
      exact Form.sound_statement (bounded f hf)
    have written : (Script.ofForms forms).text.toList =
        Text.joinPieces '\n' ((forms.map Form.statement).map Statement.text) := by
      rw [Script.ofForms, Text.toList_join, List.map_map, List.map_map]
      exact congrArg _ (List.map_congr_left fun f hf => (texts f hf).symm)
    rw [written, Statement.read_joinPieces_text sound]

end Halves

/-- Expressions with texts that look like the boundaries of statements. -/
def treacherousExpressions : List Datum := [
  .list [.text "set", .text "title", .text "first\nEOD"],
  .list [.text "table", .text "$rows", .list [.list [.text "EOD"]]],
  .list [.text "plot", .text "x << EOD", .list [.text "curve", .text "y,\n     z"]],
  .list [.text "reset"]]

/-- The forms of these expressions. -/
def treacherousForms : List Form := [
  .set "title" [.text "first\nEOD"],
  .table "$rows" [[.value (.text "EOD")]],
  .plot [⟨.text "x << EOD", []⟩, ⟨.text "y,\n     z", []⟩],
  .reset]

theorem isConfined_of_mem_treacherousExpressions :
    ∀ e ∈ treacherousExpressions, e.IsConfined := by
  have title : IsWord "title" := .of_any (by decide) (by decide)
  have rows : IsWord "$rows" := .of_any (by decide) (by decide)
  simp only [treacherousExpressions, List.forall_mem_cons]
  refine ⟨⟨.set, _, rfl, ⟨"title", .inl rfl, title⟩, ?_⟩,
    ⟨.table, _, rfl, ⟨"$rows", .inl rfl, rows⟩, ?_, nofun⟩, ⟨.plot, _, rfl, ?_⟩,
    ⟨.reset, _, rfl, trivial⟩, nofun⟩
  · simp
  · simp
  · intro item hitem
    rcases List.mem_cons.1 hitem with rfl | hitem
    · simp
    · rw [List.mem_singleton.1 hitem]
      simp

theorem read_treacherous_statements :
    ∃ script, Script.assemble Form.render (treacherousForms.map .form) =
        ifWritable (treacherousForms.all Form.isWritable) script ∧
      ((∀ e ∈ treacherousExpressions, e.isWritable = true) →
        Script.assemble Form.render (treacherousForms.map .form) = .ok script) ∧
      Statement.read script.text.toList = treacherousForms.map Form.statement ∧
      ∀ f ∈ treacherousForms, f.statement.text = f.fragment.toList :=
  have parsed : treacherousExpressions.mapM Form.ofExpression = .ok treacherousForms := rfl
  read_assembled_statements parsed isConfined_of_mem_treacherousExpressions

end GnuplotScript
