import GnuplotScript.Proofs.Datum.Writable
import GnuplotScript.Proofs.Form.Building

/-!
# Forms that can be written

A form holds nothing that its expression does not hold, so that a form can be written if the
expression can. The converse fails: a number is left out where only its text counts.

## Main results

* `Head.isWritable_of_build` — a statement with arguments that can be written can be written
* `Form.isWritable_of_ofExpression` — so can the form of an expression that can
* `Form.all_isWritable_of_ofExpressions` — and all forms of a list that can
-/

namespace GnuplotScript

variable {d e : Datum} {items arguments values options : List Datum} {vs : List Value} {v : Value}
  {c : Curve} {curves : List Curve} {head : Head} {f : Form} {forms : List Form} {n : String}

namespace Form

theorem isWritable_set : (set n vs).isWritable = true ↔ ∀ v ∈ vs, v.isWritable = true := by
  rw [isWritable, areWritableValues_eq_all, List.all_eq_true]

theorem isWritable_plot : (plot curves).isWritable = true ↔ ∀ c ∈ curves, c.isWritable = true := by
  rw [isWritable, areWritableCurves_eq_all, List.all_eq_true]

theorem isWritable_table {rows : List (List Datum)} :
    (table n rows).isWritable = true ↔ ∀ row ∈ rows, ∀ cell ∈ row, cell.isWritable = true := by
  simp only [isWritable, areWritableRows_eq_all, List.all_eq_true]

theorem isWritable_comment : (comment items).isWritable = true ↔
    ∀ part ∈ items, part.isWritable = true := by
  rw [isWritable, areWritable_eq_all, List.all_eq_true]

end Form

theorem Curve.isWritable_mk :
    (Curve.mk v vs).isWritable = true ↔ v.isWritable = true ∧ ∀ w ∈ vs, w.isWritable = true := by
  rw [isWritable, areWritableValues_eq_all, Bool.and_eq_true, List.all_eq_true]

/-! ### Arguments -/

theorem isWritable_of_decodes (h : values.mapM Value.decode = .ok vs)
    (hd : ∀ d ∈ values, d.isWritable = true) : ∀ v ∈ vs, v.isWritable = true := by
  intro v hv
  obtain ⟨d, hmem, hdecode⟩ := exists_mem_of_forall₂ (mapM_eq_ok_iff.1 h) hv
  exact Value.isWritable_of_decode hdecode (hd d hmem)

theorem isWritable_of_curveOfArguments (h : curveOfArguments arguments = .ok c)
    (hd : ∀ d ∈ arguments, d.isWritable = true) : c.isWritable = true := by
  cases arguments with
  | nil => cases h
  | cons source options =>
    obtain ⟨v, hv, vs, hvs, rfl⟩ := curveOfArguments_eq_ok_iff.1 h
    obtain ⟨hsource, hoptions⟩ := List.forall_mem_cons.1 hd
    exact Curve.isWritable_mk.2
      ⟨Value.isWritable_of_decode hv hsource, isWritable_of_decodes hvs hoptions⟩

theorem isWritable_of_plotItem (h : plotItem d = .ok c) (hd : d.isWritable = true) :
    c.isWritable = true := by
  rcases plotItem_cases d with ⟨other, rfl⟩ | ⟨arguments, hitems, hread⟩ | ⟨-, hread⟩
  · cases h
    exact hd
  · rw [hread] at h
    apply isWritable_of_curveOfArguments h
    intro argument hmem
    exact Datum.isWritable_of_mem hitems hd (List.mem_cons_of_mem _ hmem)
  · rw [hread] at h
    obtain ⟨v, hv, rfl⟩ := map_eq_ok_iff.1 h
    exact Curve.isWritable_mk.2 ⟨Value.isWritable_of_decode hv hd, nofun⟩

theorem isWritable_of_bodyOfArgument (h : bodyOfArgument d = .ok e) (hd : d.isWritable = true) :
    e.isWritable = true := by
  rcases bodyOfArgument_eq_ok_iff.1 h with ⟨s, -, rfl⟩ | ⟨-, v, hv, rfl⟩
  · rfl
  · exact Value.isWritable_of_decode hv hd

theorem isWritable_of_rowsOfArgument {cells : List (List Datum)} {rows : List (List Value)}
    (hcells : rowsOfArgument d = .ok cells) (hrows : cells.mapM (·.mapM Value.decode) = .ok rows)
    (hd : d.isWritable = true) : ∀ row ∈ rows, ∀ v ∈ row, v.isWritable = true := by
  obtain ⟨lists, hlists, hitems⟩ := Head.rowsOfArgument_eq_ok_iff.1 hcells
  intro row hrow
  obtain ⟨line, hline, hdecode⟩ := exists_mem_of_forall₂ (mapM_eq_ok_iff.1 hrows) hrow
  obtain ⟨list, hlist, hheld⟩ := exists_mem_of_forall₂ (mapM_eq_some_iff.1 hitems) hline
  apply isWritable_of_decodes hdecode
  intro cell hcell
  exact Datum.isWritable_of_mem hheld (Datum.isWritable_of_mem hlists hd hlist) hcell

/-! ### Statements -/

section Halves

variable [Text.Halves]

/-- A statement whose arguments can be written can be written. -/
theorem Head.isWritable_of_build (h : head.build arguments = .ok f)
    (hd : ∀ d ∈ arguments, d.isWritable = true) : f.isWritable = true := by
  by_cases taken : head.takes arguments.length = false
  · rw [build_arity taken] at h
    cases h
  match head, arguments, taken with
  | set, name :: values, _ =>
    obtain ⟨n, -, vs, hvs, rfl⟩ := build_set_eq_ok_iff.1 h
    exact Form.isWritable_set.2 (isWritable_of_decodes hvs (List.forall_mem_cons.1 hd).2)
  | unset, [name], _ =>
    obtain ⟨n, -, rfl⟩ := build_unset_eq_ok_iff.1 h
    rfl
  | plot, item :: items, _ =>
    obtain ⟨curves, hcurves, rfl⟩ := (build_plot_eq_ok_iff (List.cons_ne_nil _ _)).1 h
    rw [Form.isWritable_plot]
    intro c hc
    obtain ⟨i, hi, hread⟩ := exists_mem_of_forall₂ (mapM_eq_ok_iff.1 hcurves) hc
    exact isWritable_of_plotItem hread (hd i hi)
  | curve, source :: options, _ =>
    obtain ⟨c, hc, rfl⟩ := build_curve_eq_ok_iff.1 h
    exact isWritable_of_curveOfArguments hc hd
  | table, [name, rows], _ =>
    obtain ⟨cells, hcells, n, -, values, hvalues, rfl⟩ := build_table_eq_ok_iff.1 h
    have each := isWritable_of_rowsOfArgument hcells hvalues (hd rows (.tail _ (.head _)))
    rw [Form.isWritable_table, List.forall_mem_map]
    intro row hrow
    rw [List.forall_mem_map]
    exact each row hrow
  | data, name :: lines, _ =>
    obtain ⟨texts, -, n, -, rfl⟩ := build_data_eq_ok_iff.1 h
    rfl
  | function, [name, parameters, body], _ =>
    obtain ⟨texts, -, n, -, b, hb, rfl⟩ := build_function_eq_ok_iff.1 h
    exact isWritable_of_bodyOfArgument hb (hd body (.tail _ (.tail _ (.head _))))
  | constant, [name, body], _ =>
    obtain ⟨n, -, b, hb, rfl⟩ := build_constant_eq_ok_iff.1 h
    exact isWritable_of_bodyOfArgument hb (hd body (.tail _ (.head _)))
  | comment, parts, _ =>
    cases h
    exact Form.isWritable_comment.2 hd
  | raw, [text], _ =>
    obtain ⟨-, rfl⟩ := build_raw_eq_ok_iff.1 h
    rfl
  | reset, [], _ =>
    cases h
    rfl

namespace Form

/-- The form of an expression that can be written can be written. -/
theorem isWritable_of_ofExpression (h : ofExpression e = .ok f) (he : e.isWritable = true) :
    f.isWritable = true := by
  rcases ofExpression_cases e with ⟨g, rfl⟩ | ⟨head, arguments, hitems, hread⟩ |
    ⟨-, -, named, reason, hread, -⟩
  · cases h
    exact he
  · rw [hread] at h
    apply Head.isWritable_of_build h
    intro argument hmem
    exact Datum.isWritable_of_mem hitems he (List.mem_cons_of_mem _ hmem)
  · rw [hread] at h
    cases h

theorem all_isWritable_of_mapM (h : items.mapM ofExpression = .ok forms)
    (hd : ∀ d ∈ items, d.isWritable = true) : forms.all isWritable = true := by
  rw [List.all_eq_true]
  intro f hf
  obtain ⟨e, he, hread⟩ := exists_mem_of_forall₂ (mapM_eq_ok_iff.1 h) hf
  exact isWritable_of_ofExpression hread (hd e he)

theorem all_isWritable_of_ofExpressions (h : ofExpressions (.list items) = .ok forms)
    (hd : (Datum.list items).isWritable = true) : forms.all isWritable = true :=
  all_isWritable_of_mapM h fun _ hmem => Datum.isWritable_of_mem rfl hd hmem

end Form

end Halves

end GnuplotScript
