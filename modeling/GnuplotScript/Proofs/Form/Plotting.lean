import GnuplotScript.Form.Fragment
import GnuplotScript.Proofs.Form.Grammar

/-!
# Plots of several items

A plot reads its items by rules of its own: an item may be a curve, an expression of one, or a
source alone. Each item nevertheless means in a plot what it means by itself, wherever in the plot
it stands, and a plot goes wrong as its first wrong item does by itself.

## Main definitions

* `Datum.alone` — the expression that an item of a plot is by itself

## Main results

* `endsAlike_plotItem` — an item is read in a plot as by itself
* `plot_of_items_alone` — a plot is accepted, written and refused by its items alone
-/

namespace GnuplotScript

/-- The expression that an item of a plot is by itself: curves and expressions of curves are such
already, and anything else is the source of a curve. -/
def Datum.alone (d : Datum) : Datum :=
  match d with
  | .form (.curve c) => .form (.curve c)
  | _ =>
    match d.items? with
    | some (.text "curve" :: _) => d
    | _ => .list [.text "curve", d]

variable {d e : Datum} {items arguments : List Datum} {f : Form} {fault : Fault}

/-! ### Items -/

namespace Datum

theorem alone_of_curve (h : d.items? = some (.text "curve" :: arguments)) : d.alone = d := by
  cases d with
  | list _ => cases h; rfl
  | tuple _ => cases h; rfl
  | _ => cases h

theorem alone_of_source (hcurve : ∀ c, d ≠ .form (.curve c))
    (hitems : ∀ arguments, d.items? ≠ some (.text "curve" :: arguments)) :
    d.alone = .list [.text "curve", d] := by
  unfold alone
  split
  next c => exact absurd rfl (hcurve c)
  next =>
    split
    next arguments h => exact absurd h (hitems arguments)
    next => rfl

end Datum

theorem curveOfArguments_lone (source : Datum) :
    curveOfArguments [source] = (Value.decode source).map (⟨·, []⟩) := by
  rw [curveOfArguments]
  cases Value.decode source <;> rfl

section Halves

variable [Text.Halves]

theorem Head.build_curve_eq_map (source : Datum) (options : List Datum) :
    Head.curve.build (source :: options) = (curveOfArguments (source :: options)).map .curve := by
  rw [Head.build]
  cases curveOfArguments (source :: options) <;> rfl

/-- Arguments give a curve in a plot as they do under its head. Only that there are none is
reported in other words. -/
theorem endsAlike_build_curve (arguments : List Datum) :
    EndsAlike (Head.curve.build arguments) ((curveOfArguments arguments).map .curve) := by
  cases arguments with
  | nil => exact .error (.unknownForm _ _ _)
  | cons source options =>
    rw [Head.build_curve_eq_map]
    exact (faultsAre_curveOfArguments (source :: options)).map.endsAlike

/-- An item is read in a plot as it is by itself. -/
theorem endsAlike_plotItem (d : Datum) :
    EndsAlike (Form.ofExpression d.alone) ((plotItem d).map .curve) := by
  by_cases hcurve : ∃ c, d = .form (.curve c)
  · obtain ⟨c, rfl⟩ := hcurve
    exact .ok (Form.curve c)
  by_cases hitems : ∃ arguments, d.items? = some (.text Head.curve.name :: arguments)
  · obtain ⟨arguments, h⟩ := hitems
    rw [Datum.alone_of_curve h, plotItem_of_curve h, Form.ofExpression_of_items? h]
    exact endsAlike_build_curve arguments
  · have source : plotItem d = curveOfArguments [d] := by
      rw [curveOfArguments_lone]
      exact plotItem_of_source (not_exists.1 hcurve) (not_exists.1 hitems)
    have expression : Form.ofExpression d.alone = Head.curve.build [d] := by
      rw [Datum.alone_of_source (not_exists.1 hcurve) (not_exists.1 hitems)]
      exact Form.ofExpression_list .curve [d]
    rw [source, expression]
    exact endsAlike_build_curve [d]

theorem ofExpression_alone_eq_ok_iff :
    Form.ofExpression d.alone = .ok f ↔ ∃ c, plotItem d = .ok c ∧ .curve c = f := by
  rw [(endsAlike_plotItem d).eq_ok_iff, map_eq_ok_iff]

theorem exists_ofExpression_alone_iff :
    (∃ f, Form.ofExpression d.alone = .ok f) ↔ ∃ c, plotItem d = .ok c := by
  simp only [(endsAlike_plotItem d).eq_ok_iff]
  exact exists_map_eq_ok_iff

theorem plotItem_eq_error_of_alone (h : Form.ofExpression d.alone = .error fault) :
    ∃ other, plotItem d = .error other ∧ fault.SameKind other := by
  have alike := endsAlike_plotItem d
  rw [h] at alike
  obtain ⟨other, hother, same⟩ := alike.exists_of_error
  exact ⟨other, map_eq_error_iff.1 hother, same⟩

/-! ### Plots -/

theorem Form.ofExpression_plot_eq_map (he : e.items? = some (.text "plot" :: items))
    (h : items ≠ []) : Form.ofExpression e = (items.mapM plotItem).map .plot := by
  have hplot : e.items? = some (.text Head.plot.name :: items) := he
  rw [Form.ofExpression_of_items? hplot]
  cases items with
  | nil => exact absurd rfl h
  | cons item rest =>
    rw [Head.build]
    cases (item :: rest).mapM plotItem <;> rfl

/-- A plot of items is accepted exactly if each item is accepted by itself. It is then the plot
of the curves that these are, in their order, and is written with what these are written as; and
otherwise it goes wrong as the first of them that does. -/
theorem plot_of_items_alone (he : e.items? = some (.text "plot" :: items)) (h : items ≠ []) :
    ((∃ f, Form.ofExpression e = .ok f) ↔ ∀ x ∈ items, ∃ f, Form.ofExpression x.alone = .ok f) ∧
      (∀ f, Form.ofExpression e = .ok f →
        ∃ curves, f = .plot curves ∧
          List.Forall₂ (fun x c => Form.ofExpression x.alone = .ok (.curve c)) items curves ∧
          f.fragment =
            "plot " ++ Text.join ",\n     " (curves.map fun c => (Form.curve c).fragment) ∧
          f.render = (curves.mapM fun c => (Form.curve c).render).map
            fun texts => "plot " ++ Text.join ",\n     " texts) ∧
      ∀ front x back fault, items = front ++ x :: back →
        (∀ y ∈ front, ∃ f, Form.ofExpression y.alone = .ok f) →
        Form.ofExpression x.alone = .error fault →
          ∃ other, Form.ofExpression e = .error other ∧ fault.SameKind other := by
  rw [Form.ofExpression_plot_eq_map he h]
  simp only [exists_ofExpression_alone_iff, ← exists_mapM_eq_ok_iff]
  refine ⟨exists_map_eq_ok_iff, ?_, ?_⟩
  · intro f hf
    obtain ⟨curves, hcurves, rfl⟩ := map_eq_ok_iff.1 hf
    have each := (mapM_eq_ok_iff.1 hcurves).imp fun x c hc =>
      ofExpression_alone_eq_ok_iff.2 ⟨c, hc, rfl⟩
    exact ⟨curves, rfl, each, Form.fragment_plot curves, Form.render_plot curves⟩
  · rintro front x back fault rfl ⟨curves, hfront⟩ hx
    obtain ⟨other, hother, same⟩ := plotItem_eq_error_of_alone hx
    have first : (front ++ x :: back).mapM plotItem = .error other :=
      mapM_eq_error_iff.2 ⟨front, x, back, curves, rfl, hfront, hother⟩
    exact ⟨other, map_eq_error_iff.2 first, same⟩

end Halves

/-- A plot whose second item is a curve without a source. Nothing is wrong with the first, and the
third is a malformed reference. -/
def sourcelessPlot : Datum :=
  .tuple [.text "plot", .text "sin(x)", .list [.text "curve"],
    .mapping [(.text "ref", .text "points")]]

theorem sourcelessPlot_refused :
    ∃ other, Form.ofExpression sourcelessPlot = .error other ∧
      (Head.curve.fault "takes 1+ argument(s), got 0").SameKind other := by
  have hitems : sourcelessPlot.items? = some (.text "plot" :: [.text "sin(x)",
      .list [.text "curve"], .mapping [(.text "ref", .text "points")]]) := rfl
  have before : ∀ y ∈ [Datum.text "sin(x)"], ∃ f, Form.ofExpression y.alone = .ok f := by
    simp only [List.mem_singleton, forall_eq]
    exact ⟨_, rfl⟩
  exact (plot_of_items_alone hitems (List.cons_ne_nil _ _)).2.2 [.text "sin(x)"]
    (.list [.text "curve"]) [.mapping [(.text "ref", .text "points")]] _ rfl before rfl

end GnuplotScript
