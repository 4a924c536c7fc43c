import GnuplotScript.Form.Basic

/-!
# Fragments

Each form is written as one fragment of a script. A fragment is one line, except that a plot
takes a line for each curve and that a data block encloses its lines between a header and the
line that ends it. A form that holds a number with too many digits cannot be written.

## Main definitions

* `Form.fragment` — the text of a form
* `Form.render` — the text of a form, if it can be written
* `Form.terminator` — the line that ends a data block
* `Datum.expression` — the text of the body of a definition

## Main results

* `fragment_table` — a table is written as its data block
* `render_plot` — a plot is rendered curve by curve
* `fragment_set` — the fragment of an assignment
-/

namespace GnuplotScript

open Text (join)

section Halves

variable [Text.Halves]

/-- The text of the body of a definition: a string is an expression already. -/
def Datum.expression : Datum → String
  | .text s => s
  | d => (Value.ofDatum d).render

/-- The text of a curve: its source, and its options after it. -/
def Curve.fragment (c : Curve) : String :=
  join " " (c.source.render :: c.options.map Value.render)

namespace Form

/-- The line that ends a data block. -/
def terminator : String := "EOD"

/-- What stands between the curves of a plot. -/
def curveSeparator : String := ",\n     "

/-- The text of a data block: the header, the lines and the terminator. -/
def block (name : String) (lines : List String) : String :=
  name ++ " << " ++ terminator ++ "\n" ++ join "\n" lines ++ "\n" ++ terminator

/-- The text of a form. -/
def fragment : Form → String
  | set name values => join " " (("set " ++ name) :: values.map Value.render)
  | unset name => "unset " ++ name
  | plot curves => "plot " ++ join curveSeparator (curves.map Curve.fragment)
  | curve c => c.fragment
  | table name rows => block name [tableText rows]
  | data name lines => block name lines
  | function name parameters body =>
    name ++ "(" ++ join "," parameters ++ ") = " ++ body.expression
  | constant name body => name ++ " = " ++ body.expression
  | comment parts => "# " ++ join "" (parts.map Datum.display)
  | raw text => text
  | reset => "reset"

/-- The text of a form, if it can be written. -/
def render (f : Form) : Except Fault String :=
  ifWritable f.isWritable f.fragment

@[simp] theorem fragment_table (name : String) (rows : List (List Datum)) :
    (table name rows).fragment = (tableData name rows).fragment := rfl

theorem fragment_set (name : String) (v : Value) (rest : List Value) :
    (set name (v :: rest)).fragment =
      "set " ++ name ++ " " ++ join " " (v.render :: rest.map Value.render) := rfl

theorem fragment_plot (curves : List Curve) :
    (plot curves).fragment =
      "plot " ++ join curveSeparator (curves.map fun c => (curve c).fragment) := rfl

/-- A plot is rendered by rendering each of its curves. -/
theorem render_plot (curves : List Curve) :
    (plot curves).render =
      (curves.mapM fun c => (curve c).render).map ("plot " ++ join curveSeparator ·) := by
  have each : (fun c => (curve c).render) = fun c => ifWritable c.isWritable c.fragment := rfl
  rw [each, mapM_ifWritable, map_ifWritable, render, isWritable, areWritableCurves_eq_all, fragment]

theorem render_of_isWritable {f : Form} (h : f.isWritable = true) :
    f.render = .ok f.fragment := by
  rw [render, h, ifWritable_true]

end Form

end Halves

end GnuplotScript
