import GnuplotScript.Value.Basic

/-!
# Building forms from data

An embedding program gives the parts of a form as data. Where a form takes several arguments,
a list or tuple holds them and any other datum is the only one; arguments become values, lines
and parameters become text, which fails if a number in them cannot be written.

## Main definitions

* `Value.sequenceOf` — the sequence of the elements of a datum
* `Curve.of`, `Form.setOf`, `Form.plotOf`, `Form.dataOf`, `Form.tableOf`, `Form.functionOf`,
  `Form.commentOf` — forms whose parts are data
* `Form.ofDatum` — a datum that is a form
* `Form.tableData` — the data block that a table is written as
-/

namespace GnuplotScript

/-- The sequence of the elements of a datum, which must be iterable. -/
def Value.sequenceOf (items : Datum) : Except Fault Value :=
  match items.elements? with
  | some elements => .ok (.sequence (elements.map Value.ofDatum))
  | none => .error .wrongType

/-- The values of the arguments that a datum stands for. -/
def Datum.values (d : Datum) : List Value :=
  d.several.map Value.ofDatum

/-- The texts of the arguments that a datum stands for. -/
def Datum.texts [Text.Halves] (d : Datum) : Except Fault (List String) :=
  d.several.mapM Datum.written

/-- The curve of a source and its options. -/
def Curve.of (source options : Datum) : Curve :=
  ⟨Value.ofDatum source, options.values⟩

/-- The curve that a datum stands for: a curve for itself, any other datum as a source
without options. -/
def Curve.ofDatum : Datum → Curve
  | .form (.curve c) => c
  | d => ⟨Value.ofDatum d, []⟩

namespace Form

/-- An assignment of values to a setting. -/
def setOf (name : String) (values : Datum) : Form :=
  set name values.values

/-- A plot of curves. -/
def plotOf (curves : Datum) : Form :=
  plot (curves.several.map Curve.ofDatum)

/-- A data block of lines. -/
def dataOf [Text.Halves] (name : String) (lines : Datum) : Except Fault Form :=
  lines.texts.map (data name)

/-- The items of the elements of a datum, if all elements are lists or tuples. -/
def rowsOf (rows : Datum) : Except Fault (List (List Datum)) :=
  match rows.elements? with
  | none => .error .wrongType
  | some elements =>
    match elements.mapM Datum.items? with
    | some cells => .ok cells
    | none => .error (.malformedRowsOf rows)

/-- A table of rows, each a list or tuple of cells. -/
def tableOf (name : String) (rows : Datum) : Except Fault Form :=
  (rowsOf rows).map (table name)

/-- A definition of a function. -/
def functionOf [Text.Halves] (name : String) (parameters body : Datum) : Except Fault Form :=
  parameters.texts.map (function name · body)

/-- A comment of several parts. -/
def commentOf (parts : Datum) : Form :=
  comment parts.several

/-- A datum that is a form; any other is named by its type. -/
def ofDatum : Datum → Except Fault Form
  | .form f => .ok f
  | d => .error (.unknownForm (.text d.typeName) "")

section Halves

variable [Text.Halves]

/-- The text of a cell in a table. -/
def cellText (cell : Datum) : String :=
  (Value.ofDatum cell).render

/-- The line of a row: its cells with spaces between them. -/
def rowText (row : List Datum) : String :=
  Text.join " " (row.map cellText)

/-- All rows of a table, one line each, as one text. -/
def tableText (rows : List (List Datum)) : String :=
  Text.join "\n" (rows.map rowText)

/-- The data block that a table is written as. -/
def tableData (name : String) (rows : List (List Datum)) : Form :=
  data name [tableText rows]

end Halves

@[simp] theorem ofDatum_form (f : Form) : ofDatum (.form f) = .ok f := rfl

theorem mapM_ofDatum_form (forms : List Form) :
    (forms.map Datum.form).mapM ofDatum = .ok forms := by
  induction forms with
  | nil => rfl
  | cons f rest ih => simp [ih, bind, Except.bind, pure, Except.pure]

theorem ofDatum_eq_ok_iff {d : Datum} {f : Form} : ofDatum d = .ok f ↔ d = .form f := by
  cases d <;> simp [ofDatum]

end Form

end GnuplotScript
