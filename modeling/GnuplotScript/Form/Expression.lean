import GnuplotScript.Form.Basic
import GnuplotScript.Value.Tagged

/-!
# Form expressions

A form expression is a list or tuple whose first item names the statement and whose other
items are its arguments. Arguments may be values, data, or the tagged mappings of documents.
A form stands for itself.

## Main definitions

* `Head` — the names of statements, with how many arguments each takes
* `nameOf` — the name that the first argument of many statements gives
* `Head.noName` — the fault of an argument that gives none
* `Head.build` — the form of a statement with its arguments
* `Form.ofExpression` — the form that a datum expresses
* `Form.ofExpressions` — the forms that the elements of a datum express

## Main results

* `Head.ofName?_name` — each head is found by its name
* `Head.build_arity` — a wrong number of arguments is reported
-/

namespace GnuplotScript

/-- The statements that an expression can begin with. -/
inductive Head where
  | set
  | unset
  | plot
  | curve
  | table
  | data
  | function
  | constant
  | comment
  | raw
  | reset
  deriving DecidableEq, Repr

namespace Head

/-- How a head is written. -/
def name : Head → String
  | set => "set"
  | unset => "unset"
  | plot => "plot"
  | curve => "curve"
  | table => "table"
  | data => "data"
  | function => "fn"
  | constant => "const"
  | comment => "comment"
  | raw => "raw"
  | reset => "reset"

/-- All heads. -/
def all : List Head :=
  [set, unset, plot, curve, table, data, function, constant, comment, raw, reset]

/-- The head that a text names. -/
def ofName? (s : String) : Option Head :=
  all.find? fun head => head.name == s

@[simp] theorem ofName?_name (head : Head) : ofName? head.name = some head := by
  cases head <;> decide

/-- The least number of arguments of a head, and the greatest where there is one. -/
def arity : Head → Nat × Option Nat
  | set => (1, none)
  | unset => (1, some 1)
  | plot => (1, none)
  | curve => (1, none)
  | table => (2, some 2)
  | data => (1, none)
  | function => (3, some 3)
  | constant => (2, some 2)
  | comment => (0, none)
  | raw => (1, some 1)
  | reset => (0, some 0)

/-- Whether a head takes a number of arguments. -/
def takes (head : Head) (count : Nat) : Bool :=
  head.arity.1 ≤ count && (head.arity.2.all fun most => count ≤ most)

/-- The fault of a head with something wrong about its arguments. -/
def fault (head : Head) (reason : String) : Fault :=
  .unknownForm (.text head.name) reason

/-- The fault of a head with a number of arguments that it does not take. -/
def arityFault (head : Head) (count : Nat) : Fault :=
  let (least, most) := head.arity
  head.fault ("takes " ++ toString least ++ (if most.isNone then "+" else "")
    ++ " argument(s), got " ++ toString count)

end Head

section Halves

variable [Text.Halves]

/-- The fault of an argument that gives no name. Its message shows the argument. -/
def Head.noName (head : Head) (d : Datum) : Fault :=
  if d.isWritable then head.fault ("expected a name, got " ++ d.inspect) else .unwritable

/-- The name that an argument gives: a text, a reference, or a mapping tagged as a word or a
reference. What is shown of another mapping is the value that it stands for. -/
def nameOf (head : Head) : Datum → Except Fault String
  | .text s => .ok s
  | .value (.reference name) => .ok name
  | .mapping entries =>
    match Value.decode (.mapping entries) with
    | .error fault => .error fault
    | .ok (.reference name) => .ok name
    | .ok (.bareword name) => .ok name
    | .ok v => .error (head.noName (.value v))
  | d => .error (head.noName d)

end Halves

/-- The curve of a source and options. -/
def curveOfArguments : List Datum → Except Fault Curve
  | [] => .error (Head.curve.fault "a curve needs a source")
  | source :: options => do
    let source ← Value.decode source
    let options ← decodeAll options
    return ⟨source, options⟩

/-- The curve of an item of a plot: a curve, an expression of one, or a source alone. -/
def plotItem (item : Datum) : Except Fault Curve :=
  match item with
  | .form (.curve c) => .ok c
  | _ =>
    match item.items? with
    | some (.text "curve" :: arguments) => curveOfArguments arguments
    | _ => (Value.decode item).map (⟨·, []⟩)

/-- The rows of a table in an expression. -/
def rowsOfArgument (rows : Datum) : Except Fault (List (List Datum)) :=
  match rows.items?.bind (·.mapM Datum.items?) with
  | some cells => .ok cells
  | none => .error (Head.table.fault "rows must be a list of lists")

/-- The lines of a data block in an expression: several texts, or one list or tuple of them. -/
def linesOfArguments (arguments : List Datum) : Except Fault (List String) :=
  let lines := match arguments with
    -- A single text is a line by itself, and only a list or tuple holds more.
    | [only] => only.several
    | _ => arguments
  match lines.mapM Datum.text? with
  | some texts => .ok texts
  | none => .error (Head.data.fault "lines must be strings")

/-- The parameters of a function in an expression: a text, or a list or tuple of them. -/
def parametersOfArgument (parameters : Datum) : Except Fault (List String) :=
  let names := match parameters with
    | .text s => some [Datum.text s]
    | _ => parameters.items?
  match names.bind (·.mapM Datum.text?) with
  | some texts => .ok texts
  | none => .error (Head.function.fault "params must be a list of names")

/-- The body of a definition in an expression. -/
def bodyOfArgument : Datum → Except Fault Datum
  | .text s => .ok (.text s)
  | d => (Value.decode d).map .value

namespace Head

section Halves

variable [Text.Halves]

/-- The form of a statement with its arguments. -/
def build : Head → List Datum → Except Fault Form
  | set, name :: values => do
    let name ← nameOf set name
    let values ← decodeAll values
    return .set name values
  | unset, [name] => do
    let name ← nameOf unset name
    return .unset name
  | plot, item :: items => do
    let curves ← (item :: items).mapM plotItem
    return .plot curves
  | curve, source :: options => do
    let c ← curveOfArguments (source :: options)
    return .curve c
  | table, [name, rows] => do
    -- That the rows are rows is settled before the name and the cells are read.
    let rows ← rowsOfArgument rows
    let name ← nameOf table name
    let rows ← decodeRows rows
    return .table name (rows.map (·.map .value))
  | data, name :: lines => do
    -- The name comes first, but its faults are found after those of the lines.
    let lines ← linesOfArguments lines
    let name ← nameOf data name
    return .data name lines
  | function, [name, parameters, body] => do
    -- Here too the name is read later, after the parameters.
    let parameters ← parametersOfArgument parameters
    let name ← nameOf function name
    let body ← bodyOfArgument body
    return .function name parameters body
  | constant, [name, body] => do
    let name ← nameOf constant name
    let body ← bodyOfArgument body
    return .constant name body
  | comment, parts => .ok (.comment parts)
  | raw, [text] => text.written.map .raw
  | reset, [] => .ok .reset
  -- Only a wrong number of arguments is left.
  | head, arguments => .error (head.arityFault arguments.length)

/-- A number of arguments that a head does not take is reported as such. -/
theorem build_arity {head : Head} {arguments : List Datum}
    (h : head.takes arguments.length = false) :
    head.build arguments = .error (head.arityFault arguments.length) := by
  -- No head tells more than three arguments apart.
  rcases arguments with _ | ⟨a, _ | ⟨b, _ | ⟨c, _ | ⟨d, rest⟩⟩⟩⟩ <;>
    cases head <;> simp_all [takes, arity, build]

end Halves

end Head

namespace Form

section Halves

variable [Text.Halves]

/-- The form that a datum expresses. -/
def ofExpression (expression : Datum) : Except Fault Form :=
  match expression with
  | .form f => .ok f
  | _ =>
    match expression.items? with
    | some (head :: arguments) =>
      match head.text?.bind Head.ofName? with
      | some head => head.build arguments
      -- A head that is no text is shown like a text that names no statement.
      | none => .error (.unknownFormOf head "")
    | _ => .error (.unknownFormOf expression "a form expression is a non-empty list")

/-- The forms that the elements of a datum express; the first fault is reported. -/
def ofExpressions (expressions : Datum) : Except Fault (List Form) :=
  match expressions.elements? with
  | some elements => elements.mapM ofExpression
  | none => .error .wrongType

@[simp] theorem ofExpression_form (f : Form) : ofExpression (.form f) = .ok f := rfl

/-- Forms express themselves. -/
theorem ofExpressions_forms (forms : List Form) :
    ofExpressions (.list (forms.map .form)) = .ok forms := by
  change (forms.map Datum.form).mapM ofExpression = .ok forms
  induction forms with
  | nil => rfl
  | cons f rest ih => simp [ih, bind, Except.bind, pure, Except.pure]

theorem ofExpression_list (head : Head) (arguments : List Datum) :
    ofExpression (.list (.text head.name :: arguments)) = head.build arguments := by
  simp [ofExpression, Datum.text?]

theorem ofExpression_tuple (head : Head) (arguments : List Datum) :
    ofExpression (.tuple (.text head.name :: arguments)) = head.build arguments := by
  simp [ofExpression, Datum.text?]

end Halves

end Form

end GnuplotScript
