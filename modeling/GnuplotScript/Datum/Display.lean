import GnuplotScript.Datum.Basic
import GnuplotScript.Decimal.Layout
import GnuplotScript.Text.Inspect
import GnuplotScript.Text.Lines

/-!
# The text of a datum

A datum has two texts. `Datum.inspect` shows its structure, texts between quotation marks,
and is what messages and containers show. `Datum.display` is the text of a text itself, and
what `inspect` shows for everything else; it is what a script shows.

## Main definitions

* `Datum.inspect`, `Value.inspect`, `Form.inspect` — the structure of a datum
* `Datum.display` — the text that stands for a datum in a script
-/

namespace GnuplotScript

open Text (join)

/-- A parenthesised list in which a single member is followed by a comma. -/
def showTuple : List String → String
  | [] => "()"
  | [piece] => "(" ++ piece ++ ",)"
  | pieces => "(" ++ join ", " pieces ++ ")"

/-- A record: its name and its fields in order. -/
def showRecord (name : String) (fields : List (String × String)) : String :=
  name ++ "(" ++ join ", " (fields.map fun (field, shown) => field ++ "=" ++ shown) ++ ")"

section Halves

variable [Text.Halves]

mutual

/-- A datum with its structure. -/
def Datum.inspect : Datum → String
  | .null => "None"
  | .bool true => "True"
  | .bool false => "False"
  | .int n => Decimal.integer n
  | .float x => Decimal.binary64 x
  | .text s => Text.inspect s
  | .bytes octets => Text.inspectOctets octets
  | .list items => "[" ++ join ", " (inspectAll items) ++ "]"
  | .tuple items => showTuple (inspectAll items)
  | .mapping entries => "\x7b" ++ join ", " (inspectEntries entries) ++ "\x7d"
  | .value v => v.inspect
  | .form f => f.inspect
  | .options dryRun => showRecord "RunOptions" [("dry_run", dryRun.inspect)]

/-- Each of several data with its structure. -/
def inspectAll : List Datum → List String
  | [] => []
  | d :: rest => d.inspect :: inspectAll rest

/-- The entries of a mapping, each key before its datum. -/
def inspectEntries : List (Datum × Datum) → List String
  | [] => []
  | (key, d) :: rest => (key.inspect ++ ": " ++ d.inspect) :: inspectEntries rest

/-- A value with its structure. -/
def Value.inspect : Value → String
  | .literal text => showRecord "Literal" [("text", Text.inspect text)]
  | .text s => showRecord "Text" [("value", Text.inspect s)]
  | .bareword name => showRecord "Bareword" [("name", Text.inspect name)]
  | .flag name => showRecord "FlagWord" [("name", Text.inspect name)]
  | .sequence items => showRecord "Sequence" [("items", showTuple (inspectValues items))]
  | .other d => showRecord "Other" [("value", d.inspect)]
  | .reference name => showRecord "VariableRef" [("name", Text.inspect name)]

/-- Each of several values with its structure. -/
def inspectValues : List Value → List String
  | [] => []
  | v :: rest => v.inspect :: inspectValues rest

/-- A curve with its structure. -/
def Curve.inspect : Curve → String
  | .mk source options =>
    showRecord "Curve" [("source", source.inspect), ("options", showTuple (inspectValues options))]

/-- Each of several curves with its structure. -/
def inspectCurves : List Curve → List String
  | [] => []
  | c :: rest => c.inspect :: inspectCurves rest

/-- Each row of a table with its structure. -/
def inspectRows : List (List Datum) → List String
  | [] => []
  | row :: rest => showTuple (inspectAll row) :: inspectRows rest

/-- A form with its structure. -/
def Form.inspect : Form → String
  | .set name values =>
    showRecord "Set" [("name", Text.inspect name), ("values", showTuple (inspectValues values))]
  | .unset name => showRecord "Unset" [("name", Text.inspect name)]
  | .plot curves => showRecord "Plot" [("curves", showTuple (inspectCurves curves))]
  | .curve c => c.inspect
  | .table name rows =>
    showRecord "Table" [("name", Text.inspect name), ("rows", showTuple (inspectRows rows))]
  | .data name lines =>
    showRecord "Data"
      [("name", Text.inspect name), ("lines", showTuple (lines.map Text.inspect))]
  | .function name parameters body =>
    showRecord "FunctionDef"
      [("name", Text.inspect name), ("params", showTuple (parameters.map Text.inspect)),
        ("body", body.inspect)]
  | .constant name body =>
    showRecord "ConstDef" [("name", Text.inspect name), ("body", body.inspect)]
  | .comment parts => showRecord "Comment" [("parts", showTuple (inspectAll parts))]
  | .raw text => showRecord "Raw" [("text", Text.inspect text)]
  | .reset => "Reset()"

end

/-- The text that stands for a datum: a text itself, and the structure of anything else. -/
def Datum.display : Datum → String
  | .text s => s
  | d => d.inspect

end Halves

end GnuplotScript
