import GnuplotScript.Decimal.Binary64

/-!
# Data, values and forms

A script is described by data of an embedding program or of a JSON document. Some of these
data are values, the arguments of statements, and some are forms, the statements themselves;
since containers may hold either, and either may hold any datum, the three are defined
together.

## Main definitions

* `Datum` — whatever a script can be described with
* `Value` — an argument of a statement
* `Curve` — a source to be plotted with its options
* `Form` — a statement
* `Datum.several` — the arguments that one datum stands for
* `Datum.elements?` — the elements of an iterable datum
* `Datum.isTruthy` — whether a datum counts as true
* `Datum.typeName` — what messages call the type of a datum
-/

namespace GnuplotScript

mutual

/-- Whatever a script can be described with. Mappings keep their entries in order. -/
inductive Datum where
  | null
  | bool (b : Bool)
  | int (n : Int)
  | float (x : Binary64)
  | text (s : String)
  | bytes (octets : List UInt8)
  | list (items : List Datum)
  | tuple (items : List Datum)
  | mapping (entries : List (Datum × Datum))
  | value (v : Value)
  | form (f : Form)
  | options (dryRun : Datum)

/-- An argument of a statement: text that is written as it stands (`literal`), a string
(`text`), a word (`bareword`), a keyword that may begin with a colon (`flag`), several values,
the name of a data block (`reference`), or any other datum. -/
inductive Value where
  | literal (text : String)
  | text (s : String)
  | bareword (name : String)
  | flag (name : String)
  | sequence (items : List Value)
  | other (d : Datum)
  | reference (name : String)

/-- A source to be plotted, with the options that follow it. -/
inductive Curve where
  | mk (source : Value) (options : List Value)

/-- A statement of a script. -/
inductive Form where
  | set (name : String) (values : List Value)
  | unset (name : String)
  | plot (curves : List Curve)
  | curve (c : Curve)
  | table (name : String) (rows : List (List Datum))
  | data (name : String) (lines : List String)
  | function (name : String) (parameters : List String) (body : Datum)
  | constant (name : String) (body : Datum)
  | comment (parts : List Datum)
  | raw (text : String)
  | reset

end

namespace Curve

/-- What the curve draws. -/
def source : Curve → Value
  | mk source _ => source

/-- The options after the source. -/
def options : Curve → List Value
  | mk _ options => options

end Curve

namespace Datum

/-- A list or a tuple holds several arguments; anything else is a single one. -/
def several : Datum → List Datum
  | list items => items
  | tuple items => items
  | d => [d]

/-- The elements of an iterable datum: the characters of a text, the octets of a byte string,
the keys of a mapping. -/
def elements? : Datum → Option (List Datum)
  | text s => some (s.toList.map fun c => text (String.singleton c))
  | bytes octets => some (octets.map fun octet => int octet.toNat)
  | list items => some items
  | tuple items => some items
  | mapping entries => some (entries.map Prod.fst)
  | _ => none

/-- The items of a list or tuple. -/
def items? : Datum → Option (List Datum)
  | list items => some items
  | tuple items => some items
  | _ => none

/-- The text of a text. -/
def text? : Datum → Option String
  | text s => some s
  | _ => none

/-- Null, zero and whatever is empty count as false, all else as true. -/
def isTruthy : Datum → Bool
  | null => false
  | bool b => b
  | int n => n != 0
  | float x => !x.isZero
  | text s => s != ""
  | bytes octets => !octets.isEmpty
  | list items => !items.isEmpty
  | tuple items => !items.isEmpty
  | mapping entries => !entries.isEmpty
  | value _ => true
  | form _ => true
  | options _ => true

@[simp] theorem items?_list (items : List Datum) : (list items).items? = some items := rfl

@[simp] theorem items?_tuple (items : List Datum) : (tuple items).items? = some items := rfl

@[simp] theorem several_list (items : List Datum) : (list items).several = items := rfl

@[simp] theorem several_tuple (items : List Datum) : (tuple items).several = items := rfl

theorem several_of_items? {d : Datum} {items : List Datum} (h : d.items? = some items) :
    d.several = items := by
  cases d <;> simp_all [items?, several]

end Datum

/-- What messages call a value of each kind. -/
def Value.typeName : Value → String
  | .literal _ => "Literal"
  | .text _ => "Text"
  | .bareword _ => "Bareword"
  | .flag _ => "FlagWord"
  | .sequence _ => "Sequence"
  | .other _ => "Other"
  | .reference _ => "VariableRef"

/-- What messages call a form of each kind. -/
def Form.typeName : Form → String
  | .set _ _ => "Set"
  | .unset _ => "Unset"
  | .plot _ => "Plot"
  | .curve _ => "Curve"
  | .table _ _ => "Table"
  | .data _ _ => "Data"
  | .function _ _ _ => "FunctionDef"
  | .constant _ _ => "ConstDef"
  | .comment _ => "Comment"
  | .raw _ => "Raw"
  | .reset => "Reset"

/-- What messages call the type of a datum. -/
def Datum.typeName : Datum → String
  | null => "NoneType"
  | bool _ => "bool"
  | int _ => "int"
  | float _ => "float"
  | text _ => "str"
  | bytes _ => "bytes"
  | list _ => "list"
  | tuple _ => "tuple"
  | mapping _ => "dict"
  | value v => v.typeName
  | form f => f.typeName
  | options _ => "RunOptions"

end GnuplotScript
