import GnuplotScript.Datum.Basic
import GnuplotScript.Decimal.Layout

/-!
# Data that can be written

An integer with too many digits cannot be written, and then nothing can be that holds it: neither
its structure nor its text, nor the fragment of a form. All else that data hold can be written.

## Main definitions

* `Datum.isWritable`, `Value.isWritable`, `Form.isWritable` — whether something can be written
-/

namespace GnuplotScript

mutual

/-- Whether a datum can be written. -/
def Datum.isWritable : Datum → Bool
  | .null => true
  | .bool _ => true
  | .int n => Decimal.isWritable n
  | .float _ => true
  | .text _ => true
  | .bytes _ => true
  | .list items => areWritable items
  | .tuple items => areWritable items
  | .mapping entries => areWritableEntries entries
  | .value v => v.isWritable
  | .form f => f.isWritable
  | .options dryRun => dryRun.isWritable

/-- Whether several data can be written. -/
def areWritable : List Datum → Bool
  | [] => true
  | d :: rest => d.isWritable && areWritable rest

/-- Whether the entries of a mapping can be written, keys and all. -/
def areWritableEntries : List (Datum × Datum) → Bool
  | [] => true
  | (key, d) :: rest => key.isWritable && d.isWritable && areWritableEntries rest

/-- Whether a value can be written. -/
def Value.isWritable : Value → Bool
  | .literal _ => true
  | .text _ => true
  | .bareword _ => true
  | .flag _ => true
  | .sequence items => areWritableValues items
  | .other d => d.isWritable
  | .reference _ => true

/-- Whether several values can be written. -/
def areWritableValues : List Value → Bool
  | [] => true
  | v :: rest => v.isWritable && areWritableValues rest

/-- Whether a curve can be written. -/
def Curve.isWritable : Curve → Bool
  | .mk source options => source.isWritable && areWritableValues options

/-- Whether several curves can be written. -/
def areWritableCurves : List Curve → Bool
  | [] => true
  | c :: rest => c.isWritable && areWritableCurves rest

/-- Whether the rows of a table can be written. -/
def areWritableRows : List (List Datum) → Bool
  | [] => true
  | row :: rest => areWritable row && areWritableRows rest

/-- Whether a form can be written. -/
def Form.isWritable : Form → Bool
  | .set _ values => areWritableValues values
  | .unset _ => true
  | .plot curves => areWritableCurves curves
  | .curve c => c.isWritable
  | .table _ rows => areWritableRows rows
  | .data _ _ => true
  | .function _ _ body => body.isWritable
  | .constant _ body => body.isWritable
  | .comment parts => areWritable parts
  | .raw _ => true
  | .reset => true

end

@[simp] theorem areWritable_eq_all (items : List Datum) :
    areWritable items = items.all Datum.isWritable := by
  induction items with
  | nil => rfl
  | cons d rest ih => simp [areWritable, ih]

@[simp] theorem areWritableEntries_eq_all (entries : List (Datum × Datum)) :
    areWritableEntries entries =
      entries.all fun entry => entry.1.isWritable && entry.2.isWritable := by
  induction entries with
  | nil => rfl
  | cons entry rest ih => simp [areWritableEntries, ih]

@[simp] theorem areWritableValues_eq_all (values : List Value) :
    areWritableValues values = values.all Value.isWritable := by
  induction values with
  | nil => rfl
  | cons v rest ih => simp [areWritableValues, ih]

@[simp] theorem areWritableCurves_eq_all (curves : List Curve) :
    areWritableCurves curves = curves.all Curve.isWritable := by
  induction curves with
  | nil => rfl
  | cons c rest ih => simp [areWritableCurves, ih]

@[simp] theorem areWritableRows_eq_all (rows : List (List Datum)) :
    areWritableRows rows = rows.all fun row => row.all Datum.isWritable := by
  induction rows with
  | nil => rfl
  | cons row rest ih => simp [areWritableRows, ih]

end GnuplotScript
