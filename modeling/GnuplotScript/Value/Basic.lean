import GnuplotScript.Fault
import GnuplotScript.Text.Quoted

/-!
# Values

The arguments of statements: how data become values, and the text of a value in a script. A
string becomes a quoted literal, words are written as they are, and a sequence is written as
its items with commas between them, except that a sequence of one item keeps its brackets.

## Main definitions

* `Value.ofDatum` — the value that a datum stands for
* `Value.referenceNamed` — the reference of a name, which must carry the mark of data blocks
* `Value.render` — the text of a value in a script
* `Value.plain` — the text of a value without quotation
* `Datum.written` — the text of a datum, if it can be written

## Main results

* `ofDatum_value` — a value stands for itself
* `render_sequence` — the text of a sequence, by the number of its items
-/

namespace GnuplotScript

open Text (join quote)

mutual

/-- The value that a datum stands for: values for themselves, texts for strings, lists and
tuples for sequences, and anything else for itself. -/
def Value.ofDatum : Datum → Value
  | .value v => v
  | .text s => .text s
  | .list items => .sequence (valuesOfData items)
  | .tuple items => .sequence (valuesOfData items)
  | d => .other d

/-- The values that several data stand for. -/
def valuesOfData : List Datum → List Value
  | [] => []
  | d :: rest => Value.ofDatum d :: valuesOfData rest

end

@[simp] theorem valuesOfData_eq_map (items : List Datum) :
    valuesOfData items = items.map Value.ofDatum := by
  induction items with
  | nil => rfl
  | cons d rest ih => simp [valuesOfData, ih]

namespace Value

@[simp] theorem ofDatum_value (v : Value) : ofDatum (.value v) = v := rfl

@[simp] theorem ofDatum_text (s : String) : ofDatum (.text s) = .text s := rfl

@[simp] theorem ofDatum_list (items : List Datum) :
    ofDatum (.list items) = .sequence (items.map ofDatum) := by
  simp [ofDatum]

@[simp] theorem ofDatum_tuple (items : List Datum) :
    ofDatum (.tuple items) = .sequence (items.map ofDatum) := by
  simp [ofDatum]

/-- Whether a name is that of a data block: the mark and something after it. -/
def isReferenceName (name : String) : Bool :=
  match name.toList with
  | '$' :: _ :: _ => true
  | _ => false

/-- The reference of a name. -/
def referenceNamed (name : String) : Except Fault Value :=
  if isReferenceName name then .ok (.reference name) else .error (.malformedReference name)

@[simp] theorem referenceNamed_eq_ok_iff {name : String} {v : Value} :
    referenceNamed name = .ok v ↔ isReferenceName name = true ∧ v = .reference name := by
  unfold referenceNamed
  cases isReferenceName name with
  | false => simp
  | true => simpa using eq_comm

/-- A keyword without the colon that may begin it. -/
def withoutColon (name : String) : String :=
  match name.toList with
  | ':' :: rest => String.ofList rest
  | _ => name

end Value

section Halves

variable [Text.Halves]

/-- The text of a datum, if it can be written. -/
def Datum.written (d : Datum) : Except Fault String :=
  ifWritable d.isWritable d.display

mutual

/-- The text of a value in a script. -/
def Value.render : Value → String
  | .literal text => text
  | .text s => quote s
  | .bareword name => name
  | .flag name => Value.withoutColon name
  -- Without the brackets it would look like its only item.
  | .sequence [item] => "[" ++ item.render ++ "]"
  | .sequence items => join "," (renderAll items)
  | .other d => d.display
  | .reference name => name

/-- The texts of several values. -/
def renderAll : List Value → List String
  | [] => []
  | v :: rest => v.render :: renderAll rest

end

@[simp] theorem renderAll_eq_map (values : List Value) :
    renderAll values = values.map Value.render := by
  induction values with
  | nil => rfl
  | cons v rest ih => simp [renderAll, ih]

namespace Value

@[simp] theorem render_literal (text : String) : render (.literal text) = text := by
  rw [render]

@[simp] theorem render_text (s : String) : render (.text s) = quote s := by
  rw [render]

@[simp] theorem render_bareword (name : String) : render (.bareword name) = name := by
  rw [render]

@[simp] theorem render_flag (name : String) : render (.flag name) = withoutColon name := by
  rw [render]

@[simp] theorem render_other (d : Datum) : render (.other d) = d.display := by
  rw [render]

@[simp] theorem render_reference (name : String) : render (.reference name) = name := by
  rw [render]

/-- A sequence of one item keeps its brackets. -/
@[simp] theorem render_sequence_singleton (item : Value) :
    render (.sequence [item]) = "[" ++ item.render ++ "]" := by
  rw [render]

/-- Any other sequence is written as its items with commas between them. -/
theorem render_sequence {items : List Value} (h : items.length ≠ 1) :
    render (.sequence items) = join "," (items.map render) := by
  match items with
  | [] => simp [render, renderAll]
  | [item] => simp at h
  | first :: second :: rest => simp [render, renderAll]

/-- The text of a value without quotation. -/
def plain : Value → String
  | text s => s
  | v => v.render

end Value

end Halves

end GnuplotScript
