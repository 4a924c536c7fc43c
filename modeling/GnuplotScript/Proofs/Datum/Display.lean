import GnuplotScript.Datum.Display
import GnuplotScript.Proofs.Text.Inert

/-!
# Shown structures are inert

Whatever a datum holds, its structure is shown on one line, and this line never ends like the
header of a data block: texts stand in quotation marks, and containers and records end with
brackets of theirs.

## Main results

* `Datum.inert_inspect` — the structure of a datum is inert
-/

namespace GnuplotScript

open Text (Inert)

variable {pieces : List String} {fields : List (String × String)} {name : String}

/-- Pieces between brackets, with commas between them. -/
theorem inert_enclosed {opening closing : String} (h : ∀ piece ∈ pieces, Inert piece)
    (hopening : Inert opening := by decide) (hclosing : Inert closing := by decide) :
    Inert (opening ++ Text.join ", " pieces ++ closing) := by
  have separator : Inert ", " := by decide
  exact (hopening.append (separator.join h)).append hclosing

theorem inert_showTuple (h : ∀ piece ∈ pieces, Inert piece) : Inert (showTuple pieces) := by
  unfold showTuple
  split
  · decide
  next piece =>
    have opening : Inert "(" := by decide
    have closing : Inert ",)" := by decide
    exact (opening.append (h piece List.mem_cons_self)).append closing
  · exact inert_enclosed h

/-- Fields whose names and shown values are inert. -/
def InertFields (fields : List (String × String)) : Prop :=
  ∀ field ∈ fields, Inert field.1 ∧ Inert field.2

theorem InertFields.nil : InertFields [] :=
  nofun

theorem InertFields.cons {field shown : String} (hfield : Inert field) (hshown : Inert shown)
    (h : InertFields fields) : InertFields ((field, shown) :: fields) :=
  List.forall_mem_cons.2 ⟨⟨hfield, hshown⟩, h⟩

theorem inert_showRecord (hname : Inert name) (h : InertFields fields) :
    Inert (showRecord name fields) := by
  have opening : Inert "(" := by decide
  have equals : Inert "=" := by decide
  apply inert_enclosed _ (hname.append opening)
  intro shown hmem
  obtain ⟨field, hfield, rfl⟩ := List.mem_map.1 hmem
  exact ((h field hfield).1.append equals).append (h field hfield).2

/-- A record with one field. -/
theorem inert_showRecord_single {field shown : String} (hshown : Inert shown)
    (hname : Inert name := by decide) (hfield : Inert field := by decide) :
    Inert (showRecord name [(field, shown)]) :=
  inert_showRecord hname (.cons hfield hshown .nil)

/-- A record with two fields. -/
theorem inert_showRecord_pair {field other shown otherShown : String} (hshown : Inert shown)
    (hotherShown : Inert otherShown) (hname : Inert name := by decide)
    (hfield : Inert field := by decide) (hother : Inert other := by decide) :
    Inert (showRecord name [(field, shown), (other, otherShown)]) :=
  inert_showRecord hname (.cons hfield hshown (.cons hother hotherShown .nil))

theorem inert_words : Inert "None" ∧ Inert "True" ∧ Inert "False" ∧ Inert "Reset()" := by
  decide

section Halves

variable [Text.Halves]

theorem inert_map_inspect (texts : List String) :
    ∀ piece ∈ texts.map Text.inspect, Inert piece := by
  intro piece hmem
  obtain ⟨s, -, rfl⟩ := List.mem_map.1 hmem
  exact Text.inert_inspect s

mutual

/-- The structure of a datum is inert. -/
theorem Datum.inert_inspect : ∀ d : Datum, Inert d.inspect
  | .null => inert_words.1
  | .bool true => inert_words.2.1
  | .bool false => inert_words.2.2.1
  | .int n => Text.inert_integer n
  | .float x => Text.inert_binary64 x
  | .text s => Text.inert_inspect s
  | .bytes octets => Text.inert_inspectOctets octets
  | .list items => inert_enclosed (inert_inspectAll items)
  | .tuple items => inert_showTuple (inert_inspectAll items)
  | .mapping entries => inert_enclosed (inert_inspectEntries entries)
  | .value v => v.inert_inspect
  | .form f => f.inert_inspect
  | .options dryRun => inert_showRecord_single dryRun.inert_inspect

theorem inert_inspectAll : ∀ items : List Datum, ∀ piece ∈ inspectAll items, Inert piece
  | [] => nofun
  | d :: rest => List.forall_mem_cons.2 ⟨d.inert_inspect, inert_inspectAll rest⟩

theorem inert_inspectEntries :
    ∀ entries : List (Datum × Datum), ∀ piece ∈ inspectEntries entries, Inert piece
  | [] => nofun
  | (key, d) :: rest => by
    have colon : Inert ": " := by decide
    refine List.forall_mem_cons.2 ⟨?_, inert_inspectEntries rest⟩
    exact (key.inert_inspect.append colon).append d.inert_inspect

theorem Value.inert_inspect : ∀ v : Value, Inert v.inspect
  | .literal text => inert_showRecord_single (Text.inert_inspect text)
  | .text s => inert_showRecord_single (Text.inert_inspect s)
  | .bareword name => inert_showRecord_single (Text.inert_inspect name)
  | .flag name => inert_showRecord_single (Text.inert_inspect name)
  | .sequence items =>
    inert_showRecord_single (inert_showTuple (inert_inspectValues items))
  | .other d => inert_showRecord_single d.inert_inspect
  | .reference name => inert_showRecord_single (Text.inert_inspect name)

theorem inert_inspectValues : ∀ values : List Value, ∀ piece ∈ inspectValues values, Inert piece
  | [] => nofun
  | v :: rest => List.forall_mem_cons.2 ⟨v.inert_inspect, inert_inspectValues rest⟩

theorem Curve.inert_inspect : ∀ c : Curve, Inert c.inspect
  | .mk source options =>
    inert_showRecord_pair source.inert_inspect (inert_showTuple (inert_inspectValues options))

theorem inert_inspectCurves : ∀ curves : List Curve, ∀ piece ∈ inspectCurves curves, Inert piece
  | [] => nofun
  | c :: rest => List.forall_mem_cons.2 ⟨c.inert_inspect, inert_inspectCurves rest⟩

theorem inert_inspectRows :
    ∀ rows : List (List Datum), ∀ piece ∈ inspectRows rows, Inert piece
  | [] => nofun
  | row :: rest =>
    List.forall_mem_cons.2 ⟨inert_showTuple (inert_inspectAll row), inert_inspectRows rest⟩

theorem Form.inert_inspect : ∀ f : Form, Inert f.inspect
  | .set name values =>
    inert_showRecord_pair (Text.inert_inspect name) (inert_showTuple (inert_inspectValues values))
  | .unset name => inert_showRecord_single (Text.inert_inspect name)
  | .plot curves =>
    inert_showRecord_single (inert_showTuple (inert_inspectCurves curves))
  | .curve c => c.inert_inspect
  | .table name rows =>
    inert_showRecord_pair (Text.inert_inspect name) (inert_showTuple (inert_inspectRows rows))
  | .data name lines =>
    inert_showRecord_pair (Text.inert_inspect name) (inert_showTuple (inert_map_inspect lines))
  | .function name parameters body => by
    refine inert_showRecord (by decide) (.cons (by decide) (Text.inert_inspect name) ?_)
    refine .cons (by decide) (inert_showTuple (inert_map_inspect parameters)) ?_
    exact .cons (by decide) body.inert_inspect .nil
  | .constant name body =>
    inert_showRecord_pair (Text.inert_inspect name) body.inert_inspect
  | .comment parts =>
    inert_showRecord_single (inert_showTuple (inert_inspectAll parts))
  | .raw text => inert_showRecord_single (Text.inert_inspect text)
  | .reset => inert_words.2.2.2

end

end Halves

end GnuplotScript
