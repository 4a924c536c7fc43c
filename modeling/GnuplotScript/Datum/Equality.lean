import GnuplotScript.Datum.Basic

/-!
# Equality of data

Numbers of different types are equal when they are the same number, and the truth values
count as one and zero. Lists and tuples are never equal to each other, mappings are equal
whatever the order of their entries, and values and forms are equal when they are of one
kind with equal fields. Since a not-a-number differs even from itself, this is not
reflexive.

## Main definitions

* `Datum.equals` — equality of data
* `Datum.isHashable` — whether a datum can be a key of a mapping
* `Datum.insert`, `Datum.ofEntries` — mappings in which each key occurs once
-/

namespace GnuplotScript

/-- A datum that is a number: an integer or a floating-point number. -/
def Datum.number? : Datum → Option (Int ⊕ Binary64)
  | bool b => some (.inl (if b then 1 else 0))
  | int n => some (.inl n)
  | float x => some (.inr x)
  | _ => none

/-- Equality of numbers, whatever their types. -/
def numbersEqual : Int ⊕ Binary64 → Int ⊕ Binary64 → Bool
  | .inl m, .inl n => m == n
  | .inl m, .inr y => y.equalsInt m
  | .inr x, .inl n => x.equalsInt n
  | .inr x, .inr y => x.equals y

mutual

/-- Equality of data. -/
def Datum.equals : Datum → Datum → Bool
  | .null, .null => true
  | .text s, .text t => s == t
  | .bytes a, .bytes b => a == b
  | .list a, .list b => allEqual a b
  | .tuple a, .tuple b => allEqual a b
  -- Keys occur once, so that among equally many entries one direction is enough.
  | .mapping a, .mapping b => a.length == b.length && entriesAmong a b
  | .value v, .value w => v.equals w
  | .form f, .form g => f.equals g
  | .options a, .options b => a.equals b
  -- Truth values, integers and floating-point numbers are compared with each other.
  | a, b =>
    match a.number?, b.number? with
    | some m, some n => numbersEqual m n
    | _, _ => false

/-- Equality of lists of data, item by item. -/
def allEqual : List Datum → List Datum → Bool
  | [], [] => true
  | a :: as, b :: bs => a.equals b && allEqual as bs
  | _, _ => false

/-- Whether each entry has an equal one in the other mapping. -/
def entriesAmong : List (Datum × Datum) → List (Datum × Datum) → Bool
  | [], _ => true
  | (key, d) :: rest, others =>
    (others.any fun other => key.equals other.1 && d.equals other.2) && entriesAmong rest others

/-- Equality of values. -/
def Value.equals : Value → Value → Bool
  | .literal s, .literal t => s == t
  | .text s, .text t => s == t
  | .bareword s, .bareword t => s == t
  | .flag s, .flag t => s == t
  | .sequence a, .sequence b => allValuesEqual a b
  | .other a, .other b => a.equals b
  | .reference s, .reference t => s == t
  | _, _ => false

/-- Equality of lists of values, item by item. -/
def allValuesEqual : List Value → List Value → Bool
  | [], [] => true
  | v :: vs, w :: ws => v.equals w && allValuesEqual vs ws
  | _, _ => false

/-- Equality of curves. -/
def Curve.equals : Curve → Curve → Bool
  | .mk s os, .mk t ps => s.equals t && allValuesEqual os ps

/-- Equality of lists of curves, item by item. -/
def allCurvesEqual : List Curve → List Curve → Bool
  | [], [] => true
  | c :: cs, d :: ds => c.equals d && allCurvesEqual cs ds
  | _, _ => false

/-- Equality of tables, row by row. -/
def allRowsEqual : List (List Datum) → List (List Datum) → Bool
  | [], [] => true
  | a :: as, b :: bs => allEqual a b && allRowsEqual as bs
  | _, _ => false

/-- Equality of forms. -/
def Form.equals : Form → Form → Bool
  | .set m vs, .set n ws => m == n && allValuesEqual vs ws
  | .unset m, .unset n => m == n
  | .plot cs, .plot ds => allCurvesEqual cs ds
  | .curve c, .curve d => c.equals d
  | .table m a, .table n b => m == n && allRowsEqual a b
  | .data m a, .data n b => m == n && a == b
  | .function m ps a, .function n qs b => m == n && ps == qs && a.equals b
  | .constant m a, .constant n b => m == n && a.equals b
  | .comment a, .comment b => allEqual a b
  | .raw s, .raw t => s == t
  | .reset, .reset => true
  | _, _ => false

end

mutual

/-- Whether a datum can be a key: neither it nor anything it holds is a list or a mapping. -/
def Datum.isHashable : Datum → Bool
  | .list _ => false
  | .mapping _ => false
  | .tuple items => allHashable items
  | .value v => v.isHashable
  | .form f => f.isHashable
  | .options dryRun => dryRun.isHashable
  | _ => true

/-- Whether all of several data can be keys. -/
def allHashable : List Datum → Bool
  | [] => true
  | d :: rest => d.isHashable && allHashable rest

/-- Whether a value can be a key. -/
def Value.isHashable : Value → Bool
  | .sequence items => allValuesHashable items
  | .other d => d.isHashable
  | _ => true

/-- Whether all of several values can be keys. -/
def allValuesHashable : List Value → Bool
  | [] => true
  | v :: rest => v.isHashable && allValuesHashable rest

/-- Whether a curve can be a key. -/
def Curve.isHashable : Curve → Bool
  | .mk source options => source.isHashable && allValuesHashable options

/-- Whether all of several curves can be keys. -/
def allCurvesHashable : List Curve → Bool
  | [] => true
  | c :: rest => c.isHashable && allCurvesHashable rest

/-- Whether all cells of a table can be keys. -/
def allRowsHashable : List (List Datum) → Bool
  | [] => true
  | row :: rest => allHashable row && allRowsHashable rest

/-- Whether a form can be a key. -/
def Form.isHashable : Form → Bool
  | .set _ values => allValuesHashable values
  | .plot curves => allCurvesHashable curves
  | .curve c => c.isHashable
  | .table _ rows => allRowsHashable rows
  | .function _ _ body => body.isHashable
  | .constant _ body => body.isHashable
  | .comment parts => allHashable parts
  | _ => true

end

namespace Datum

/-- The entries with a key set: an equal key keeps its place and takes the new datum. -/
def insert (key d : Datum) : List (Datum × Datum) → List (Datum × Datum)
  | [] => [(key, d)]
  | (other, old) :: rest =>
    -- The key that was there first stays, although an equal one may look different.
    if key.equals other then (other, d) :: rest else (other, old) :: insert key d rest

/-- The entries that remain when later ones replace earlier ones with an equal key. -/
def ofEntries (entries : List (Datum × Datum)) : List (Datum × Datum) :=
  entries.foldl (fun sofar (key, d) => insert key d sofar) []

/-- The datum at a text key. -/
def lookup? (name : String) (entries : List (Datum × Datum)) : Option Datum :=
  (entries.find? fun (key, _) => key.text? == some name).map Prod.snd

end Datum

end GnuplotScript
