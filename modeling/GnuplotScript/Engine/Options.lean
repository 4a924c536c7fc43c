import GnuplotScript.Datum.Equality
import GnuplotScript.Fault

/-!
# Run options

The options of a run are given as a mapping, or as pairs of which later ones replace earlier
ones. There is one option; any other name is reported, all such names at once and in order.

## Main definitions

* `RunOptions` — the options of a run
* `Datum.toEntries` — the entries of a mapping, or of the pairs that an iterable holds
* `RunOptions.ofDatum` — the options that a datum gives
-/

namespace GnuplotScript

/-- The options of a run: whether the script is only shown. -/
structure RunOptions where
  dryRun : Bool
  deriving DecidableEq, Repr

/-- The pairs that data hold, the first having the given index. The elements of each datum
must be two, and the first of them fit to be a key. -/
def pairsFrom (index : Nat) : List Datum → Except Fault (List (Datum × Datum))
  | [] => .ok []
  | item :: rest =>
    match item.elements? with
    | none => .error .wrongType
    | some [key, d] =>
      if key.isHashable then (pairsFrom (index + 1) rest).map ((key, d) :: ·)
      else .error .wrongType
    | some elements => .error (.notPair index elements.length)

/-- The entries of a mapping, or of the pairs that an iterable holds; a datum that counts as
false has none. -/
def Datum.toEntries (d : Datum) : Except Fault (List (Datum × Datum)) :=
  -- Null and every empty datum stand for no options at all.
  if !d.isTruthy then .ok []
  else
    match d with
    | .mapping entries => .ok entries
    | _ =>
      match d.elements? with
      | none => .error .wrongType
      | some elements => (pairsFrom 0 elements).map Datum.ofEntries

namespace RunOptions

/-- The name of the option for showing the script only. -/
def dryRunName : String := "dry_run"

/-- The options that entries give. -/
def ofEntries (entries : List (Datum × Datum)) : Except Fault RunOptions :=
  match (entries.map Prod.fst).filter fun key => key.text? != some dryRunName with
  | [] => .ok ⟨((Datum.lookup? dryRunName entries).map Datum.isTruthy).getD false⟩
  | unknown =>
    -- Only names can be put in order and be reported.
    match unknown.mapM Datum.text? with
    | some names => .error (Fault.unknownOptionsOf names)
    | none => .error .wrongType

/-- The options that a datum gives. -/
def ofDatum (d : Datum) : Except Fault RunOptions :=
  match d.toEntries with
  | .error fault => .error fault
  | .ok entries => ofEntries entries

theorem ofDatum_dryRun (d : Datum) :
    ofDatum (.mapping [(.text dryRunName, d)]) = .ok ⟨d.isTruthy⟩ := by
  simp [ofDatum, Datum.toEntries, Datum.isTruthy, ofEntries, Datum.text?, Datum.lookup?]

end RunOptions

end GnuplotScript
