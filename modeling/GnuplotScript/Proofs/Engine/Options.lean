import GnuplotScript.Engine.Execution
import GnuplotScript.Proofs.Datum.Entries
import GnuplotScript.Proofs.Form.Building
import Mathlib.Data.List.Sort
import Mathlib.Data.String.Basic

/-!
# Options as they are given

Options come by name, in a mapping or in pairs of which later ones replace earlier ones. What is
made of them depends on the names that are given and on the datum that is given last for each, and
not on their order: all names that are not known are reported, each once and in the order of their
code points, and only if there are none the options are read.

## Main definitions

* `Datum.GivesOptions` — data that give options by name
* `RunOptions.Reads` — what is required of reading options

## Main results

* `reads_ofDatum` — options are read as is required
* `Reads.unique` — the requirements leave one result
* `options_read_exactly` — this, and the same for options in another order and for a whole run
-/

namespace GnuplotScript

open Datum (entriesOf entriesOf_cons)
open RunOptions (dryRunName)

variable {d : Datum} {items : List Datum} {pairs members : List (String × Datum)}
  {names : List String} {result other : Except Fault RunOptions}

/-- A datum that gives options by name: a mapping, in which each name occurs once, or a list or
tuple of pairs, in which a name may occur again. -/
inductive Datum.GivesOptions : Datum → List (String × Datum) → Prop where
  | mapping {members : List (String × Datum)} :
    (members.map Prod.fst).Nodup → GivesOptions (.mapping (entriesOf members)) members
  | pairs {d : Datum} {items : List Datum} {pairs : List (String × Datum)} :
    d.items? = some items →
      List.Forall₂ (fun item p => item.elements? = some [.text p.1, p.2]) items pairs →
        GivesOptions d pairs

namespace RunOptions

/-- What is required of reading options that are given by name. -/
structure Reads [Text.Halves] (pairs : List (String × Datum))
    (result : Except Fault RunOptions) : Prop where
  /-- They are refused exactly if some name is not that of the only option. -/
  refused_iff : (∃ fault, result = .error fault) ↔
    ∃ name, name ≠ "dry_run" ∧ name ∈ pairs.map Prod.fst
  /-- All such names are then reported, each once and in the order of their code points. -/
  reported : ∀ fault, result = .error fault →
    ∃ names : List String, fault = .unknownOptions names ∧ names.Pairwise (· < ·) ∧
      (∀ name, name ∈ names ↔ name ≠ "dry_run" ∧ name ∈ pairs.map Prod.fst) ∧
      fault.message = "Unknown run option(s): " ++ Text.join ", " names
  /-- Otherwise the script is only shown if the datum given last is true, and not if none is. -/
  read : ∀ options, result = .ok options →
    options.dryRun = ((pairs.reverse.lookup "dry_run").map Datum.isTruthy).getD false

/-- The names that are not known, as often as they are given. -/
def unknownNames (pairs : List (String × Datum)) : List String :=
  (pairs.map Prod.fst).filter (· ≠ dryRunName)

theorem mem_unknownNames_iff {name : String} :
    name ∈ unknownNames pairs ↔ name ≠ "dry_run" ∧ name ∈ pairs.map Prod.fst := by
  rw [unknownNames, List.mem_filter, decide_eq_true_iff, and_comm]
  rfl

/-- Names that occur once are put in the order of their code points. -/
theorem exists_sorted (distinct : names.Nodup) :
    ∃ sorted : List String, Fault.unknownOptionsOf names = .unknownOptions sorted ∧
      sorted.Pairwise (· < ·) ∧ ∀ name, name ∈ sorted ↔ name ∈ names := by
  have order : (names.mergeSort fun a b => decide (a ≤ b)).SortedLE := List.sortedLE_mergeSort
  have once : (names.mergeSort fun a b => decide (a ≤ b)).Nodup :=
    (List.mergeSort_perm names _).nodup_iff.2 distinct
  exact ⟨_, rfl, (order.sortedLT_of_nodup once).pairwise, fun _ => List.mem_mergeSort⟩

theorem ofEntries_entriesOf (members : List (String × Datum)) :
    ofEntries (entriesOf members) =
      if unknownNames members = [] then
        .ok ⟨((members.lookup dryRunName).map Datum.isTruthy).getD false⟩
      else .error (Fault.unknownOptionsOf (unknownNames members)) := by
  have unknown : (((entriesOf members).map Prod.fst).filter fun key =>
      key.text? != some dryRunName) = (unknownNames members).map .text := by
    induction members with
    | nil => rfl
    | cons m rest ih =>
      by_cases known : m.1 = dryRunName <;>
        simpa [entriesOf_cons, unknownNames, Datum.text?, known] using ih
  have texts : ((unknownNames members).map Datum.text).mapM Datum.text? =
      some (unknownNames members) :=
    mapM_text?_eq_some_iff.2 rfl
  rw [ofEntries, unknown, Datum.lookup?_entriesOf]
  by_cases none : unknownNames members = []
  · rw [if_pos none, none]
    rfl
  · obtain ⟨name, rest, some⟩ := List.exists_cons_of_ne_nil none
    rw [if_neg none, some, List.map_cons]
    rw [some, List.map_cons] at texts
    simp only [texts]

section Halves

variable [Text.Halves]

/-- A mapping is read as is required. -/
theorem reads_ofEntries (distinct : (members.map Prod.fst).Nodup) :
    Reads members (ofEntries (entriesOf members)) := by
  have last : members.reverse.lookup dryRunName = members.lookup dryRunName :=
    Datum.lookup_eq_of_perm (List.reverse_perm members) distinct dryRunName
  rw [ofEntries_entriesOf, ← last]
  by_cases none : unknownNames members = []
  · rw [if_pos none]
    refine ⟨?_, nofun, ?_⟩
    · constructor
      · rintro ⟨fault, h⟩
        cases h
      · rintro ⟨name, hname⟩
        rw [← mem_unknownNames_iff, none] at hname
        cases hname
    · rintro options ⟨⟩
      rfl
  · obtain ⟨sorted, hfault, hsorted, hmem⟩ :=
      exists_sorted (distinct.filter (fun name => decide (name ≠ dryRunName)))
    rw [if_neg none]
    refine ⟨?_, ?_, nofun⟩
    · obtain ⟨name, hname⟩ := List.exists_mem_of_ne_nil _ none
      exact iff_of_true ⟨_, rfl⟩ ⟨name, mem_unknownNames_iff.1 hname⟩
    · rintro fault ⟨⟩
      refine ⟨sorted, hfault, hsorted, fun name => (hmem name).trans mem_unknownNames_iff, ?_⟩
      rw [unknownNames, hfault]
      rfl

/-- The requirements look at the datum given last for each name only. -/
theorem Reads.of_lookup_eq (h : Reads members result)
    (same : ∀ name, members.reverse.lookup name = pairs.reverse.lookup name) :
    Reads pairs result := by
  have names : ∀ name, name ∈ members.map Prod.fst ↔ name ∈ pairs.map Prod.fst := by
    intro name
    have absent : name ∉ members.reverse.map Prod.fst ↔ name ∉ pairs.reverse.map Prod.fst := by
      rw [← Datum.lookup_eq_none_iff, ← Datum.lookup_eq_none_iff, same]
    rw [List.map_reverse, List.map_reverse, List.mem_reverse, List.mem_reverse] at absent
    exact not_iff_not.1 absent
  refine ⟨?_, ?_, ?_⟩
  · simp only [← names]
    exact h.refused_iff
  · simp only [← names]
    exact h.reported
  · rw [← same]
    exact h.read

/-- The requirements leave one result. -/
theorem Reads.unique (h : Reads pairs result) (h' : Reads pairs other) : result = other := by
  have refused : (∃ fault, result = .error fault) ↔ ∃ fault, other = .error fault :=
    h.refused_iff.trans h'.refused_iff.symm
  cases result with
  | error fault =>
    obtain ⟨fault', rfl⟩ := refused.1 ⟨fault, rfl⟩
    obtain ⟨names, rfl, order, hnames, -⟩ := h.reported fault rfl
    obtain ⟨names', rfl, order', hnames', -⟩ := h'.reported fault' rfl
    have same : names = names' :=
      order.eq_of_mem_iff order' fun name => (hnames name).trans (hnames' name).symm
    rw [same]
  | ok options =>
    cases other with
    | error fault => exact absurd (refused.2 ⟨fault, rfl⟩) nofun
    | ok options' =>
      have same : options = options' :=
        congrArg RunOptions.mk ((h.read options rfl).trans (h'.read options' rfl).symm)
      rw [same]

end Halves

end RunOptions

namespace Datum

theorem pairsFrom_eq_ok
    (h : List.Forall₂ (fun item p => item.elements? = some [.text p.1, p.2]) items pairs)
    (index : Nat) : pairsFrom index items = .ok (entriesOf pairs) := by
  induction h generalizing index with
  | nil => rfl
  | cons hitem _ ih =>
    rw [pairsFrom]
    simp only [hitem, isHashable, if_true, ih (index + 1)]
    rfl

/-- What options are given by is a mapping with the datum given last for each name. -/
theorem GivesOptions.exists_toEntries (h : d.GivesOptions pairs) :
    ∃ members, d.toEntries = .ok (entriesOf members) ∧ (members.map Prod.fst).Nodup ∧
      ∀ name, members.reverse.lookup name = pairs.reverse.lookup name := by
  cases h with
  | mapping distinct =>
    refine ⟨pairs, ?_, distinct, fun _ => rfl⟩
    cases pairs <;> rfl
  | @pairs _ items _ hitems hpairs =>
    obtain ⟨members, hmembers, distinct, hlookup⟩ := exists_ofEntries pairs
    refine ⟨members, ?_, distinct, fun name => ?_⟩
    · have read : d.toEntries = (pairsFrom 0 items).map ofEntries := by
        cases d with
        | list given | tuple given =>
          cases hitems
          cases items <;> rfl
        | _ => cases hitems
      rw [read, pairsFrom_eq_ok hpairs 0, ← hmembers]
      rfl
    · rw [lookup_eq_of_perm (List.reverse_perm members) distinct, hlookup]

theorem GivesOptions.given_eq (h : d.GivesOptions pairs) :
    RunOptions.given d = RunOptions.ofDatum d := by
  cases h with
  | mapping _ => rfl
  | pairs hitems _ =>
    cases d with
    | options _ => cases hitems
    | _ => rfl

end Datum

section Halves

variable [Text.Halves]

/-- Options are read as is required. -/
theorem RunOptions.reads_ofDatum (h : d.GivesOptions pairs) : Reads pairs (ofDatum d) := by
  obtain ⟨members, hentries, distinct, same⟩ := h.exists_toEntries
  rw [ofDatum, hentries]
  exact (reads_ofEntries distinct).of_lookup_eq same

/-- Options are read as is required, and in another order, where each name is given once, they
are read alike. A run that is asked for with options that are refused ends in the same fault,
whatever the forms are, and calls nothing. -/
theorem options_read_exactly (h : d.GivesOptions pairs) :
    RunOptions.Reads pairs (RunOptions.ofDatum d) ∧
      (∀ e others, e.GivesOptions others → others.Perm pairs → (pairs.map Prod.fst).Nodup →
        RunOptions.ofDatum e = RunOptions.ofDatum d) ∧
      ∀ (place : Workplace) (forms : Datum) (fault : Fault), RunOptions.ofDatum d = .error fault →
        place.plot d forms = .fault fault := by
  have reads := RunOptions.reads_ofDatum h
  refine ⟨reads, fun e others he perm distinct => ?_, fun place forms fault hfault => ?_⟩
  · have reordered : others.reverse.Perm pairs.reverse :=
      (List.reverse_perm others).trans (perm.trans (List.reverse_perm pairs).symm)
    have distinct' : (pairs.reverse.map Prod.fst).Nodup := by
      rwa [List.map_reverse, List.nodup_reverse]
    have same := Datum.lookup_eq_of_perm reordered distinct'
    exact ((RunOptions.reads_ofDatum he).of_lookup_eq same).unique reads
  · rw [Workplace.plot, Workplace.execute_of_badOptions (h.given_eq.trans hfault)]
    rfl

end Halves

/-- Names other than that of the only option, one of them given twice. -/
def repeatedNames : List (String × Datum) :=
  [("b", .int 1), ("dry_run", .bool true), ("b", .null), ("B", .int 0)]

/-- These names in pairs. -/
def repeatedPairs : Datum :=
  .list (repeatedNames.map fun p => .tuple [.text p.1, p.2])

theorem options_read_repeatedNames :
    ∃ fault, RunOptions.ofDatum repeatedPairs = .error fault ∧
      fault.message = "Unknown run option(s): B, b" ∧
      ∀ (place : Workplace) (forms : Datum), place.plot repeatedPairs forms = .fault fault := by
  have given : repeatedPairs.GivesOptions repeatedNames :=
    .pairs rfl (List.forall₂_map_left_iff.2 (List.forall₂_same.2 fun _ _ => rfl))
  obtain ⟨reads, -, ends⟩ := options_read_exactly given
  obtain ⟨fault, hfault⟩ := reads.refused_iff.2 ⟨"b", by decide, List.mem_cons_self⟩
  obtain ⟨names, -, order, hnames, message⟩ := reads.reported fault hfault
  have sorted : names = ["B", "b"] :=
    order.eq_of_mem_iff (by decide) fun name => by
      rw [hnames]
      grind [repeatedNames]
  rw [sorted] at message
  exact ⟨fault, hfault, message, fun place forms => ends place forms fault hfault⟩

end GnuplotScript
