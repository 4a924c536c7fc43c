import GnuplotScript.Datum.Equality
import Mathlib.Data.List.Induction
import Mathlib.Data.List.Nodup

/-!
# Mappings given name by name

A mapping may be given as names with their data, one after the other. A name that occurs again
keeps its first place and takes the new datum, so that the mapping has each name once, with the
datum that was given last.

## Main definitions

* `Datum.entriesOf` — names with their data as the entries of a mapping

## Main results

* `lookup_eq_of_perm` — where names occur once, their order does not matter
* `exists_insert` — setting one name
* `exists_ofEntries` — the mapping that names are made into
-/

namespace GnuplotScript.Datum

variable {members pairs : List (String × Datum)} {name : String} {d : Datum}

/-- Names with their data as the entries of a mapping. -/
def entriesOf (members : List (String × Datum)) : List (Datum × Datum) :=
  members.map fun m => (.text m.1, m.2)

theorem entriesOf_cons (m : String × Datum) (members : List (String × Datum)) :
    entriesOf (m :: members) = (.text m.1, m.2) :: entriesOf members := rfl

/-! ### Names that occur once -/

theorem lookup_cons (name : String) (m : String × Datum) (rest : List (String × Datum)) :
    (m :: rest).lookup name = if name = m.1 then some m.2 else rest.lookup name := by
  rw [List.lookup_cons]
  by_cases h : name = m.1
  · rw [if_pos h, beq_iff_eq.2 h]
  · rw [if_neg h, beq_eq_false_iff_ne.2 h]

theorem lookup_eq_none_iff : members.lookup name = none ↔ name ∉ members.map Prod.fst := by
  simp only [List.lookup_eq_none_iff, bne_iff_ne, List.mem_map, not_exists, not_and, ne_comm]

theorem mem_of_lookup_eq_some (h : members.lookup name = some d) : (name, d) ∈ members := by
  obtain ⟨front, back, rfl, -⟩ := List.lookup_eq_some_iff.1 h
  exact List.mem_append_right front List.mem_cons_self

theorem lookup_eq_some_iff_mem (distinct : (members.map Prod.fst).Nodup) :
    members.lookup name = some d ↔ (name, d) ∈ members := by
  constructor
  · exact mem_of_lookup_eq_some
  · intro h
    obtain ⟨front, back, rfl⟩ := List.append_of_mem h
    refine List.lookup_eq_some_iff.2 ⟨front, back, rfl, fun p hp => ?_⟩
    rw [List.map_append, List.map_cons, List.nodup_append] at distinct
    have other := distinct.2.2 p.1 (List.mem_map_of_mem hp) name List.mem_cons_self
    exact bne_iff_ne.2 (Ne.symm other)

/-- Where each name occurs once, the order of names does not matter. -/
theorem lookup_eq_of_perm {others : List (String × Datum)} (h : others.Perm members)
    (distinct : (members.map Prod.fst).Nodup) (name : String) :
    others.lookup name = members.lookup name := by
  have distinct' : (others.map Prod.fst).Nodup := (h.map Prod.fst).nodup_iff.2 distinct
  apply Option.ext
  intro d
  rw [lookup_eq_some_iff_mem distinct', lookup_eq_some_iff_mem distinct, h.mem_iff]

/-! ### Entries of mappings -/

/-- Different keys are texts of different names. -/
theorem nodup_keys_entriesOf_iff :
    ((entriesOf members).map Prod.fst).Nodup ↔ (members.map Prod.fst).Nodup := by
  have keys : (entriesOf members).map Prod.fst = (members.map Prod.fst).map .text := by
    rw [entriesOf, List.map_map, List.map_map]
    rfl
  rw [keys, List.nodup_map_iff fun _ _ => Datum.text.inj]

theorem lookup?_entriesOf (name : String) (members : List (String × Datum)) :
    lookup? name (entriesOf members) = members.lookup name := by
  induction members with
  | nil => rfl
  | cons m rest ih =>
    rw [lookup?, entriesOf_cons, List.find?_cons, lookup_cons]
    by_cases h : name = m.1
    · simp [text?, h]
    · have other : (m.1 == name) = false := beq_eq_false_iff_ne.2 (Ne.symm h)
      rw [if_neg h, ← ih]
      simp [text?, other, lookup?]

/-- A name that is set has its new datum, and the others have theirs. -/
theorem exists_insert (name : String) (d : Datum) (distinct : (members.map Prod.fst).Nodup) :
    ∃ after : List (String × Datum), insert (.text name) d (entriesOf members) = entriesOf after ∧
      (after.map Prod.fst).Nodup ∧
      ∀ other, after.lookup other = if other = name then some d else members.lookup other := by
  induction members with
  | nil => exact ⟨[(name, d)], rfl, List.nodup_singleton name, fun other => lookup_cons other _ _⟩
  | cons m rest ih =>
    rw [List.map_cons, List.nodup_cons] at distinct
    by_cases same : name = m.1
    · refine ⟨(name, d) :: rest, ?_, ?_, fun other => ?_⟩
      · simp [insert, entriesOf_cons, equals, same]
      · rw [List.map_cons, List.nodup_cons, same]
        exact distinct
      · rw [lookup_cons, lookup_cons, ← same]
        split <;> rfl
    · obtain ⟨after, hafter, distinct', hlookup⟩ := ih distinct.2
      have kept : ∀ other, (m :: after).lookup other =
          if other = name then some d else (m :: rest).lookup other := by
        intro other
        rw [lookup_cons, lookup_cons, hlookup]
        grind
      refine ⟨m :: after, ?_, ?_, kept⟩
      · simp [insert, entriesOf_cons, equals, same, hafter]
      · rw [List.map_cons, List.nodup_cons, ← lookup_eq_none_iff, hlookup, if_neg (Ne.symm same)]
        exact ⟨lookup_eq_none_iff.2 distinct.1, distinct'⟩

/-- Of several data for one name the last is left. -/
theorem exists_ofEntries (pairs : List (String × Datum)) :
    ∃ members : List (String × Datum), ofEntries (entriesOf pairs) = entriesOf members ∧
      (members.map Prod.fst).Nodup ∧ ∀ name, members.lookup name = pairs.reverse.lookup name := by
  -- The induction is from the back, where the next name is set.
  induction pairs using List.reverseRecOn with
  | nil => exact ⟨[], rfl, List.nodup_nil, fun _ => rfl⟩
  | append_singleton pairs p ih =>
    obtain ⟨members, hmembers, distinct, hlookup⟩ := ih
    obtain ⟨after, hafter, distinct', hlookup'⟩ := exists_insert p.1 p.2 distinct
    refine ⟨after, ?_, distinct', fun name => ?_⟩
    · rw [← hafter, ← hmembers, entriesOf, List.map_append, ofEntries, List.foldl_append]
      rfl
    · rw [hlookup', hlookup, List.reverse_concat, lookup_cons]

end GnuplotScript.Datum
