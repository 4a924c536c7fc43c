import GnuplotScript.Proofs.Datum.Reach
import GnuplotScript.Proofs.Traversal

/-!
# Decoding data of documents

Decoding looks for tagged mappings through lists and tuples. The only thing that can go wrong
is a tagged reference whose text is no name of a data block, so a datum is decoded exactly if
none is reached in it. A datum in which no tag is reached is decoded as it stands.

## Main definitions

* `IsBlockName` — the names of data blocks
* `Datum.IsMalformedReference` — a tagged reference without such a name
* `Datum.WellReferenced` — data in which no malformed reference is reached
* `Datum.TagFree` — data in which nothing but plain data is reached

## Main results

* `exists_decode_eq_ok_iff` — exactly the well-referenced data are decoded
* `malformed_of_decode_eq_error` — the fault names a malformed reference
* `decode_of_tagFree` — a datum without tags stands for the value it is
-/

namespace GnuplotScript

variable {d : Datum} {items : List Datum} {name : String} {fault : Fault}

/-- The name of a data block begins with its mark and goes on. -/
def IsBlockName (name : String) : Prop :=
  name.toList.head? = some '$' ∧ 1 < name.length

theorem isReferenceName_iff : Value.isReferenceName name = true ↔ IsBlockName name := by
  rw [IsBlockName, ← String.length_toList, Value.isReferenceName]
  rcases name.toList with _ | ⟨first, _ | ⟨second, rest⟩⟩
  · simp
  · by_cases h : first = '$' <;> simp [h]
  · by_cases h : first = '$' <;> simp [h]

namespace Datum

/-- A tagged reference whose text is no name of a data block. -/
def IsMalformedReference (d : Datum) : Prop :=
  ∃ name, ¬ IsBlockName name ∧ d = .mapping [(.text "ref", .text name)]

/-- Data in which no malformed reference is reached through lists and tuples. -/
def WellReferenced (d : Datum) : Prop :=
  ∀ e, d.Reaches e → ¬ e.IsMalformedReference

/-- Data in which no tagged text is reached through lists and tuples, and neither a value nor
a form. A document holds no values and forms, so that in one this is about tags alone. -/
def TagFree (d : Datum) : Prop :=
  ∀ e, d.Reaches e → e.tagged? = none ∧ (∀ v, e ≠ .value v) ∧ ∀ f, e ≠ .form f

theorem not_isMalformedReference_of_items? (h : d.items? = some items) :
    ¬ d.IsMalformedReference := by
  intro found
  obtain ⟨name, -, rfl⟩ := found
  cases h

theorem wellReferenced_iff_items (h : d.items? = some items) :
    d.WellReferenced ↔ ∀ item ∈ items, item.WellReferenced := by
  rw [WellReferenced, forall_reaches_iff h]
  exact and_iff_right (not_isMalformedReference_of_items? h)

theorem tagFree_iff_items (h : d.items? = some items) :
    d.TagFree ↔ ∀ item ∈ items, item.TagFree := by
  rw [TagFree, forall_reaches_iff h]
  apply and_iff_right
  cases d with
  | list _ => exact ⟨rfl, nofun, nofun⟩
  | tuple _ => exact ⟨rfl, nofun, nofun⟩
  | _ => cases h

@[simp] theorem tagFree_list : (list items).TagFree ↔ ∀ item ∈ items, item.TagFree :=
  tagFree_iff_items rfl

@[simp] theorem tagFree_text (s : String) : (text s).TagFree := by
  intro e he
  rw [← (reaches_iff_eq rfl).1 he]
  exact ⟨rfl, nofun, nofun⟩

theorem wellReferenced_text (s : String) : (text s).WellReferenced := by
  intro e he
  obtain rfl := (reaches_iff_eq rfl).1 he
  intro found
  obtain ⟨name, -, h⟩ := found
  cases h

end Datum

theorem Tag.ofName?_eq_some_iff {tag : Tag} : Tag.ofName? name = some tag ↔ name = tag.name := by
  constructor
  · intro h
    have found := List.find?_some h
    exact (beq_iff_eq.1 found).symm
  · rintro rfl
    exact Tag.ofName?_name tag

/-- A datum is tagged exactly if it is a mapping of one tag to a text. -/
theorem Datum.tagged?_eq_some_iff {tag : Tag} {s : String} :
    d.tagged? = some (tag, s) ↔ d = .mapping [(.text tag.name, .text s)] := by
  constructor
  · intro h
    unfold Datum.tagged? at h
    split at h
    next key payload =>
      obtain ⟨other, hother, hpair⟩ := Option.map_eq_some_iff.1 h
      cases hpair
      rw [Tag.ofName?_eq_some_iff.1 hother]
    next => cases h
  · rintro rfl
    simp [Datum.tagged?]

namespace Value

theorem referenceNamed_of_isBlockName (h : IsBlockName name) :
    referenceNamed name = .ok (.reference name) := by
  rw [referenceNamed, if_pos (isReferenceName_iff.2 h)]

theorem referenceNamed_of_not_isBlockName (h : ¬ IsBlockName name) :
    referenceNamed name = .error (.malformedReference name) := by
  rw [referenceNamed, if_neg fun block => h (isReferenceName_iff.1 block)]

theorem decode_reference (name : String) :
    decode (.mapping [(.text "ref", .text name)]) = referenceNamed name :=
  decode_tagged .ref name

theorem decode_of_items? (h : d.items? = some items) :
    decode d = (items.mapM decode).map .sequence := by
  cases d with
  | list _ =>
    cases h
    rw [decode, decodeAll_eq_mapM]
  | tuple _ =>
    cases h
    rw [decode, decodeAll_eq_mapM]
  | _ => cases h

theorem decode_of_untagged (h : d.items? = none) (untagged : d.tagged? = none) :
    decode d = .ok (ofDatum d) := by
  cases d with
  | list _ => cases h
  | tuple _ => cases h
  | _ => rw [decode] <;> simp [untagged]

theorem ofDatum_of_items? (h : d.items? = some items) :
    ofDatum d = .sequence (items.map ofDatum) := by
  cases d with
  | list _ =>
    cases h
    exact ofDatum_list items
  | tuple _ =>
    cases h
    exact ofDatum_tuple items
  | _ => cases h

/-- Decoding fails only at a malformed reference, which the fault names. -/
theorem malformed_of_decode_eq_error (h : decode d = .error fault) :
    ∃ name, ¬ IsBlockName name ∧ fault = .malformedReference name ∧
      d.Reaches (.mapping [(.text "ref", .text name)]) := by
  induction d using Datum.induction_on_items with
  | step d ih =>
    cases hitems : d.items? with
    | some items =>
      rw [decode_of_items? hitems, map_eq_error_iff, mapM_eq_error_iff] at h
      obtain ⟨front, bad, back, _, rfl, -, hbad⟩ := h
      have holds : d.Holds bad :=
        (Datum.holds_iff_mem hitems).2 (List.mem_append_right front List.mem_cons_self)
      obtain ⟨name, hname, hfault, hreach⟩ := ih bad holds hbad
      exact ⟨name, hname, hfault, holds.reaches hreach⟩
    | none =>
      cases htagged : d.tagged? with
      | none =>
        rw [decode_of_untagged hitems htagged] at h
        cases h
      | some tagged =>
        obtain ⟨tag, s⟩ := tagged
        obtain rfl := Datum.tagged?_eq_some_iff.1 htagged
        rw [decode_tagged] at h
        -- Only the tag of references looks at its text.
        cases tag with
        | ref =>
          rw [Tag.value] at h
          by_cases hname : IsBlockName s
          · rw [referenceNamed_of_isBlockName hname] at h
            cases h
          · rw [referenceNamed_of_not_isBlockName hname] at h
            exact ⟨s, hname, (Except.error.inj h).symm, .refl _⟩
        | _ => cases h

/-- A datum is decoded exactly if no malformed reference is reached in it. -/
theorem exists_decode_eq_ok_iff : (∃ v, decode d = .ok v) ↔ d.WellReferenced := by
  constructor
  · induction d using Datum.induction_on_items with
    | step d ih =>
      intro found
      obtain ⟨v, hv⟩ := found
      cases hitems : d.items? with
      | some items =>
        rw [decode_of_items? hitems, map_eq_ok_iff] at hv
        obtain ⟨values, hvalues, -⟩ := hv
        rw [Datum.wellReferenced_iff_items hitems]
        intro item hitem
        have held : d.Holds item := (Datum.holds_iff_mem hitems).2 hitem
        have decoded : ∃ v, decode item = .ok v :=
          exists_mapM_eq_ok_iff.1 ⟨values, hvalues⟩ item hitem
        exact ih item held decoded
      | none =>
        intro e he
        obtain rfl := (Datum.reaches_iff_eq hitems).1 he
        intro malformed
        obtain ⟨name, hname, rfl⟩ := malformed
        rw [decode_reference, referenceNamed_of_not_isBlockName hname] at hv
        cases hv
  · intro sound
    cases h : decode d with
    | ok v => exact ⟨v, rfl⟩
    | error fault =>
      obtain ⟨name, hname, -, hreach⟩ := malformed_of_decode_eq_error h
      have malformed : Datum.IsMalformedReference (.mapping [(.text "ref", .text name)]) :=
        ⟨name, hname, rfl⟩
      exact absurd malformed (sound _ hreach)

/-- A datum in which no tag is reached stands for the value that it is. -/
theorem decode_of_tagFree (h : d.TagFree) : decode d = .ok (ofDatum d) := by
  induction d using Datum.induction_on_items with
  | step d ih =>
    cases hitems : d.items? with
    | some items =>
      rw [decode_of_items? hitems, ofDatum_of_items? hitems]
      have each : items.mapM decode = .ok (items.map ofDatum) := by
        rw [mapM_eq_ok_iff, List.forall₂_map_right_iff, List.forall₂_same]
        intro item hitem
        have held : d.Holds item := (Datum.holds_iff_mem hitems).2 hitem
        have free : item.TagFree := (Datum.tagFree_iff_items hitems).1 h item hitem
        exact ih item held free
      rw [each]
      rfl
    | none => exact decode_of_untagged hitems (h d (.refl d)).1

end Value

end GnuplotScript
