import GnuplotScript.Datum.Writable
import GnuplotScript.Proofs.Value.Decoding

/-!
# What is writable

Numbers with at most so many digits are those below a power of ten, and digits that were read
denote one of them if there are no more of them than that. What a datum stands for can be written if
the datum can.

## Main definitions

* `Decimal.overlong` — a number that cannot be written

## Main results

* `Decimal.isWritable_iff` — the numbers that can be written
* `Decimal.isWritable_signed_ofDigits` — digits that are few enough denote such a number
* `Value.isWritable_of_decode` — what can be written is decoded to what can be written
-/

namespace GnuplotScript

variable {d : Datum} {items : List Datum} {v : Value} {n : Int} {values : List Nat}

namespace Decimal

variable {count other m : Nat}

theorem length_natural_le_iff (h : 0 < count) :
    (natural m).length ≤ count ↔ m < Nat.pow 10 count :=
  Nat.length_toDigits_le_iff (by decide) h

theorem pow_le_pow (h : count ≤ other) : Nat.pow 10 count ≤ Nat.pow 10 other :=
  Nat.pow_le_pow_right (by decide) h

/-- A number can be written if it is below the power of ten with too many digits. -/
theorem isWritable_iff : isWritable n = true ↔ n.natAbs < Nat.pow 10 maxDigits := by
  rw [isWritable, decide_eq_true_iff, length_natural_le_iff (by decide)]

/-- A power of ten. -/
def powerOfTen (count : Nat) : Int :=
  Int.ofNat (Nat.pow 10 count)

/-- A number with more digits than are written. -/
def overlong : Int :=
  powerOfTen 5000

theorem not_isWritable_powerOfTen (h : maxDigits ≤ count) :
    isWritable (powerOfTen count) = false := by
  rw [← Bool.not_eq_true, isWritable_iff]
  exact Nat.not_lt.2 (pow_le_pow h)

theorem not_isWritable_overlong : isWritable overlong = false :=
  not_isWritable_powerOfTen (by decide)

/-- Digits before others count as often as all values that the others can have. -/
theorem foldl_digits_lt (h : ∀ value ∈ values, value < 10) (sofar : Nat) :
    values.foldl (fun sofar value => 10 * sofar + value) sofar <
      (sofar + 1) * Nat.pow 10 values.length := by
  induction values generalizing sofar with
  | nil => simp
  | cons value rest ih =>
    obtain ⟨hvalue, hrest⟩ := List.forall_mem_cons.1 h
    have power : Nat.pow 10 (rest.length + 1) = 10 * Nat.pow 10 rest.length := Nat.pow_succ'
    have bound : 10 * sofar + value + 1 ≤ (sofar + 1) * 10 := by omega
    rw [List.foldl_cons, List.length_cons, power, ← Nat.mul_assoc]
    exact Nat.lt_of_lt_of_le (ih hrest _) (Nat.mul_le_mul_right _ bound)

/-- Digits denote a number that can be written if there are not too many of them. -/
theorem isWritable_signed_ofDigits (h : ∀ value ∈ values, value < 10)
    (hlength : values.length ≤ maxDigits) (negative : Bool) :
    isWritable (signed negative (ofDigits values)) = true := by
  have size : (signed negative (ofDigits values)).natAbs = ofDigits values := by
    cases negative <;> simp [signed]
  have below : ofDigits values < Nat.pow 10 values.length := by
    simpa [ofDigits] using foldl_digits_lt h 0
  rw [isWritable_iff, size]
  exact Nat.lt_of_lt_of_le below (pow_le_pow hlength)

end Decimal

namespace Datum

theorem isWritable_iff_items (h : d.items? = some items) :
    d.isWritable = true ↔ ∀ item ∈ items, item.isWritable = true := by
  cases d with
  | list _ | tuple _ =>
    cases h
    rw [isWritable, areWritable_eq_all, List.all_eq_true]
  | _ => cases h

theorem isWritable_of_mem (h : d.items? = some items) (hd : d.isWritable = true) {item : Datum}
    (hitem : item ∈ items) : item.isWritable = true :=
  (isWritable_iff_items h).1 hd item hitem

end Datum

namespace Value

theorem isWritable_sequence {values : List Value} :
    (sequence values).isWritable = true ↔ ∀ v ∈ values, v.isWritable = true := by
  rw [isWritable, areWritableValues_eq_all, List.all_eq_true]

/-- A datum stands for a value that can be written exactly if the datum can. -/
theorem isWritable_ofDatum (d : Datum) : (ofDatum d).isWritable = d.isWritable := by
  induction d using Datum.induction_on_items with
  | step d ih =>
    cases hitems : d.items? with
    | some items =>
      rw [Bool.eq_iff_iff, ofDatum_of_items? hitems, isWritable_sequence, List.forall_mem_map,
        Datum.isWritable_iff_items hitems]
      apply forall₂_congr
      intro item hitem
      rw [ih item ((Datum.holds_iff_mem hitems).2 hitem)]
    | none =>
      cases d with
      | list _ | tuple _ => cases hitems
      | _ => rfl

theorem isWritable_of_tag {tag : Tag} {s : String} (h : tag.value s = .ok v) :
    v.isWritable = true := by
  cases tag with
  | ref =>
    obtain ⟨-, rfl⟩ := referenceNamed_eq_ok_iff.1 h
    rfl
  | _ =>
    cases h
    rfl

/-- What can be written is decoded to what can be written. -/
theorem isWritable_of_decode (h : decode d = .ok v) (hd : d.isWritable = true) :
    v.isWritable = true := by
  induction d using Datum.induction_on_items generalizing v with
  | step d ih =>
    cases hitems : d.items? with
    | some items =>
      rw [decode_of_items? hitems, map_eq_ok_iff] at h
      obtain ⟨values, hvalues, rfl⟩ := h
      rw [isWritable_sequence]
      intro w hw
      obtain ⟨item, hitem, hdecode⟩ := exists_mem_of_forall₂ (mapM_eq_ok_iff.1 hvalues) hw
      exact ih item ((Datum.holds_iff_mem hitems).2 hitem) hdecode
        (Datum.isWritable_of_mem hitems hd hitem)
    | none =>
      cases htagged : d.tagged? with
      | none =>
        rw [decode_of_untagged hitems htagged] at h
        cases h
        rw [isWritable_ofDatum, hd]
      | some tagged =>
        obtain ⟨tag, s⟩ := tagged
        obtain rfl := Datum.tagged?_eq_some_iff.1 htagged
        rw [decode_tagged] at h
        exact isWritable_of_tag h

end Value

end GnuplotScript
