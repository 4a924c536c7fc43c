import GnuplotScript.Datum.Basic
import Mathlib.Logic.Relation

/-!
# What is reached in a datum

Lists and tuples hold their items, which may be lists and tuples again. What is reached in a
datum is the datum itself and whatever is reached in its items; the entries of mappings and
the fields of values and forms are not looked into.

## Main definitions

* `Datum.Holds` — a list or tuple and one of its items
* `Datum.Reaches` — a datum and what is reached in it through lists and tuples alone

## Main results

* `holds_wellFounded` — whatever is to be shown of a datum may be supposed of its items
* `reaches_iff` — the datum itself, or what an item reaches
-/

namespace GnuplotScript.Datum

variable {d e item : Datum} {items : List Datum}

/-- A list or tuple holds its items. -/
def Holds (d item : Datum) : Prop :=
  ∃ items, d.items? = some items ∧ item ∈ items

/-- What is reached in a datum through lists and tuples, the datum itself included. -/
def Reaches : Datum → Datum → Prop :=
  Relation.ReflTransGen Holds

theorem holds_iff_mem (h : d.items? = some items) : d.Holds item ↔ item ∈ items := by
  constructor
  · intro held
    obtain ⟨others, hothers, hmem⟩ := held
    obtain rfl := Option.some.inj (h.symm.trans hothers)
    exact hmem
  · exact fun hmem => ⟨items, h, hmem⟩

theorem not_holds (h : d.items? = none) : ¬ d.Holds item := by
  intro held
  obtain ⟨items, hitems, -⟩ := held
  cases h.symm.trans hitems

theorem Holds.sizeOf_lt (h : d.Holds item) : sizeOf item < sizeOf d := by
  obtain ⟨items, hitems, hmem⟩ := h
  have below := List.sizeOf_lt_of_mem hmem
  cases d with
  | list _ =>
    cases hitems
    rw [list.sizeOf_spec]
    omega
  | tuple _ =>
    cases hitems
    rw [tuple.sizeOf_spec]
    omega
  | _ => cases hitems

/-- Items are smaller than what holds them. -/
theorem holds_wellFounded : WellFounded fun item d : Datum => d.Holds item :=
  Subrelation.wf (fun h => Holds.sizeOf_lt h) (InvImage.wf sizeOf Nat.lt_wfRel.wf)

/-- Induction over what lists and tuples hold. -/
@[elab_as_elim]
theorem induction_on_items {motive : Datum → Prop} (d : Datum)
    (step : ∀ d, (∀ item, d.Holds item → motive item) → motive d) : motive d :=
  holds_wellFounded.induction d step

theorem Reaches.refl (d : Datum) : d.Reaches d :=
  Relation.ReflTransGen.refl

theorem Holds.reaches (h : d.Holds item) (h' : item.Reaches e) : d.Reaches e :=
  Relation.ReflTransGen.head h h'

/-- What is reached is the datum itself or reached in what it holds. -/
theorem reaches_iff : d.Reaches e ↔ d = e ∨ ∃ item, d.Holds item ∧ item.Reaches e :=
  Relation.ReflTransGen.cases_head_iff

/-- In anything but a list or tuple only the datum itself is reached. -/
theorem reaches_iff_eq (h : d.items? = none) : d.Reaches e ↔ d = e := by
  rw [reaches_iff]
  constructor
  · intro h'
    rcases h' with heq | ⟨item, hitem, -⟩
    · exact heq
    · exact absurd hitem (not_holds h)
  · exact Or.inl

/-- Something holds of all that is reached in a list or tuple if it holds of this and of all
that is reached in the items. -/
theorem forall_reaches_iff {p : Datum → Prop} (h : d.items? = some items) :
    (∀ e, d.Reaches e → p e) ↔ p d ∧ ∀ item ∈ items, ∀ e, item.Reaches e → p e := by
  constructor
  · intro hall
    refine ⟨hall d (.refl d), fun item hitem e he => ?_⟩
    have held : d.Holds item := (holds_iff_mem h).2 hitem
    exact hall e (held.reaches he)
  · intro ⟨hself, hitems⟩ e he
    rcases reaches_iff.1 he with rfl | ⟨item, hitem, hreach⟩
    · exact hself
    · have hmem : item ∈ items := (holds_iff_mem h).1 hitem
      exact hitems item hmem e hreach

end GnuplotScript.Datum
