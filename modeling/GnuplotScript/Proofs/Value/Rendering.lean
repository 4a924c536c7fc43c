import GnuplotScript.Proofs.Datum.Display
import GnuplotScript.Proofs.Value.Decoding

/-!
# Rendered values are inert

What a datum without tags is written as in a script never breaks a line and never looks like
the header of a data block: a text becomes a quoted literal, whatever it holds, and the items
of lists stand between commas.

## Main results

* `Value.inert_render_ofDatum` — the text of a datum without tags is inert
* `Value.inert_of_decode` — so is what such a datum is decoded to
-/

namespace GnuplotScript.Value

open Text (Inert)

variable [Text.Halves] {d : Datum} {values : List Value} {v : Value}

theorem inert_render_sequence (h : ∀ v ∈ values, Inert v.render) :
    Inert (render (.sequence values)) := by
  match values with
  | [item] =>
    have opening : Inert "[" := by decide
    have closing : Inert "]" := by decide
    rw [render_sequence_singleton]
    exact (opening.append (h item List.mem_cons_self)).append closing
  | [] =>
    rw [render_sequence (by decide)]
    exact Text.inert_empty
  | first :: second :: rest =>
    have separator : Inert "," := by decide
    rw [render_sequence (by simp)]
    apply separator.join
    intro text htext
    obtain ⟨v, hv, rfl⟩ := List.mem_map.1 htext
    exact h v hv

/-- The text of a datum without tags is inert. -/
theorem inert_render_ofDatum (h : d.TagFree) : Inert (ofDatum d).render := by
  induction d using Datum.induction_on_items with
  | step d ih =>
    cases hitems : d.items? with
    | some items =>
      rw [ofDatum_of_items? hitems]
      apply inert_render_sequence
      intro v hv
      obtain ⟨item, hitem, rfl⟩ := List.mem_map.1 hv
      have held : d.Holds item := (Datum.holds_iff_mem hitems).2 hitem
      have free : item.TagFree := (Datum.tagFree_iff_items hitems).1 h item hitem
      exact ih item held free
    | none =>
      cases d with
      | list _ => cases hitems
      | tuple _ => cases hitems
      | value v => exact absurd rfl ((h _ (.refl _)).2.1 v)
      | text s =>
        rw [ofDatum_text, render_text]
        exact Text.inert_quote s
      | _ =>
        change Inert (render (.other _))
        rw [render_other]
        exact Datum.inert_inspect _

theorem inert_of_decode (h : d.TagFree) (hv : decode d = .ok v) : Inert v.render := by
  have same : ofDatum d = v := Except.ok.inj ((decode_of_tagFree h).symm.trans hv)
  rw [← same]
  exact inert_render_ofDatum h

end GnuplotScript.Value
