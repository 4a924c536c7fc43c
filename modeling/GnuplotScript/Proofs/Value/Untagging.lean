import GnuplotScript.Proofs.Value.Decoding

/-!
# Untagged data

A program that embeds the library need not write tagged mappings, since it has the values that
they stand for. What a document says with tags it says with values in their places, and where
a document can only write a list it may as well write a tuple. Either way the same values
arise, once from decoding and once from what data stand for.

## Main definitions

* `Datum.Tags` — a tagged text and the value that it stands for
* `Datum.Untags` — a datum and what is left of it without tags

## Main results

* `exists_untags` — every datum can be untagged
* `ofDatum_of_untags`, `map_ofDatum_of_untags` — data are decoded to what they stand for
  without their tags
-/

namespace GnuplotScript

variable {d e item : Datum} {items others : List Datum} {v : Value} {values : List Value}
  {s : String}

namespace Datum

/-- A mapping of one tag to a text, and the value that it stands for. A reference needs the name
of a data block. -/
inductive Tags : Datum → Value → Prop where
  | raw (s : String) : Tags (.mapping [(.text "raw", .text s)]) (.literal s)
  | bare (s : String) : Tags (.mapping [(.text "bare", .text s)]) (.bareword s)
  | flag (s : String) : Tags (.mapping [(.text "flag", .text s)]) (.flag s)
  | ref (s : String) : IsBlockName s → Tags (.mapping [(.text "ref", .text s)]) (.reference s)

/-- A datum without its tags: each tagged text that is reached through lists and tuples is
replaced by its value, each list or tuple by a list or a tuple, and nothing else is touched. -/
inductive Untags : Datum → Datum → Prop where
  | tagged {d : Datum} {v : Value} : d.Tags v → Untags d (.value v)
  | held {d e : Datum} {items others : List Datum} :
    d.items? = some items → e.items? = some others → List.Forall₂ Untags items others →
      Untags d e
  | kept {d : Datum} : d.items? = none → (∀ v, ¬ d.Tags v) → Untags d d

/-- Nothing is held by a tagged text. -/
theorem Tags.items?_eq_none (h : d.Tags v) : d.items? = none := by
  cases h <;> rfl

/-- Only a tagged text of a malformed reference stands for no value. -/
theorem tags_of_tagged? {tag : Tag} (h : d.tagged? = some (tag, s)) (hv : tag.value s = .ok v) :
    d.Tags v := by
  obtain rfl := tagged?_eq_some_iff.1 h
  cases tag with
  | raw =>
    cases hv
    exact .raw s
  | bare =>
    cases hv
    exact .bare s
  | flag =>
    cases hv
    exact .flag s
  | ref =>
    obtain ⟨hname, rfl⟩ := Value.referenceNamed_eq_ok_iff.1 hv
    exact .ref s (isReferenceName_iff.1 hname)

/-- Without its tags a list or tuple still holds as many items, each without its tags. -/
theorem Untags.exists_items (h : d.Untags e) (hitems : d.items? = some items) :
    ∃ others, e.items? = some others ∧ List.Forall₂ Untags items others := by
  cases h with
  | tagged htags => cases htags.items?_eq_none.symm.trans hitems
  | held hd he hall =>
    obtain rfl := Option.some.inj (hd.symm.trans hitems)
    exact ⟨_, he, hall⟩
  | kept hnone _ => cases hnone.symm.trans hitems

/-- Texts are not tagged. -/
theorem untags_text_iff : (text s).Untags e ↔ e = text s := by
  constructor
  · intro h
    cases h with
    | tagged htags => cases htags
    | held hd _ _ => cases hd
    | kept _ _ => rfl
  · rintro rfl
    exact .kept rfl nofun

/-- Untagging makes nothing but values, lists and tuples. -/
theorem Untags.eq_of_ne_value (h : d.Untags e) (hitems : e.items? = none)
    (hvalue : ∀ v, e ≠ .value v) : d = e := by
  cases h with
  | @tagged _ v _ => exact absurd rfl (hvalue v)
  | held _ he _ => cases he.symm.trans hitems
  | kept _ _ => rfl

/-- Every datum can be untagged. -/
theorem exists_untags (d : Datum) : ∃ e, d.Untags e := by
  induction d using induction_on_items with
  | step d ih =>
    cases hitems : d.items? with
    | some items =>
      have each : ∀ item ∈ items, ∃ e, item.Untags e :=
        fun item hitem => ih item ((holds_iff_mem hitems).2 hitem)
      obtain ⟨others, hothers⟩ := exists_forall₂ each
      exact ⟨.list others, .held hitems rfl hothers⟩
    | none =>
      by_cases htags : ∃ v, d.Tags v
      · obtain ⟨v, hv⟩ := htags
        exact ⟨.value v, .tagged hv⟩
      · exact ⟨d, .kept hitems (not_exists.1 htags)⟩

end Datum

namespace Value

/-- A tagged text is decoded to the value that it stands for. -/
theorem decode_of_tags (h : d.Tags v) : decode d = .ok v := by
  cases h with
  | raw s => exact decode_tagged .raw s
  | bare s => exact decode_tagged .bare s
  | flag s => exact decode_tagged .flag s
  | ref s hname => rw [decode_reference, referenceNamed_of_isBlockName hname]

/-- What is no tagged text is decoded, if at all, to what it stands for. -/
theorem ofDatum_of_not_tags (hitems : d.items? = none) (htags : ∀ v, ¬ d.Tags v)
    (h : decode d = .ok v) : ofDatum d = v := by
  cases htagged : d.tagged? with
  | none =>
    rw [decode_of_untagged hitems htagged] at h
    exact Except.ok.inj h
  | some tagged =>
    obtain ⟨tag, s⟩ := tagged
    obtain rfl := Datum.tagged?_eq_some_iff.1 htagged
    rw [decode_tagged] at h
    exact absurd (Datum.tags_of_tagged? htagged h) (htags v)

/-- A datum is decoded to what it stands for without its tags. -/
theorem ofDatum_of_untags (h : decode d = .ok v) (huntags : d.Untags e) : ofDatum e = v := by
  induction d using Datum.induction_on_items generalizing e v with
  | step d ih =>
    cases huntags with
    | tagged htags =>
      rw [decode_of_tags htags] at h
      exact Except.ok.inj h
    | @held _ _ items others hitems hothers hall =>
      rw [decode_of_items? hitems, map_eq_ok_iff] at h
      obtain ⟨values, hvalues, rfl⟩ := h
      rw [ofDatum_of_items? hothers]
      refine congrArg _ (map_eq_of_forall₂ (fun item hitem e v huntags hv => ?_) hall
        (mapM_eq_ok_iff.1 hvalues))
      exact ih item ((Datum.holds_iff_mem hitems).2 hitem) hv huntags
    | kept hitems htags => exact ofDatum_of_not_tags hitems htags h

/-- Several data are decoded to what they stand for without their tags. -/
theorem map_ofDatum_of_untags (h : items.mapM decode = .ok values)
    (huntags : List.Forall₂ Datum.Untags items others) : others.map ofDatum = values := by
  rw [mapM_eq_ok_iff] at h
  refine map_eq_of_forall₂ ?_ huntags h
  exact fun _ _ _ _ he hv => ofDatum_of_untags hv he

end Value

end GnuplotScript
