import GnuplotScript.Proofs.Value.Decoding

/-!
# Values in documents

Which values a JSON document can express, and how it does so directly. Strings, words, keywords
and references can be expressed whatever their text is, and so can sequences of what can be
expressed. Other data are limited to what a document has beside strings and arrays, and an object
that looks like a tagged text is taken for one.

## Main definitions

* `Datum.IsJson` — the data of JSON documents
* `Datum.IsOther` — those that stand for themselves
* `Value.IsExpressible` — the values of such data
* `Value.encode` — the direct way of writing a value in a document

## Main results

* `decode_encode` — the direct way is read back
* `isExpressible_of_decode` — nothing but these values is ever read in a document
-/

namespace GnuplotScript

namespace Datum

/-- The data of JSON documents. The names in an object are texts, each of which occurs once. -/
inductive IsJson : Datum → Prop where
  | null : IsJson .null
  | bool (b : Bool) : IsJson (.bool b)
  | int (n : Int) : IsJson (.int n)
  | float (x : Binary64) : IsJson (.float x)
  | text (s : String) : IsJson (.text s)
  | list {items : List Datum} : (∀ item ∈ items, IsJson item) → IsJson (.list items)
  | mapping {members : List (String × Datum)} :
    (members.map Prod.fst).Nodup → (∀ m ∈ members, IsJson m.2) →
      IsJson (.mapping (members.map fun m => (.text m.1, m.2)))

/-- The data of documents that stand for themselves: null, the truth values, numbers, and objects
that are not a single tag with a text. -/
inductive IsOther : Datum → Prop where
  | null : IsOther .null
  | bool (b : Bool) : IsOther (.bool b)
  | int (n : Int) : IsOther (.int n)
  | float (x : Binary64) : IsOther (.float x)
  | mapping {entries : List (Datum × Datum)} :
    IsJson (.mapping entries) →
      (∀ tag ∈ ["raw", "bare", "flag", "ref"], ∀ s, entries ≠ [(.text tag, .text s)]) →
        IsOther (.mapping entries)

end Datum

/-- The values that documents can express. -/
inductive Value.IsExpressible : Value → Prop where
  | literal (text : String) : IsExpressible (.literal text)
  | text (s : String) : IsExpressible (.text s)
  | bareword (name : String) : IsExpressible (.bareword name)
  | flag (name : String) : IsExpressible (.flag name)
  | reference {name : String} : IsBlockName name → IsExpressible (.reference name)
  | sequence {items : List Value} :
    (∀ item ∈ items, IsExpressible item) → IsExpressible (.sequence items)
  | other {d : Datum} : d.IsOther → IsExpressible (.other d)

mutual

/-- The direct way of writing a value in a document. -/
def Value.encode : Value → Datum
  | .literal text => .mapping [(.text "raw", .text text)]
  | .text s => .text s
  | .bareword name => .mapping [(.text "bare", .text name)]
  | .flag name => .mapping [(.text "flag", .text name)]
  | .sequence items => .list (encodeAll items)
  | .other d => d
  | .reference name => .mapping [(.text "ref", .text name)]

/-- Several values written in a document. -/
def encodeAll : List Value → List Datum
  | [] => []
  | v :: rest => v.encode :: encodeAll rest

end

@[simp] theorem encodeAll_eq_map (values : List Value) :
    encodeAll values = values.map Value.encode := by
  induction values with
  | nil => rfl
  | cons v rest ih => simp [encodeAll, ih]

@[simp] theorem Value.encode_sequence (items : List Value) :
    encode (.sequence items) = .list (items.map encode) := by
  rw [encode, encodeAll_eq_map]

variable {d : Datum} {items : List Datum} {entries : List (Datum × Datum)} {v : Value}
  {values : List Value} {tag : Tag} {s : String}

/-! ### Data of documents -/

/-- The four texts are the names of tags. -/
theorem Tag.mem_names_iff {name : String} :
    name ∈ ["raw", "bare", "flag", "ref"] ↔ ∃ tag : Tag, tag.name = name := by
  constructor
  · simp only [List.mem_cons, List.not_mem_nil, or_false]
    rintro (rfl | rfl | rfl | rfl)
    · exact ⟨.raw, rfl⟩
    · exact ⟨.bare, rfl⟩
    · exact ⟨.flag, rfl⟩
    · exact ⟨.ref, rfl⟩
  · rintro ⟨tag, rfl⟩
    cases tag <;> decide

namespace Datum

/-- Of lists and tuples only lists occur in documents, and they hold data of documents. -/
theorem IsJson.of_items? (h : d.IsJson) (hitems : d.items? = some items) :
    ∀ item ∈ items, item.IsJson := by
  cases h with
  | list hall =>
    cases hitems
    exact hall
  | _ => cases hitems

/-- An object of one member, which is a text. -/
theorem isJson_single (name s : String) : IsJson (.mapping [(.text name, .text s)]) := by
  have members : IsJson (.mapping ([(name, text s)].map fun m => (.text m.1, m.2))) := by
    apply IsJson.mapping
    · simp
    · intro m hm
      rw [List.mem_singleton.1 hm]
      exact .text s
  exact members

theorem IsOther.isJson (h : d.IsOther) : d.IsJson := by
  cases h with
  | null => exact .null
  | bool b => exact .bool b
  | int n => exact .int n
  | float x => exact .float x
  | mapping hjson _ => exact hjson

theorem IsOther.tagged?_eq_none (h : d.IsOther) : d.tagged? = none := by
  cases h with
  | @mapping entries _ untagged =>
    cases htagged : (Datum.mapping entries).tagged? with
    | none => rfl
    | some tagged =>
      obtain ⟨tag, s⟩ := tagged
      have entry := Datum.mapping.inj (tagged?_eq_some_iff.1 htagged)
      exact absurd entry (untagged tag.name (Tag.mem_names_iff.2 ⟨tag, rfl⟩) s)
  | _ => rfl

/-- An object is tagged, or it stands for itself. -/
theorem isOther_of_tagged?_eq_none (h : IsJson (.mapping entries))
    (untagged : (mapping entries).tagged? = none) : IsOther (.mapping entries) := by
  refine .mapping h fun name hname s hentries => ?_
  obtain ⟨tag, rfl⟩ := Tag.mem_names_iff.1 hname
  rw [hentries, tagged?_eq_some_iff.2 rfl] at untagged
  cases untagged

end Datum

namespace Value

/-! ### Reading back -/

theorem decode_of_isOther (h : d.IsOther) : decode d = .ok (.other d) := by
  have untagged := h.tagged?_eq_none
  cases h with
  | mapping _ _ => exact decode_of_untagged rfl untagged
  | _ => exact decode_of_untagged rfl untagged

/-- The direct way of writing a value is read back. -/
theorem decode_encode (h : v.IsExpressible) : decode v.encode = .ok v := by
  induction h with
  | literal text => exact decode_tagged .raw text
  | text s => exact decode_text s
  | bareword name => exact decode_tagged .bare name
  | flag name => exact decode_tagged .flag name
  | reference hname => rw [encode, decode_reference, referenceNamed_of_isBlockName hname]
  | sequence _ ih =>
    rw [encode_sequence, decode_of_items? rfl, mapM_map_of_ok ih]
    rfl
  | other hother => exact decode_of_isOther hother

theorem mapM_decode_encode (h : ∀ v ∈ values, v.IsExpressible) :
    (values.map encode).mapM decode = .ok values :=
  mapM_map_of_ok fun v hv => decode_encode (h v hv)

/-- It is data of a document. -/
theorem isJson_encode (h : v.IsExpressible) : v.encode.IsJson := by
  induction h with
  | literal text => exact Datum.isJson_single "raw" text
  | text s => exact .text s
  | bareword name => exact Datum.isJson_single "bare" name
  | flag name => exact Datum.isJson_single "flag" name
  | @reference name _ => exact Datum.isJson_single "ref" name
  | @sequence items _ ih =>
    rw [encode_sequence]
    apply Datum.IsJson.list
    intro d hd
    obtain ⟨item, hitem, rfl⟩ := List.mem_map.1 hd
    exact ih item hitem
  | other hother => exact hother.isJson

/-! ### What is read -/

theorem isExpressible_of_tag (h : tag.value s = .ok v) : v.IsExpressible := by
  cases tag with
  | raw =>
    cases h
    exact .literal s
  | bare =>
    cases h
    exact .bareword s
  | flag =>
    cases h
    exact .flag s
  | ref =>
    obtain ⟨hname, rfl⟩ := referenceNamed_eq_ok_iff.1 h
    exact .reference (isReferenceName_iff.1 hname)

/-- An object is read as a tagged text, or it stands for itself. -/
theorem decode_mapping_cases (h : Datum.IsJson (.mapping entries)) :
    (∃ (tag : Tag) (s : String), decode (.mapping entries) = tag.value s) ∨
      (Datum.mapping entries).IsOther ∧
        decode (.mapping entries) = .ok (.other (.mapping entries)) := by
  cases htagged : (Datum.mapping entries).tagged? with
  | none =>
    have other := Datum.isOther_of_tagged?_eq_none h htagged
    exact .inr ⟨other, decode_of_isOther other⟩
  | some tagged =>
    obtain ⟨tag, s⟩ := tagged
    rw [Datum.tagged?_eq_some_iff.1 htagged]
    exact .inl ⟨tag, s, decode_tagged tag s⟩

/-- Nothing but expressible values is ever read in a document. -/
theorem isExpressible_of_decode (h : d.IsJson) (hv : decode d = .ok v) : v.IsExpressible := by
  induction h generalizing v with
  | null =>
    cases hv
    exact .other .null
  | bool b =>
    cases hv
    exact .other (.bool b)
  | int n =>
    cases hv
    exact .other (.int n)
  | float x =>
    cases hv
    exact .other (.float x)
  | text s =>
    cases hv
    exact .text s
  | @list items _ ih =>
    rw [decode_of_items? rfl, map_eq_ok_iff] at hv
    obtain ⟨values, hvalues, rfl⟩ := hv
    apply IsExpressible.sequence
    intro w hw
    obtain ⟨item, hitem, hread⟩ := exists_mem_of_forall₂ (mapM_eq_ok_iff.1 hvalues) hw
    exact ih item hitem hread
  | mapping hnodup hall _ =>
    rcases decode_mapping_cases (.mapping hnodup hall) with ⟨tag, s, hread⟩ | ⟨other, hread⟩
    · exact isExpressible_of_tag (hread.symm.trans hv)
    · cases hread.symm.trans hv
      exact .other other

/-- A quoted text is only read from a text. -/
theorem eq_text_of_decode (h : d.IsJson) (hv : decode d = .ok (.text s)) : d = .text s := by
  cases h with
  | text t =>
    cases hv
    rfl
  | list _ =>
    rw [decode_of_items? rfl, map_eq_ok_iff] at hv
    obtain ⟨_, -, hsequence⟩ := hv
    cases hsequence
  | @mapping members hnodup hall =>
    -- An object is a tagged text, and no tag is that of quoted texts, or it stands for itself.
    rcases decode_mapping_cases (.mapping hnodup hall) with ⟨tag, t, hread⟩ | hread
    · rw [hread] at hv
      cases tag with
      | ref =>
        obtain ⟨-, hreference⟩ := referenceNamed_eq_ok_iff.1 hv
        cases hreference
      | _ => cases hv
    · cases hread.2.symm.trans hv
  | _ => cases hv

theorem isExpressible_of_mapM_decode (h : ∀ item ∈ items, item.IsJson)
    (hvalues : items.mapM decode = .ok values) : ∀ v ∈ values, v.IsExpressible := by
  intro v hv
  obtain ⟨item, hitem, hread⟩ := exists_mem_of_forall₂ (mapM_eq_ok_iff.1 hvalues) hv
  exact isExpressible_of_decode (h item hitem) hread

end Value

end GnuplotScript
