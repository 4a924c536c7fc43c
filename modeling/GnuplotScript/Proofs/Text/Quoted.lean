import GnuplotScript.Text.Quoted

/-!
# Quoting is exact

What counts as a literal is said by a grammar that does not mention how literals are written:
after an opening quote come escapes and characters that stand for themselves, up to the first
quote that is no part of an escape. Each text has exactly one literal under this grammar, the
one that it is quoted as, and the literal ends where it ends, whatever text comes after it.

## Main definitions

* `Quoted.escapes` — the letters of escapes, and the characters that they stand for
* `Quoted.Reads` — the grammar of what follows an opening quote
* `Quoted.ReadsLiteral` — a text that begins with the literal of another, and what follows it

## Main results

* `reads_iff` — the grammar accepts what is written, and nothing else
* `quote_append_inj` — a quoted text and what follows it can be told apart
* `quoting_is_exact` — reading and quoting are inverse to each other in front of any text
-/

namespace GnuplotScript.Text

namespace Quoted

/-- The letters that may follow a backslash, and the characters that they stand for. -/
def escapes : List (Char × Char) :=
  [('\\', '\\'), ('"', '"'), ('n', '\n'), ('r', '\r'), ('t', '\t')]

/-- The controls that have an escape. -/
def controls : List Char :=
  ['\n', '\r', '\t']

/-- The characters that do not stand for themselves in a literal. -/
def reserved : List Char :=
  '"' :: '\\' :: controls

/-- What follows an opening quote: the text that is meant, and what follows the closing quote. -/
inductive Reads : List Char → List Char → List Char → Prop where
  | closing (rest : List Char) : Reads ('"' :: rest) [] rest
  | escape {letter c : Char} {t cs rest : List Char} :
    (letter, c) ∈ escapes → Reads t cs rest → Reads ('\\' :: letter :: t) (c :: cs) rest
  | plain {c : Char} {t cs rest : List Char} :
    c ∉ reserved → Reads t cs rest → Reads (c :: t) (c :: cs) rest

/-- A text begins with the literal of `s`, and `rest` is what follows it. -/
def ReadsLiteral (t s rest : String) : Prop :=
  ∃ inside, t.toList = '"' :: inside ∧ Reads inside s.toList rest.toList

variable {t cs rest : List Char} {c letter control : Char} {s : String}

/-- The escapes of the grammar are those with which texts are written. -/
theorem mem_escapes_iff : (letter, c) ∈ escapes ↔ escapeOf? c = some letter := by
  unfold escapes escapeOf?
  grind

/-- The reserved characters are those that are written with an escape. -/
theorem notMem_reserved_iff : c ∉ reserved ↔ escapeOf? c = none := by
  unfold reserved controls escapeOf?
  grind

theorem encodeTail_cons (c : Char) (cs : List Char) :
    encodeTail (c :: cs) = encodeChar c ++ encodeTail cs := by
  rw [encodeTail, List.flatMap_cons, List.append_assoc, encodeTail]

theorem reads_encodeTail (cs rest : List Char) : Reads (encodeTail cs ++ rest) cs rest := by
  induction cs with
  | nil => exact .closing rest
  | cons c cs ih =>
    rw [encodeTail_cons, encodeChar]
    cases h : escapeOf? c with
    | some letter => exact .escape (mem_escapes_iff.2 h) ih
    | none => exact .plain (notMem_reserved_iff.2 h) ih

theorem Reads.eq_append (h : Reads t cs rest) : t = encodeTail cs ++ rest := by
  induction h with
  | closing rest => rfl
  | escape hescape _ ih =>
    rw [encodeTail_cons, encodeChar, mem_escapes_iff.1 hescape, ih]
    rfl
  | plain hplain _ ih =>
    rw [encodeTail_cons, encodeChar, notMem_reserved_iff.1 hplain, ih]
    rfl

/-- The grammar accepts what is written, and nothing else. -/
theorem reads_iff : Reads t cs rest ↔ t = encodeTail cs ++ rest := by
  constructor
  · exact Reads.eq_append
  · rintro rfl
    exact reads_encodeTail cs rest

/-- The reader accepts the same literals. -/
theorem read_eq_some_iff : read t = some (cs, rest) ↔ t = encode cs ++ rest := by
  constructor
  · exact eq_encode_of_read
  · rintro rfl
    exact read_encode cs rest

/-- A literal ends at the same place whatever follows it. -/
theorem encode_append_inj {cs ds rest after : List Char}
    (h : encode cs ++ rest = encode ds ++ after) : cs = ds ∧ rest = after := by
  have read := read_encode cs rest
  rw [h, read_encode] at read
  exact Prod.mk.inj (Option.some.inj read.symm)

theorem readsLiteral_iff {t s rest : String} : ReadsLiteral t s rest ↔ t = quote s ++ rest := by
  simp only [ReadsLiteral, reads_iff, exists_eq_right]
  rw [← String.toList_inj, String.toList_append, toList_quote]
  rfl

/-- What is written for a character holds no control that has an escape. -/
theorem notMem_encodeChar (h : control ∈ controls) (c : Char) : control ∉ encodeChar c := by
  have slash : control ≠ '\\' := by
    rintro rfl
    revert h
    decide
  rw [encodeChar]
  cases hc : escapeOf? c with
  | some letter =>
    have letters : ∀ e ∈ escapes, e.1 ∉ controls := by decide
    have other : control ≠ letter := fun same => letters _ (mem_escapes_iff.2 hc) (same ▸ h)
    simp [slash, other]
  | none =>
    have unreserved := notMem_reserved_iff.2 hc
    rw [List.mem_singleton]
    rintro rfl
    exact unreserved (List.mem_cons_of_mem _ (List.mem_cons_of_mem _ h))

end Quoted

open Quoted (ReadsLiteral controls)

/-- A quoted text ends at the same place whatever follows it. -/
theorem quote_append_inj {s s' r r' : String} (h : quote s ++ r = quote s' ++ r') :
    s = s' ∧ r = r' := by
  rw [← String.toList_inj, String.toList_append, String.toList_append, toList_quote,
    toList_quote] at h
  obtain ⟨texts, rests⟩ := Quoted.encode_append_inj h
  exact ⟨String.toList_inj.1 texts, String.toList_inj.1 rests⟩

/-- A quoted text is one line without tabs. -/
theorem notMem_quote {control : Char} (h : control ∈ controls) (s : String) :
    control ∉ (quote s).toList := by
  have mark : control ≠ '"' := by
    rintro rfl
    revert h
    decide
  have inside : control ∉ s.toList.flatMap Quoted.encodeChar := by
    rw [List.mem_flatMap]
    intro ⟨c, _, hc⟩
    exact Quoted.notMem_encodeChar h c hc
  simp [Quoted.encode, Quoted.encodeTail, mark, inside]

/-- Reading and quoting are inverse to each other in front of any text: a text begins with the
literal of another exactly if it is this text quoted with something after it, and the reader
finds just these literals. So the literal and what follows it are told apart, and no raw line
feed, carriage return or tab is ever in it. -/
theorem quoting_is_exact :
    (∀ t s rest : String, ReadsLiteral t s rest ↔ t = quote s ++ rest) ∧
      (∀ t s rest : String,
        Quoted.read t.toList = some (s.toList, rest.toList) ↔ ReadsLiteral t s rest) ∧
      (∀ s s' r r' : String, quote s ++ r = quote s' ++ r' → s = s' ∧ r = r') ∧
      ∀ (s : String), ∀ c ∈ ['\n', '\r', '\t'], c ∉ (quote s).toList := by
  refine ⟨fun _ _ _ => Quoted.readsLiteral_iff, ?_, fun _ _ _ _ => quote_append_inj, ?_⟩
  · intro t s rest
    rw [Quoted.read_eq_some_iff, Quoted.readsLiteral_iff, ← toList_quote, ← String.toList_append,
      String.toList_inj]
  · intro s c hc
    exact notMem_quote hc s

end GnuplotScript.Text
