import GnuplotScript.Json.Document
import GnuplotScript.Proofs.Text.Quoted
import GnuplotScript.Value.Basic
import Mathlib.Data.List.TakeWhile

/-!
# Quoted texts as JSON

A quoted text looks like a string of JSON, and nearly is one. Each escape of a literal is an escape
of JSON too and stands for the same character there. But a string of JSON has no control in it, and
in literals only three of the controls have an escape. So a text comes back from its literal unless
there is one of the others in it; then the literal is refused at the first of these, and is never
taken for another text.

## Main definitions

* `Json.Tolerates` — characters that may stand in a quoted text

## Main results

* `scanString_flatMap_encodeChar` — such characters are read as they are meant
* `read_encode`, `read_encode_of_control` — the literal of a text with no other characters, and that
  of a text with another one
* `quoted_text_read_as_json` — which literals are strings of JSON, and where the others are refused
-/

namespace GnuplotScript.Json

open Text (quote)
open Text.Quoted (controls encode encodeChar encodeTail escapeOf? escapes reserved)

/-- A character that may stand in a quoted text which is read as JSON: it is no control, or it has
an escape. -/
def Tolerates (c : Char) : Prop :=
  c.toNat < 0x20 → c ∈ controls

instance : DecidablePred Tolerates :=
  fun c => inferInstanceAs (Decidable (c.toNat < 0x20 → c ∈ controls))

variable {c x letter : Char} {cs front before : List Char}

/-! ### Characters -/

/-- The escapes of literals are escapes of JSON. -/
theorem escaped?_of_escapeOf? (h : escapeOf? c = some letter) : escaped? letter = some c := by
  have agree : ∀ e ∈ escapes, escaped? e.1 = some e.2 := by decide
  exact agree (letter, c) (Text.Quoted.mem_escapes_iff.2 h)

theorem Tolerates.not_control (h : Tolerates c) (plain : escapeOf? c = none) : ¬c.toNat < 0x20 := by
  intro control
  have among : controls ⊆ reserved := by decide
  exact Text.Quoted.notMem_reserved_iff.2 plain (among (h control))

/-- A character that is not tolerated has no escape. -/
theorem escapeOf?_of_not_tolerates (h : ¬Tolerates c) : escapeOf? c = none := by
  have tolerated : ∀ c ∈ reserved, Tolerates c := by
    simp only [reserved, List.forall_mem_cons]
    exact ⟨by decide, by decide, fun _ hc _ => hc⟩
  exact Text.Quoted.notMem_reserved_iff.1 fun escaped => h (tolerated c escaped)

/-- What is written for a tolerated character holds no control. -/
theorem Tolerates.not_control_of_mem (h : Tolerates c) (hx : x ∈ encodeChar c) :
    ¬x.toNat < 0x20 := by
  rw [encodeChar] at hx
  cases hc : escapeOf? c with
  | some letter =>
    have letters : ∀ e ∈ escapes, ¬e.1.toNat < 0x20 := by decide
    rw [hc, List.mem_cons, List.mem_singleton] at hx
    rcases hx with rfl | rfl
    · decide
    · exact letters (x, c) (Text.Quoted.mem_escapes_iff.2 hc)
  | none =>
    rw [hc, List.mem_singleton] at hx
    rw [hx]
    exact h.not_control hc

/-- A character that is not tolerated is written as it is. -/
theorem encodeTail_append_cons (hc : ¬Tolerates c) (front back : List Char) :
    encodeTail (front ++ c :: back) = front.flatMap encodeChar ++ c :: encodeTail back := by
  simp [encodeTail, encodeChar, escapeOf?_of_not_tolerates hc]

/-- The place of a fault on the first line of a text. -/
theorem toFailure_append (h : '\n' ∉ before) (cause : Cause) (rest : List Char) :
    Stop.toFailure (before ++ rest) (.malformed cause rest) =
      .malformed cause 1 (before.length + 1) before.length := by
  have position : (before ++ rest).length - rest.length = before.length := by
    rw [List.length_append, Nat.add_sub_cancel]
  have line : before.reverse.takeWhile (· ≠ '\n') = before.reverse := by
    rw [List.takeWhile_eq_self_iff]
    intro x hx
    rw [decide_eq_true_iff]
    rintro rfl
    exact h (List.mem_reverse.1 hx)
  simp only [Stop.toFailure, position, List.take_left, List.count_eq_zero_of_not_mem h, column,
    line, List.length_reverse]

/-! ### Literals -/

section StandIns

variable [Text.StandIns]

theorem scanString_encodeChar (h : Tolerates c) (opening rest : List Char) :
    scanString opening (encodeChar c ++ rest) =
      (scanString opening rest).map fun (cs, after) => (c :: cs, after) := by
  rw [encodeChar]
  cases hc : escapeOf? c with
  | some letter => exact scanString_escape opening rest (escaped?_of_escapeOf? hc)
  | none =>
    obtain ⟨hquote, hslash⟩ := Text.Quoted.ne_of_escapeOf?_eq_none hc
    exact scanString_plain opening rest hquote (h.not_control hc) hslash

/-- Tolerated characters are read as they are meant, whatever follows them. -/
theorem scanString_flatMap_encodeChar (h : ∀ c ∈ front, Tolerates c) (opening rest : List Char) :
    scanString opening (front.flatMap encodeChar ++ rest) =
      (scanString opening rest).map fun (cs, after) => (front ++ cs, after) := by
  induction front with
  | nil =>
    rw [List.flatMap_nil, List.nil_append]
    cases scanString opening rest <;> rfl
  | cons c others ih =>
    obtain ⟨hc, hothers⟩ := List.forall_mem_cons.1 h
    rw [List.flatMap_cons, List.append_assoc, scanString_encodeChar hc, ih hothers]
    cases scanString opening rest <;> rfl

theorem scanString_encodeTail (h : ∀ c ∈ cs, Tolerates c) (opening rest : List Char) :
    scanString opening (encodeTail cs ++ rest) = .ok (cs, rest) := by
  rw [encodeTail, List.append_assoc, scanString_flatMap_encodeChar h, List.singleton_append,
    scanString_quote]
  exact congrArg (fun cs => Except.ok (cs, rest)) (List.append_nil cs)

/-- A control without an escape is where the reading of a literal stops. -/
theorem scanString_encodeTail_of_control (hfront : ∀ c ∈ front, Tolerates c) (hc : ¬Tolerates c)
    (opening back : List Char) :
    scanString opening (encodeTail (front ++ c :: back)) =
      .error (.malformed .controlCharacter (c :: encodeTail back)) := by
  have control : c.toNat < 0x20 := (Classical.not_imp.1 hc).1
  rw [encodeTail_append_cons hc, scanString_flatMap_encodeChar hfront,
    scanString_control opening _ control]
  rfl

/-- A document that begins with a quotation mark is a string, and nothing but blanks follows it. -/
theorem document_quotation (inside : List Char) :
    document ('"' :: inside) = (scanString ('"' :: inside) inside).bind fun (cs, rest) =>
      match skipSpace rest with
      | [] => .ok (.text (String.ofList cs))
      | extra => .error (.malformed .extraData extra) := by
  have unmarked : ∀ tail, '"' :: inside = '\ufeff' :: tail → False := nofun
  have start : skipSpace ('"' :: inside) = '"' :: inside := rfl
  rw [document.eq_2 _ unmarked, start, value]
  cases scanString ('"' :: inside) inside <;> rfl

/-- The literal of a text in which all characters are tolerated is read as the text. -/
theorem read_encode (h : ∀ c ∈ cs, Tolerates c) :
    read (encode cs) = .ok (.text (String.ofList cs)) := by
  have inside := scanString_encodeTail h (encode cs) []
  rw [List.append_nil] at inside
  rw [read, encode, document_quotation, ← encode, inside]
  rfl

/-- Any other literal is refused at the first control in it. -/
theorem read_encode_of_control (hfront : ∀ c ∈ front, Tolerates c) (hc : ¬Tolerates c)
    (back : List Char) :
    ∃ before after, encode (front ++ c :: back) = before ++ c :: after ∧
      (∀ x ∈ before, ¬x.toNat < 0x20) ∧
      read (encode (front ++ c :: back)) =
        .error (.malformed .controlCharacter 1 (before.length + 1) before.length) := by
  have written : encode (front ++ c :: back) =
      ('"' :: front.flatMap encodeChar) ++ c :: encodeTail back := by
    rw [encode, encodeTail_append_cons hc, List.cons_append]
  have clean : ∀ x ∈ '"' :: front.flatMap encodeChar, ¬x.toNat < 0x20 := by
    rw [List.forall_mem_cons]
    refine ⟨by decide, fun x hx => ?_⟩
    obtain ⟨y, hy, hx⟩ := List.mem_flatMap.1 hx
    exact (hfront y hy).not_control_of_mem hx
  have oneLine : '\n' ∉ '"' :: front.flatMap encodeChar := by
    intro found
    exact clean '\n' found (by decide)
  refine ⟨_, _, written, clean, ?_⟩
  have stop := scanString_encodeTail_of_control hfront hc (encode (front ++ c :: back)) back
  rw [read, encode, document_quotation, ← encode, stop, written]
  exact congrArg Except.error (toFailure_append oneLine _ _)

end StandIns

/-- Of several characters that are not all tolerated there is a first that is not. -/
theorem exists_first_not_tolerated (h : ¬∀ c ∈ cs, Tolerates c) :
    ∃ front c back, cs = front ++ c :: back ∧ (∀ x ∈ front, Tolerates x) ∧ ¬Tolerates c := by
  cases hfound : cs.find? fun c => ¬Tolerates c with
  | none =>
    refine absurd (fun c hc => ?_) h
    simpa using List.find?_eq_none.1 hfound c hc
  | some c =>
    obtain ⟨hc, front, back, rfl, hfront⟩ := List.find?_eq_some_iff_append.1 hfound
    exact ⟨front, c, back, rfl, by simpa using hfront, by simpa using hc⟩

end Json

/-- The literal of a text is a string of JSON exactly if the only controls in the text are line
feeds, carriage returns and tabs, and this string is then the text. Any other literal is refused, at
the first control in it; so none is read as something else. -/
theorem quoted_text_read_as_json [Text.StandIns] (s : String) :
    (Json.read (Value.text s).render.toList = .ok (.text s) ↔
        ∀ c ∈ s.toList, c.toNat < 0x20 → c ∈ ['\n', '\r', '\t']) ∧
      ((∃ c ∈ s.toList, c.toNat < 0x20 ∧ c ∉ ['\n', '\r', '\t']) →
        ∃ before c after, (Value.text s).render.toList = before ++ c :: after ∧ c.toNat < 0x20 ∧
          (∀ x ∈ before, ¬x.toNat < 0x20) ∧
          Json.read (Value.text s).render.toList =
            .error (.malformed .controlCharacter 1 (before.length + 1) before.length)) ∧
      ∀ d, Json.read (Value.text s).render.toList = .ok d → d = .text s := by
  rw [Value.render_text, Text.toList_quote]
  by_cases tolerated : ∀ c ∈ s.toList, Json.Tolerates c
  · have read : Json.read (Text.Quoted.encode s.toList) = .ok (.text s) := by
      rw [Json.read_encode tolerated, String.ofList_toList]
    refine ⟨iff_of_true read tolerated, ?_, ?_⟩
    · intro ⟨c, hc, control, unescaped⟩
      exact absurd (tolerated c hc control) unescaped
    · intro d hd
      exact Except.ok.inj (hd.symm.trans read)
  · obtain ⟨front, c, back, split, hfront, hc⟩ := Json.exists_first_not_tolerated tolerated
    obtain ⟨before, after, written, clean, refused⟩ := Json.read_encode_of_control hfront hc back
    rw [← split] at written refused
    refine ⟨iff_of_false ?_ tolerated, ?_, ?_⟩
    · rw [refused]
      exact nofun
    · intro _
      exact ⟨before, c, after, written, (Classical.not_imp.1 hc).1, clean, refused⟩
    · intro d hd
      cases refused.symm.trans hd

end GnuplotScript
