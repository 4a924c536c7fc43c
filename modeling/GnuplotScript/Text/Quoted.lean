/-!
# Double-quoted literals

A string argument of a statement stands between double quotes. Backslash and double quote
are written after a backslash, and the three controls that would break the line or the
layout of a script have escapes of their own; every other character stands for itself.

## Main definitions

* `Quoted.escapeOf?` — the letter that follows the backslash for an escaped character
* `Quoted.encode` — the literal of a text
* `Quoted.read` — the reader: the decoded text and what follows the closing quote

## Main results

* `Quoted.read_encode` — reading a literal in front of any text gives the text back
* `Quoted.eq_encode_of_read` — what the reader accepts is a literal
-/

namespace GnuplotScript.Text.Quoted

/-- The letter written after the backslash for a character that cannot stand for itself. -/
def escapeOf? (c : Char) : Option Char :=
  if c = '\\' then some '\\'
  else if c = '"' then some '"'
  else if c = '\n' then some 'n'
  else if c = '\r' then some 'r'
  else if c = '\t' then some 't'
  else none

/-- The character that a letter after a backslash stands for. -/
def unescape? (letter : Char) : Option Char :=
  if letter = '\\' then some '\\'
  else if letter = '"' then some '"'
  else if letter = 'n' then some '\n'
  else if letter = 'r' then some '\r'
  else if letter = 't' then some '\t'
  else none

/-- One character inside a literal. -/
def encodeChar (c : Char) : List Char :=
  match escapeOf? c with
  | some letter => ['\\', letter]
  | none => [c]

/-- The inside of a literal with its closing quote. -/
def encodeTail (cs : List Char) : List Char :=
  cs.flatMap encodeChar ++ ['"']

/-- The literal of a text. -/
def encode (cs : List Char) : List Char :=
  '"' :: encodeTail cs

/-- The text up to the closing quote, and what follows the quote. A backslash must be
followed by one of the five letters, and line feed, carriage return and tab do not stand for
themselves. -/
def readTail : List Char → Option (List Char × List Char)
  | [] => none
  | '"' :: rest => some ([], rest)
  | '\\' :: letter :: rest =>
    match unescape? letter with
    | some c => (readTail rest).map fun (cs, after) => (c :: cs, after)
    | none => none
  | c :: rest =>
    match escapeOf? c with
    | some _ => none
    | none => (readTail rest).map fun (cs, after) => (c :: cs, after)

/-- The text of the literal that the characters begin with, and what follows it. -/
def read : List Char → Option (List Char × List Char)
  | '"' :: rest => readTail rest
  | _ => none

theorem unescape?_eq_some_iff {letter c : Char} :
    unescape? letter = some c ↔ escapeOf? c = some letter := by
  unfold unescape? escapeOf?
  constructor <;> intro h <;> (repeat' split at h) <;> simp_all <;> subst_vars <;> decide

/-- A character without an escape is neither the closing quote nor a backslash. -/
theorem ne_of_escapeOf?_eq_none {c : Char} (h : escapeOf? c = none) : c ≠ '"' ∧ c ≠ '\\' := by
  constructor <;> (rintro rfl; revert h; decide)

theorem readTail_plain {c : Char} (h : escapeOf? c = none) (rest : List Char) :
    readTail (c :: rest) = (readTail rest).map fun (cs, after) => (c :: cs, after) := by
  obtain ⟨hquote, hslash⟩ := ne_of_escapeOf?_eq_none h
  rw [readTail.eq_4 _ _ (fun e => hquote e) (fun _ _ e _ => hslash e), h]

theorem readTail_encodeTail (cs rest : List Char) :
    readTail (encodeTail cs ++ rest) = some (cs, rest) := by
  induction cs with
  | nil => simp [encodeTail, readTail]
  | cons c cs ih =>
    simp only [encodeTail, List.append_assoc, List.singleton_append] at ih
    cases h : escapeOf? c with
    | some letter =>
      simp [encodeTail, encodeChar, h, readTail, unescape?_eq_some_iff.2 h, ih]
    | none => simp [encodeTail, encodeChar, h, readTail_plain h, ih]

/-- Reading a literal in front of any text gives back its text and the rest. -/
theorem read_encode (cs rest : List Char) : read (encode cs ++ rest) = some (cs, rest) :=
  readTail_encodeTail cs rest

theorem eq_encodeTail_of_readTail {t cs rest : List Char} (h : readTail t = some (cs, rest)) :
    t = encodeTail cs ++ rest := by
  fun_induction readTail t generalizing cs with
  | case1 => cases h
  | case2 after => cases h; simp [encodeTail]
  | case3 letter r c hc ih =>
    obtain ⟨⟨ds, after⟩, hread, heq⟩ := Option.map_eq_some_iff.1 h
    cases heq
    rw [ih hread]
    simp [encodeTail, encodeChar, unescape?_eq_some_iff.1 hc]
  | case4 => cases h
  | case5 => cases h
  | case6 c r _ _ hc ih =>
    obtain ⟨⟨ds, after⟩, hread, heq⟩ := Option.map_eq_some_iff.1 h
    cases heq
    rw [ih hread]
    simp [encodeTail, encodeChar, hc]

/-- What the reader accepts is the literal of the text that it returns. -/
theorem eq_encode_of_read {t cs rest : List Char} (h : read t = some (cs, rest)) :
    t = encode cs ++ rest := by
  unfold read at h
  split at h
  · simp [encode, eq_encodeTail_of_readTail h]
  · cases h

end GnuplotScript.Text.Quoted

namespace GnuplotScript.Text

/-- The double-quoted literal of a text. -/
def quote (s : String) : String :=
  String.ofList (Quoted.encode s.toList)

@[simp] theorem toList_quote (s : String) : (quote s).toList = Quoted.encode s.toList := by
  simp [quote]

end GnuplotScript.Text
