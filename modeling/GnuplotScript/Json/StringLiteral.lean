import GnuplotScript.Json.Failure
import GnuplotScript.Text.Surrogate

/-!
# JSON strings

A string runs to the next double quote that no backslash precedes. A control character in it
is refused, and of the escapes only those of the grammar are known. Two escapes that together
encode one character beyond the first 65536 are read as that character; half of such a pair
alone is read as the character that stands for it.

## Main definitions

* `Json.hexCode?` — the number that four hexadecimal digits denote
* `Json.Item.of` — the character, or the end, that a string goes on with
* `Json.scanString` — the characters of a string after its opening quote

## Main results

* `scanString_plain`, `scanString_escape`, `scanString_control` — how a string is read on
-/

namespace GnuplotScript.Json

open Text (StandIns isSurrogate standIn)

/-- The value of a hexadecimal digit. -/
def hexValue? (c : Char) : Option Nat :=
  if '0' ≤ c ∧ c ≤ '9' then some (c.toNat - 0x30)
  else if 'a' ≤ c ∧ c ≤ 'f' then some (c.toNat - 0x57)
  else if 'A' ≤ c ∧ c ≤ 'F' then some (c.toNat - 0x37)
  else none

/-- The number that four hexadecimal digits denote. -/
def hexCode? (a b c d : Char) : Option Nat := do
  let a ← hexValue? a
  let b ← hexValue? b
  let c ← hexValue? c
  let d ← hexValue? d
  return ((a * 16 + b) * 16 + c) * 16 + d

/-- The character that a letter after a backslash stands for. -/
def escaped? (letter : Char) : Option Char :=
  if letter = '"' then some '"'
  else if letter = '\\' then some '\\'
  else if letter = '/' then some '/'
  else if letter = 'b' then some '\x08'
  else if letter = 'f' then some '\x0c'
  else if letter = 'n' then some '\n'
  else if letter = 'r' then some '\r'
  else if letter = 't' then some '\t'
  else none

/-- The character with a code, or the one that stands for half of a pair. -/
def charOfCode [StandIns] (code : Nat) : Char :=
  if isSurrogate code then standIn code else Char.ofNat code

/-- What a string goes on with: its end, a character written with some number of
characters, or a fault. -/
inductive Item where
  | close
  | char (c : Char) (length : Nat)
  | fault (stop : Stop)
  deriving DecidableEq, Repr

section StandIns

variable [StandIns]

/-- The item of an escape with the given code, before the text that follows it. A second
half is looked for only after a first half, and only where more text follows it. -/
def Item.ofCode (code : Nat) : List Char → Item
  | '\\' :: 'u' :: a :: b :: c :: d :: next :: rest =>
    if 0xd800 ≤ code ∧ code < 0xdc00 then
      match hexCode? a b c d with
      | none => .fault (.malformed .unicodeEscape ('u' :: a :: b :: c :: d :: next :: rest))
      | some low =>
        if 0xdc00 ≤ low ∧ low < 0xe000 then
          .char (Char.ofNat (0x10000 + (code - 0xd800) * 0x400 + (low - 0xdc00))) 12
        -- The second escape is another character, and is read after this one.
        else .char (charOfCode code) 6
    else .char (charOfCode code) 6
  | _ => .char (charOfCode code) 6

/-- The item after a backslash. -/
def Item.ofEscape (opening : List Char) : List Char → Item
  | [] => .fault (.malformed .unterminatedString opening)
  | 'u' :: rest =>
    match rest with
    -- Four digits that end the text are not enough, as no quote could follow.
    | a :: b :: c :: d :: next :: after =>
      match hexCode? a b c d with
      | some code => .ofCode code (next :: after)
      | none => .fault (.malformed .unicodeEscape ('u' :: rest))
    | _ => .fault (.malformed .unicodeEscape ('u' :: rest))
  | letter :: rest =>
    match escaped? letter with
    | some c => .char c 2
    | none => .fault (.malformed .escape ('\\' :: letter :: rest))

/-- The item that begins with a character. -/
def Item.of (opening : List Char) (c : Char) (rest : List Char) : Item :=
  if c = '"' then .close
  else if c.toNat < 0x20 then .fault (.malformed .controlCharacter (c :: rest))
  else if c = '\\' then .ofEscape opening rest
  else .char c 1

/-- The characters of a string up to its closing quote, and what follows the quote, after
characters to be passed over that belong to the item before. `opening` is the text from the
opening quote on, where a string without an end is reported. -/
def scanFrom (opening : List Char) : Nat → List Char → Except Stop (List Char × List Char)
  | _, [] => .error (.malformed .unterminatedString opening)
  | skip + 1, _ :: rest => scanFrom opening skip rest
  | 0, c :: rest =>
    match Item.of opening c rest with
    | .close => .ok ([], rest)
    | .char meant length =>
      (scanFrom opening (length - 1) rest).map fun (cs, after) => (meant :: cs, after)
    | .fault stop => .error stop

/-- The characters of a string after its opening quote, and what follows the closing one. -/
def scanString (opening cs : List Char) : Except Stop (List Char × List Char) :=
  scanFrom opening 0 cs

@[simp] theorem scanString_quote (opening rest : List Char) :
    scanString opening ('"' :: rest) = .ok ([], rest) := by
  simp [scanString, scanFrom, Item.of]

/-- A character that is neither a quote, a control nor a backslash stands for itself. -/
theorem scanString_plain {c : Char} (opening rest : List Char)
    (hquote : c ≠ '"') (hcontrol : ¬c.toNat < 0x20) (hslash : c ≠ '\\') :
    scanString opening (c :: rest) =
      (scanString opening rest).map fun (cs, after) => (c :: cs, after) := by
  simp [scanString, scanFrom, Item.of, hquote, hcontrol, hslash]

/-- An escape of one letter stands for its character. -/
theorem scanString_escape {letter c : Char} (opening rest : List Char)
    (hletter : escaped? letter = some c) :
    scanString opening ('\\' :: letter :: rest) =
      (scanString opening rest).map fun (cs, after) => (c :: cs, after) := by
  -- The letter of the longer escapes has no entry among the short ones.
  have hu : letter ≠ 'u' := by
    rintro rfl
    have none_u : escaped? 'u' = none := by decide
    rw [none_u] at hletter
    cases hletter
  have hitem : Item.ofEscape opening (letter :: rest) = .char c 2 := by
    simp [Item.ofEscape, hletter]
  simp [scanString, scanFrom, Item.of, hitem]

/-- A control character ends the reading of a string. -/
theorem scanString_control {c : Char} (opening rest : List Char) (h : c.toNat < 0x20) :
    scanString opening (c :: rest) = .error (.malformed .controlCharacter (c :: rest)) := by
  have hquote : c ≠ '"' := by rintro rfl; revert h; decide
  simp [scanString, scanFrom, Item.of, hquote, h]

end StandIns

end GnuplotScript.Json
