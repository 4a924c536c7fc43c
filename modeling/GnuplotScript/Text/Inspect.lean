import GnuplotScript.Text.Printable
import GnuplotScript.Text.Surrogate

/-!
# Text shown in messages

Messages show a text between quotation marks, with escapes for whatever would not be visible
as it stands. The mark is the apostrophe unless the text holds one and no double quote, so
that most texts need no escaped mark. A character that stands for half of a surrogate pair is
shown as that half. Octets are shown in the same way, with every octet outside ASCII written in
hexadecimal.

## Main definitions

* `Text.hexPadded` — a fixed number of hexadecimal digits
* `Text.inspect` — a text as messages show it
* `Text.inspectOctets` — a string of octets as messages show it
-/

namespace GnuplotScript.Text

/-- The hexadecimal digit of a number below sixteen, in lower case. -/
def hexDigit (n : Nat) : Char :=
  Char.ofNat (if n < 10 then 0x30 + n else 0x57 + n)

/-- The last digits of a number in base sixteen, as many as asked for. -/
def hexPadded : Nat → Nat → List Char
  | 0, _ => []
  | width + 1, n => hexPadded width (n / 16) ++ [hexDigit (n % 16)]

/-- The quotation mark around a text that holds the given characters. -/
def quotationMark (cs : List Char) : Char :=
  if cs.contains '\'' && !cs.contains '"' then '"' else '\''

/-- An escape that names a code point, in the shortest of the three widths that holds it. -/
def escapeCode (code : Nat) : List Char :=
  if code < 0x100 then '\\' :: 'x' :: hexPadded 2 code
  else if code < 0x10000 then '\\' :: 'u' :: hexPadded 4 code
  else '\\' :: 'U' :: hexPadded 8 code

section Halves

variable [Halves]

/-- The code that a character is shown with if it is not visible: its own, or that of the half of a
pair that it stands for. -/
def codePoint (c : Char) : Nat :=
  (half? c).getD c.toNat

/-- Whether a character is shown as it is. -/
def isVisible (c : Char) : Bool :=
  isPrintable c && (half? c).isNone

/-- A character between quotation marks of the given kind. -/
def inspectChar (mark c : Char) : List Char :=
  if c = mark || c = '\\' then ['\\', c]
  else if c = '\n' then ['\\', 'n']
  else if c = '\r' then ['\\', 'r']
  else if c = '\t' then ['\\', 't']
  else if isVisible c then [c]
  else escapeCode (codePoint c)

/-- Characters between quotation marks. -/
def inspectChars (cs : List Char) : List Char :=
  let mark := quotationMark cs
  mark :: cs.flatMap (inspectChar mark) ++ [mark]

/-- A text as messages show it. -/
def inspect (s : String) : String :=
  String.ofList (inspectChars s.toList)

end Halves

/-- A string of octets as messages show it: ASCII as text, all else in hexadecimal. -/
def inspectOctets (octets : List UInt8) : String :=
  let cs := octets.map fun octet => Char.ofNat octet.toNat
  let mark := quotationMark cs
  let shown := cs.flatMap fun c =>
    -- Octets are no characters, so none beyond ASCII counts as printable.
    if c.toNat < 0x7f then inspectChar mark c else escapeCode c.toNat
  String.ofList ('b' :: mark :: shown ++ [mark])

end GnuplotScript.Text
