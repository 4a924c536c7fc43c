/-!
# Blank characters

White space in the wide sense: the separators of every script together with the controls
that move the print position or separate records.

## Main definitions

* `Text.isBlank` — membership in the class
* `Text.isAsciiBlank` — the six members that layout of numerals allows among ASCII characters
* `Text.trim` — a text without the blanks at its two ends
-/

namespace GnuplotScript.Text

/-- The blank characters, as inclusive ranges of code points. -/
def blanks : List (Nat × Nat) := [
  (0x09, 0x0d), (0x1c, 0x20), (0x85, 0x85), (0xa0, 0xa0), (0x1680, 0x1680), (0x2000, 0x200a),
  (0x2028, 0x2029), (0x202f, 0x202f), (0x205f, 0x205f), (0x3000, 0x3000)]

/-- Whether a character is white space in the wide sense. -/
def isBlank (c : Char) : Bool :=
  blanks.any fun (first, last) => first ≤ c.toNat && c.toNat ≤ last

/-- The blanks among the ASCII characters that may surround a numeral: the record separators
are not among them. -/
def isAsciiBlank (c : Char) : Bool :=
  c == ' ' || (0x09 ≤ c.toNat && c.toNat ≤ 0x0d)

/-- Characters without those that satisfy the test at the two ends. -/
def trimEnds (test : Char → Bool) (cs : List Char) : List Char :=
  ((cs.dropWhile test).reverse.dropWhile test).reverse

/-- A text without the blanks at its two ends. -/
def trim (s : String) : String :=
  String.ofList (trimEnds isBlank s.toList)

end GnuplotScript.Text
