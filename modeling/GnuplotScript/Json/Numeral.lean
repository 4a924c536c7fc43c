import GnuplotScript.Datum.Basic
import GnuplotScript.Json.Failure

/-!
# JSON numbers

A number has a whole part without needless zeros, and may have a fraction and an exponent.
With either of these it is a floating-point number, without them an integer. What follows a
complete number is not looked at: a point without digits is no part of the number before it.

## Main definitions

* `Json.Numeral` — the parts of a number
* `Json.numeral?` — the number at the start of a text, and what follows it
* `Json.Numeral.toDatum` — the number denoted
-/

namespace GnuplotScript.Json

/-- The parts of a number: the sign, the digits before and after the point, and the exponent
where there is one. -/
structure Numeral where
  negative : Bool
  whole : List Char
  fraction : List Char
  exponent : Option Int

/-- Whether a character is an ASCII digit. -/
def isDigit (c : Char) : Bool :=
  '0' ≤ c && c ≤ '9'

/-- The value of a string of ASCII digits. -/
def digitsValue (ds : List Char) : Nat :=
  Decimal.ofDigits (ds.map fun d => d.toNat - 0x30)

/-- The digits at the start of a text, and what follows them. -/
def spanDigits (cs : List Char) : List Char × List Char :=
  (cs.takeWhile isDigit, cs.dropWhile isDigit)

/-- The whole part at the start of a text: a zero, or digits of which the first is none. -/
def whole? : List Char → Option (List Char × List Char)
  -- After a zero no digit belongs to the number.
  | '0' :: rest => some (['0'], rest)
  | cs =>
    match spanDigits cs with
    | ([], _) => none
    | parts => some parts

/-- The digits after a point, and what follows them; a point alone is left. -/
def splitFraction : List Char → List Char × List Char
  | '.' :: rest =>
    match spanDigits rest with
    | ([], _) => ([], '.' :: rest)
    | parts => parts
  | cs => ([], cs)

/-- The exponent at the start of a text, and what follows it; an incomplete one is left. -/
def splitExponent (cs : List Char) : Option Int × List Char :=
  match cs with
  | mark :: rest =>
    if mark = 'e' ∨ mark = 'E' then
      let (negative, unsigned) := Decimal.splitSign rest
      match spanDigits unsigned with
      | ([], _) => (none, cs)
      | (ds, after) => (some (Decimal.signed negative (digitsValue ds)), after)
    else (none, cs)
  | [] => (none, cs)

/-- The number at the start of a text, and what follows it. -/
def numeral? (cs : List Char) : Option (Numeral × List Char) :=
  let (negative, unsigned) := match cs with
    | '-' :: rest => (true, rest)
    | _ => (false, cs)
  (whole? unsigned).map fun (whole, rest) =>
    let (fraction, rest) := splitFraction rest
    let (exponent, rest) := splitExponent rest
    (⟨negative, whole, fraction, exponent⟩, rest)

/-- The number that the parts denote. -/
def Numeral.toDatum (n : Numeral) : Except Stop Datum :=
  -- A point or an exponent makes the number a floating-point one.
  if n.fraction.isEmpty && n.exponent.isNone then
    if n.whole.length > Decimal.maxDigits then .error (.tooLong n.whole.length)
    else .ok (.int (Decimal.signed n.negative (digitsValue n.whole)))
  else
    .ok (.float (Binary64.ofDecimal n.negative (digitsValue (n.whole ++ n.fraction))
      (n.exponent.getD 0 - n.fraction.length)))

end GnuplotScript.Json
