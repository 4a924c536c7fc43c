import GnuplotScript.Text.Blank
import GnuplotScript.Text.DecimalDigit
import GnuplotScript.Text.Inspect

/-!
# Integer numerals

An integer is written with an optional sign and decimal digits of any script; single
underscores may stand between digits, and blanks around the whole. Reading a numeral takes
time that grows with the square of its length, so very long ones are refused.

## Main definitions

* `Decimal.maxDigits` — the greatest number of digits that is read
* `Decimal.ReadFailure` — why a text is not read as an integer
* `Decimal.ofDigits` — the value of digits
* `Decimal.readInteger` — the integer that a text denotes
-/

namespace GnuplotScript.Decimal

open Text (isBlank isAsciiBlank trimEnds digitValue?)

/-- The greatest number of digits that an integer numeral may have. -/
def maxDigits : Nat := 4300

/-- Why a text is not read as an integer: it is no numeral, or it has too many digits. -/
inductive ReadFailure where
  | malformed (text : String)
  | tooLong (digits : Nat)
  deriving DecidableEq, Repr

/-- What messages say; at most two hundred characters of a malformed text are shown. -/
def ReadFailure.message : ReadFailure → String
  | malformed text =>
    "invalid literal for int() with base 10: " ++
      String.ofList ((Text.inspectChars text.toList).take 200)
  | tooLong digits =>
    "Exceeds the limit (" ++ toString maxDigits ++ " digits) for integer string conversion: "
      ++ "value has " ++ toString digits
      ++ " digits; use sys.set_int_max_str_digits() to increase the limit"

/-- The value of digits, the first being the greatest. -/
def ofDigits (values : List Nat) : Nat :=
  values.foldl (fun sofar value => 10 * sofar + value) 0

/-- The digits at the start of the characters, skipping single underscores between digits,
and what follows them. An underscore that ends the digits or meets another one is an error. -/
def digitRun : List Char → Option (List Nat × List Char)
  | [] => some ([], [])
  | '_' :: c :: rest =>
    match digitValue? c with
    | some _ => digitRun (c :: rest)
    | none => none
  | ['_'] => none
  | c :: rest =>
    match digitValue? c with
    | some value => (digitRun rest).map fun (values, after) => (value :: values, after)
    | none => some ([], c :: rest)

/-- The sign before a numeral, and the numeral. -/
def splitSign : List Char → Bool × List Char
  | '-' :: rest => (true, rest)
  | '+' :: rest => (false, rest)
  | cs => (false, cs)

/-- An integer from its sign and the value of its digits. -/
def signed (negative : Bool) (value : Nat) : Int :=
  if negative then -(value : Int) else value

/-- The blanks around a numeral: in a text that is ASCII throughout the record separators
are not blank, and neither are they in other texts, whose further blanks all count. -/
def isOuterBlank (c : Char) : Bool :=
  if c.toNat < 0x80 then isAsciiBlank c else isBlank c

/-- The integer that a text denotes. -/
def readInteger (text : String) : Except ReadFailure Int :=
  let (negative, numeral) := splitSign (trimEnds isOuterBlank text.toList)
  match numeral with
  -- No digit stands before this underscore.
  | '_' :: _ => .error (.malformed text)
  | _ =>
    match digitRun numeral with
    | none => .error (.malformed text)
    | some (values, after) =>
      -- Too many digits are reported even where something else follows them.
      if values.length > maxDigits then .error (.tooLong values.length)
      else if values.isEmpty || !after.isEmpty then .error (.malformed text)
      else .ok (signed negative (ofDigits values))

end GnuplotScript.Decimal
