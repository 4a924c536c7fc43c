import GnuplotScript.Decimal.Integer

/-!
# Failures of reading JSON

A failure of form names what was expected and where: the place is counted in characters from
the start of the text, and in lines and columns that count from one. While reading goes on a
place is known by what follows it.

## Main definitions

* `Json.Cause` — what is wrong with a text
* `Json.Stop` — why reading stopped, at a place given by the characters after it
* `Json.Failure` — why a text is refused, at a place given by its numbers
* `Json.Stop.toFailure` — the numbers of a place
-/

namespace GnuplotScript.Json

/-- What is wrong with a text that is not JSON. -/
inductive Cause where
  | expectingValue
  | expectingName
  | expectingColon
  | expectingComma
  | extraData
  | unterminatedString
  | controlCharacter
  | escape
  | unicodeEscape
  | byteOrderMark
  deriving DecidableEq, Repr

/-- What messages say of a cause. -/
def Cause.message : Cause → String
  | expectingValue => "Expecting value"
  | expectingName => "Expecting property name enclosed in double quotes"
  | expectingColon => "Expecting ':' delimiter"
  | expectingComma => "Expecting ',' delimiter"
  | extraData => "Extra data"
  | unterminatedString => "Unterminated string starting at"
  | controlCharacter => "Invalid control character at"
  | escape => "Invalid \\escape"
  | unicodeEscape => "Invalid \\uXXXX escape"
  | byteOrderMark => "Unexpected UTF-8 BOM (decode using utf-8-sig)"

/-- Why reading stopped: a cause with the characters from the place on, or an integer with
too many digits. -/
inductive Stop where
  | malformed (cause : Cause) (rest : List Char)
  | tooLong (digits : Nat)
  deriving DecidableEq, Repr

/-- Why a text is refused. -/
inductive Failure where
  | malformed (cause : Cause) (line column position : Nat)
  | tooLong (digits : Nat)
  deriving DecidableEq, Repr

/-- What messages say of a failure. -/
def Failure.message : Failure → String
  | malformed cause line column position =>
    cause.message ++ ": line " ++ toString line ++ " column " ++ toString column
      ++ " (char " ++ toString position ++ ")"
  | tooLong digits => (Decimal.ReadFailure.tooLong digits).message

/-- The column after characters that lie before it, counted from the last line feed. -/
def column (before : List Char) : Nat :=
  (before.reverse.takeWhile (· ≠ '\n')).length + 1

/-- The failure of reading a text that stopped at a place in it. -/
def Stop.toFailure (text : List Char) : Stop → Failure
  | malformed cause rest =>
    let position := text.length - rest.length
    let before := text.take position
    .malformed cause (before.count '\n' + 1) (column before) position
  | tooLong digits => .tooLong digits

end GnuplotScript.Json
