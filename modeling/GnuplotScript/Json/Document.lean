import GnuplotScript.Datum.Equality
import GnuplotScript.Json.Numeral
import GnuplotScript.Json.StringLiteral

/-!
# JSON documents

A document is one value, with blanks around it. Objects are read as mappings in the order of
their members, a later member of the same name replacing the datum of the earlier one. Beside
the numbers of the grammar the names of the infinities and of the not-a-number are read.

## Main definitions

* `Json.value`, `Json.items`, `Json.members` — a value, and the inside of arrays and objects
* `Json.read` — the datum of a document
-/

namespace GnuplotScript.Json

/-- The blanks of JSON. -/
def isSpace (c : Char) : Bool :=
  c == ' ' || c == '\t' || c == '\n' || c == '\r'

/-- A text without the blanks before it. -/
def skipSpace (cs : List Char) : List Char :=
  cs.dropWhile isSpace

/-- The words that stand for data. -/
def words : List (String × Datum) := [
  ("null", .null), ("true", .bool true), ("false", .bool false), ("NaN", .float Binary64.nan),
  ("Infinity", .float (Binary64.infinity false)), ("-Infinity", .float (Binary64.infinity true))]

/-- The word or number at the start of a text, and what follows it. -/
def scalar (cs : List Char) : Except Stop (Datum × List Char) :=
  -- The words come first, since one of them begins with the sign of numbers.
  match words.find? fun (word, _) => word.toList.isPrefixOf cs with
  | some (word, d) => .ok (d, cs.drop word.length)
  | none =>
    match numeral? cs with
    | some (n, rest) => n.toDatum.map (·, rest)
    | none => .error (.malformed .expectingValue cs)

section StandIns

variable [Text.StandIns]

mutual

/-- The value at the start of a text, and what follows it. Between two characters that are
taken there are at most two steps, so twice the length of the text bounds the depth. -/
def value : Nat → List Char → Except Stop (Datum × List Char)
  | 0, cs => .error (.malformed .expectingValue cs)
  | depth + 1, cs =>
    match cs with
    | '"' :: rest => (scanString cs rest).map fun (s, after) => (.text (String.ofList s), after)
    | '[' :: rest =>
      match skipSpace rest with
      | ']' :: after => .ok (.list [], after)
      | body => (items depth body).map fun (ds, after) => (.list ds, after)
    | '\x7b' :: rest =>
      match skipSpace rest with
      | '\x7d' :: after => .ok (.mapping [], after)
      | body =>
        (members depth body).map fun (entries, after) => (.mapping (Datum.ofEntries entries), after)
    | _ => scalar cs

/-- The items of an array that has some, and what follows its bracket. -/
def items : Nat → List Char → Except Stop (List Datum × List Char)
  | 0, cs => .error (.malformed .expectingValue cs)
  | depth + 1, cs => do
    let (d, rest) ← value depth cs
    match skipSpace rest with
    | ']' :: after => return ([d], after)
    | ',' :: more =>
      let (ds, after) ← items depth (skipSpace more)
      return (d :: ds, after)
    | other => throw (.malformed .expectingComma other)

/-- The members of an object that has some, and what follows its brace. -/
def members : Nat → List Char → Except Stop (List (Datum × Datum) × List Char)
  | 0, cs => .error (.malformed .expectingName cs)
  | depth + 1, cs =>
    match cs with
    | '"' :: quoted => do
      let (name, rest) ← scanString cs quoted
      match skipSpace rest with
      | ':' :: more =>
        let (d, rest) ← value depth (skipSpace more)
        let entry := (Datum.text (String.ofList name), d)
        match skipSpace rest with
        | '\x7d' :: after => return ([entry], after)
        | ',' :: more =>
          let (entries, after) ← members depth (skipSpace more)
          return (entry :: entries, after)
        | other => throw (.malformed .expectingComma other)
      | other => throw (.malformed .expectingColon other)
    | _ => .error (.malformed .expectingName cs)

end

/-- The datum of a document, or where reading it stopped. -/
def document (cs : List Char) : Except Stop Datum :=
  match cs with
  | '\ufeff' :: _ => .error (.malformed .byteOrderMark cs)
  | _ => do
    -- More steps than the text can ask for.
    let (d, rest) ← value (2 * cs.length + 2) (skipSpace cs)
    match skipSpace rest with
    | [] => return d
    | extra => throw (.malformed .extraData extra)

/-- The datum of a document. -/
def read (cs : List Char) : Except Failure Datum :=
  (document cs).mapError (Stop.toFailure cs)

end StandIns

end GnuplotScript.Json
