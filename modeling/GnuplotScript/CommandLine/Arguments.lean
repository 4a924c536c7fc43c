import GnuplotScript.Text.DecimalDigit
import GnuplotScript.Text.Inspect
import GnuplotScript.Text.Lines

/-!
# Arguments of the command line

Options may be shortened as long as they stay unambiguous, and a value follows its option or
stands after an equals sign. First every argument is classified, which is where an ambiguous
option is found; then options are taken one by one, and whatever is left over is reported at
the end. In two corners the releases of the library that reads arguments differ, and what is done
there is a dialect.

## Main definitions

* `Flag` — the options, and `Flag.spellings` — how they are written
* `Dialect` — what the releases of the reader do differently
* `Arguments` — what the arguments ask for
* `Token` — an argument, classified
* `Token.classifyAll` — the classes of all arguments
* `Reading` — what reading the arguments comes to
* `Arguments.read` — the reading of arguments
-/

namespace GnuplotScript.CommandLine

open Text (inspect join)

/-- The options of the program. -/
inductive Flag where
  | help
  | input
  | dryRun
  | scriptOut
  deriving DecidableEq, Repr

namespace Flag

/-- The spellings of the options, in the order in which they are looked up. -/
def spellings : List (String × Flag) := [
  ("-h", help), ("--help", help), ("--input", input), ("--dry-run", dryRun),
  ("--script-out", scriptOut)]

/-- How messages name an option. -/
def shown : Flag → String
  | help => "-h/--help"
  | input => "--input"
  | dryRun => "--dry-run"
  | scriptOut => "--script-out"

/-- A complaint about an option. -/
def complaint (flag : Flag) (message : String) : String :=
  "argument " ++ flag.shown ++ ": " ++ message

end Flag

/-- What the releases of the reader do differently: whether the mark that ends the options is kept
as the value of an option that is given it, and whether help is given although other letters follow
its own. -/
structure Dialect where
  keepsDashes : Bool
  toleratesLetters : Bool
  deriving DecidableEq, Repr

/-- What the arguments ask for: where the expressions are read from, a hyphen standing for the
standard input, whether the script is only shown, and where else it is written. -/
structure Arguments where
  input : Option String := some "-"
  dryRun : Bool := false
  scriptOut : Option String := none
  deriving DecidableEq, Repr

/-- An argument: a word, the mark that ends the options, an option with the value that is
part of the argument, an option of one letter with other characters right after it, or something
that looks like an option. -/
inductive Token where
  | word (text : String)
  | dashes
  | option (spelling : String) (flag : Flag) (value : Option String)
  | letters (flag : Flag) (after : List Char)
  | unknown (text : String)
  deriving DecidableEq, Repr

/-- The parts of a text around its first equals sign. -/
def splitEquals (cs : List Char) : Option (List Char × List Char) :=
  match cs.dropWhile (· ≠ '=') with
  | [] => none
  | _ :: after => some (cs.takeWhile (· ≠ '='), after)

/-- Whether an argument that begins with a hyphen is a negative number: digits, or a point
with digits after it and perhaps before it. A line feed at the end does not matter. -/
def isNegativeNumber (cs : List Char) : Bool :=
  let body := if cs.getLast? == some '\n' then cs.dropLast else cs
  match body with
  | '-' :: numeral =>
    match numeral.dropWhile Text.isDecimalDigit with
    | [] => !numeral.isEmpty
    | '.' :: places => !places.isEmpty && places.all Text.isDecimalDigit
    | _ => false
  | _ => false

/-- The options that an argument may be short for, with the values that it then gives them.
After a single hyphen the first letter is an option of its own. -/
def candidates (text : String) : List (String × Flag × Option String) :=
  match text.toList with
  | '-' :: '-' :: _ =>
    let (stem, value) := match splitEquals text.toList with
      | some (stem, value) => (stem, some (String.ofList value))
      | none => (text.toList, none)
    (Flag.spellings.filter fun (spelling, _) => stem.isPrefixOf spelling.toList).map
      fun (spelling, flag) => (spelling, flag, value)
  | cs =>
    Flag.spellings.filterMap fun (spelling, flag) =>
      -- The one letter is an option of its own, with the other characters as its value.
      if spelling.toList = cs.take 2 then
        some (spelling, flag, some (String.ofList (cs.drop 2)))
      else if cs.isPrefixOf spelling.toList then some (spelling, flag, none)
      else none

/-- The option whose spelling stands before the first equals sign of an argument. -/
def assigned? (text : String) : Option Token :=
  match splitEquals text.toList with
  | none => none
  | some (before, after) =>
    let spelling := String.ofList before
    -- A spelling before the equals sign must be in full; shortened ones are looked for later.
    (Flag.spellings.lookup spelling).map
      fun flag => .option spelling flag (some (String.ofList after))

namespace Token

/-- The class of an argument that begins with a hyphen and is no option in full. -/
def classifyAbbreviation (text : String) : Except String Token :=
  match candidates text with
  | [("-h", flag, some after)] => .ok (.letters flag after.toList)
  | [(spelling, flag, value)] => .ok (.option spelling flag value)
  | [] =>
    -- Nobody means an option by a negative number or by several words.
    if isNegativeNumber text.toList || text.toList.contains ' ' then .ok (.word text)
    else .ok (.unknown text)
  | several =>
    .error ("ambiguous option: " ++ text ++ " could match "
      ++ join ", " (several.map fun (spelling, _, _) => spelling))

/-- The class of an argument. -/
def classify (text : String) : Except String Token :=
  match text.toList with
  | '-' :: _ :: _ =>
    match Flag.spellings.lookup text with
    | some flag => .ok (.option text flag none)
    | none =>
      match assigned? text with
      | some token => .ok token
      | none => classifyAbbreviation text
  | _ => .ok (.word text)

/-- The classes of all arguments; after the mark that ends the options all are words. -/
def classifyAll : List String → Except String (List Token)
  | [] => .ok []
  | text :: rest =>
    if text = "--" then .ok (.dashes :: rest.map .word)
    else
      match classify text with
      | .error message => .error message
      | .ok token => (classifyAll rest).map (token :: ·)

end Token

/-- What reading the arguments comes to: what they ask for, a wish for help, or a misuse that
is explained. -/
inductive Reading where
  | arguments (asked : Arguments)
  | help
  | misuse (message : String)
  deriving DecidableEq, Repr

/-- The complaint about a value for an option that takes none. -/
def needlessValue (flag : Flag) (value : List Char) : Reading :=
  .misuse (flag.complaint ("ignored explicit argument " ++ inspect (String.ofList value)))

/-- Characters after the one-letter option for help: they must be that letter again, unless others
are tolerated. -/
def helpLetters (dialect : Dialect) : List Char → Reading
  | ['h'] => .help
  | 'h' :: rest => helpLetters dialect rest
  | other =>
    if dialect.toleratesLetters then
      match other with
      | '=' :: value => needlessValue .help value
      | '-' :: _ => needlessValue .help other
      | _ => .help
    else needlessValue .help other

/-- The wish for help, given with or without a value. -/
def readHelp (dialect : Dialect) (spelling : String) : Option String → Reading
  | none => .help
  | some value =>
    -- The older reader does not tell an equals sign from none here.
    if spelling = "-h" ∧ dialect.toleratesLetters = false then helpLetters dialect value.toList
    else needlessValue .help value.toList

namespace Arguments

/-- The arguments with the value of an option set. Where the mark that ends the options is not kept
as a value, an option given that is left without one. -/
def setValue (asked : Arguments) (dialect : Dialect) (flag : Flag) (value : String) : Arguments :=
  let value := if value = "--" ∧ dialect.keepsDashes = false then none else some value
  match flag with
  | .input => { asked with input := value }
  | .scriptOut => { asked with scriptOut := value }
  | _ => asked

/-- Takes options one by one; `left` holds what could not be used, the last first. -/
def take (dialect : Dialect) (asked : Arguments) (left : List String) : List Token → Reading
  | [] =>
    if left = [] then .arguments asked
    else .misuse ("unrecognized arguments: " ++ join " " left.reverse)
  | .word text :: rest => take dialect asked (text :: left) rest
  | .dashes :: rest => take dialect asked ("--" :: left) rest
  | .unknown text :: rest => take dialect asked (text :: left) rest
  -- Help is given at once, whatever is left over or still to come.
  | .option spelling .help value :: _ => readHelp dialect spelling value
  | .letters .help after :: _ => helpLetters dialect after
  | .letters flag after :: _ => needlessValue flag after
  | .option _ .dryRun none :: rest => take dialect { asked with dryRun := true } left rest
  | .option _ .dryRun (some value) :: _ => needlessValue .dryRun value.toList
  | .option _ flag (some value) :: rest =>
    take dialect (asked.setValue dialect flag value) left rest
  | .option _ flag none :: .word value :: rest =>
    take dialect (asked.setValue dialect flag value) left rest
  | .option _ flag none :: _ => .misuse (flag.complaint "expected one argument")

/-- The reading of arguments. -/
def read (dialect : Dialect) (texts : List String) : Reading :=
  match Token.classifyAll texts with
  | .error message => .misuse message
  | .ok tokens => take dialect {} [] tokens

@[simp] theorem read_nil (dialect : Dialect) : read dialect [] = .arguments {} := rfl

end Arguments

end GnuplotScript.CommandLine
