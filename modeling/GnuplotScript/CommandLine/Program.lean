import GnuplotScript.CommandLine.Arguments
import GnuplotScript.Engine.Execution
import GnuplotScript.Json.Document
import GnuplotScript.Log

/-!
# The program

From the arguments and the input to the exit code and what is printed. Everything is read
before anything is written: a fault in the input leaves no file and no process behind. The
script is written to its own file before the engine is called, and that file is empty from the
moment it is opened until the script has been assembled and encoded. A text that the standard
output does not take is a fault as well, after everything else has been done.

## Main definitions

* `Report` — what an invocation of the program leaves
* `Invocation` — an invocation of the program
* `encodingConsole` — the standard output that takes what can be encoded
* `Invocation.loadForms` — the forms of the input
* `Invocation.main` — the whole program
-/

namespace GnuplotScript.CommandLine

/-- The usage line. -/
def usage : String :=
  "usage: cli.py [-h] [--input INPUT] [--dry-run] [--script-out SCRIPT_OUT]\n"

/-- The lines of the help text after the usage line. -/
def helpLines : List String := [
  "",
  "Build (and optionally run) a gnuplot script from a JSON file of form",
  "expressions.",
  "",
  "options:",
  "  -h, --help            show this help message and exit",
  "  --input INPUT         JSON array of form expressions ('-' for stdin)",
  "  --dry-run             print the script without running gnuplot",
  "  --script-out SCRIPT_OUT",
  "                        also write the assembled script here"]

/-- The help text. -/
def help : String :=
  usage ++ Text.join "" (helpLines.map (· ++ "\n"))

/-- What an invocation leaves: the exit code or a fault that ended the program, what it
printed on both channels, the calls of the engine, and the files. -/
structure Report where
  exit : Except Fault Nat
  output : String
  errors : String
  calls : List Call
  files : FileTree

/-- An invocation: where it runs, the name of the log level, how arguments are read, the octets of
the standard input, and what the standard output says to a text that it does not take. -/
structure Invocation where
  place : Workplace
  logLevel : String
  dialect : Dialect
  input : List UInt8
  console : String → Option String

/-- A text with a line feed at its end. -/
def withLineEnd (s : String) : String :=
  if s.toList.getLast? = some '\n' then s else s ++ "\n"

/-- The characters of octets that are text. -/
def decodeText (octets : List UInt8) : Except Fault (List Char) :=
  (Text.Utf8.decode octets).mapError .encoding

/-- The content of a file. -/
def readFile (files : FileTree) (path : String) : Except Fault (List UInt8) :=
  (files.read path).mapError (.file path)

/-- The standard output that takes what can be encoded, and says what rules out another text. -/
def encodingConsole [Text.Halves] (text : String) : Option String :=
  (Text.Utf8.unencodable? text).map Text.Utf8.Unencodable.message

section StandIns

variable [Text.StandIns]

/-- The forms that a JSON text holds. -/
def formsOfJson (cs : List Char) : Except Fault (List Form) :=
  match Json.read (Text.normalizeBreaks cs) with
  | .error failure => .error (.json failure)
  | .ok (.list expressions) => Form.ofExpressions (.list expressions)
  | .ok d => .error (.unknownFormOf d "input must be a JSON array of form expressions")

/-- The forms that octets hold. -/
def formsOfOctets (octets : List UInt8) : Except Fault (List Form) :=
  (decodeText octets).bind formsOfJson

/-- The octets of the file of a script. -/
def scriptOctets (forms : List Form) : Except Fault (List UInt8) :=
  match Script.assemble Form.render (forms.map .form) with
  | .error fault => .error fault
  | .ok script =>
    (Text.Utf8.encodeStrict (script.text ++ "\n")).mapError (.unencodable ·.message)

namespace Invocation

/-- The forms of the input: of the named file, or of the standard input. Without a name there
is nothing that could be opened. -/
def loadForms (i : Invocation) : Option String → Except Fault (List Form)
  | none => .error .wrongType
  | some path =>
    if path = "-" then formsOfOctets i.input
    else (readFile i.place.files path).bind formsOfOctets

/-- Writes the script to the file asked for, if any: the files after that, and the fault that kept
the script from being written. A file that is opened is empty before the script is assembled. -/
def writeScript (i : Invocation) (scriptOut : Option String) (forms : List Form) :
    FileTree × Option Fault :=
  match scriptOut with
  | none => (i.place.files, none)
  -- An empty name asks for no file.
  | some "" => (i.place.files, none)
  | some path =>
    match i.place.files.opened path with
    | .error trouble => (i.place.files, some (.file path trouble))
    | .ok place =>
      let emptied := i.place.files.insert place (.file [])
      match scriptOctets forms with
      | .error fault => (emptied, some fault)
      | .ok octets => (emptied.insert place (.file octets), none)

/-- What is left when a fault ends the invocation, after the given lines of the log. -/
def failed (files : FileTree) (calls : List Call) (logged : String) (fault : Fault) : Report :=
  let stop (code : Nat) (said : String) : Report := ⟨.ok code, "", logged ++ said, calls, files⟩
  let complaint := "error: " ++ fault.message ++ "\n"
  match fault with
  -- What the engine printed speaks for itself.
  | .engineFailed output _ => stop 1 (withLineEnd output)
  | _ =>
    match fault.family with
    | .form => stop 2 complaint
    | .value => stop 2 complaint
    | .engine => stop 1 complaint
    | .installation => stop 1 complaint
    -- Nothing explains these faults to the user; they end the program.
    | .type => ⟨.error fault, "", logged, calls, files⟩
    | .system => ⟨.error fault, "", logged, calls, files⟩

/-- Prints what a call of the library has returned, or says what its fault is. -/
def print (i : Invocation) (level : LogLevel) (files : FileTree) (called : Run String) : Report :=
  let logged := level.lines called.log
  match called.result with
  | .error fault => failed files called.calls logged fault
  | .ok text =>
    match i.console text with
    | some detail => failed files called.calls logged (.unencodable detail)
    | none => ⟨.ok 0, text ++ "\n", logged, called.calls, files⟩

/-- The run of forms by a call of the library, which reads and assembles them once more. -/
def runForms (i : Invocation) (level : LogLevel) (dryRun : Bool) (files : FileTree)
    (forms : List Form) : Report :=
  i.print level files ({ i.place with files }.plot
    (.mapping [(.text RunOptions.dryRunName, .bool dryRun)]) (.list (forms.map .form)))

/-- The program, once its arguments are read. -/
def perform (i : Invocation) (asked : Arguments) : Report :=
  match LogLevel.ofName? i.logLevel with
  | none => ⟨.error (.unknownLevel i.logLevel), "", "", [], i.place.files⟩
  | some level =>
    match i.loadForms asked.input with
    | .error fault => failed i.place.files [] "" fault
    | .ok forms =>
      match i.writeScript asked.scriptOut forms with
      | (files, some fault) => failed files [] "" fault
      | (files, none) => i.runForms level asked.dryRun files forms

/-- The program. -/
def main (i : Invocation) (arguments : List String) : Report :=
  match Arguments.read i.dialect arguments with
  | .help => ⟨.ok 0, help, "", [], i.place.files⟩
  | .misuse message =>
    ⟨.ok 2, "", usage ++ "cli.py: error: " ++ message ++ "\n", [], i.place.files⟩
  | .arguments asked => i.perform asked

end Invocation

end StandIns

end GnuplotScript.CommandLine
