import GnuplotScript.Datum.Display
import GnuplotScript.Datum.Writable
import GnuplotScript.Files.Tree
import GnuplotScript.Json.Failure
import GnuplotScript.Text.Blank
import GnuplotScript.Text.Utf8

/-!
# Faults

Everything that keeps a script from being built, run or reported. A fault is given by its
cause; its message is computed from that, and its family decides how the command line and
the service answer.

## Main definitions

* `LaunchFailure` — why the plotting engine could not be started
* `Fault` — the causes
* `Fault.message` — what is said of a fault, where something is
* `Fault.Family`, `Fault.family` — who is to blame for a fault
* `Fault.unknownFormOf`, `Fault.malformedRowsOf`, `Fault.engineFailedOf` — the faults whose
  messages show what may be impossible to write
* `Fault.unknownOptionsOf` — the fault of option names, in order
* `ifWritable` — what is made of something that must be written for it
-/

namespace GnuplotScript

/-- Why the plotting engine could not be started, with what the system says about it. -/
inductive LaunchFailure where
  | notFound (detail : String)
  | notPermitted (detail : String)
  | system (detail : String)
  | invalid (detail : String)
  deriving DecidableEq, Repr

/-- What the system says about a failure to start the engine. -/
def LaunchFailure.detail : LaunchFailure → String
  | notFound detail => detail
  | notPermitted detail => detail
  | system detail => detail
  | invalid detail => detail

/-- What keeps a script from being built, run or reported. -/
inductive Fault where
  /-- A datum that is no form, or no expression of one. -/
  | unknownForm (head : Datum) (reason : String)
  /-- Options that are not known. -/
  | unknownOptions (names : List String)
  /-- The engine is not there. -/
  | missingBinary (binary detail : String)
  /-- The engine ended with a status other than zero. -/
  | engineFailed (output : String) (status : Option Int)
  /-- The name of a data block without its mark. -/
  | malformedReference (name : String)
  /-- Rows of a table that are neither lists nor tuples. -/
  | malformedRows (rows : Datum)
  /-- An element that is no pair where a mapping is built from pairs. -/
  | notPair (index length : Nat)
  /-- A datum of a type that an operation does not take. -/
  | wrongType
  /-- The engine could not be started for a reason other than its absence. -/
  | launch (failure : LaunchFailure)
  /-- A file that cannot be read or written. -/
  | file (path : String) (trouble : FileTree.Trouble)
  /-- A file that is not UTF-8. -/
  | encoding (failure : Text.Utf8.Failure)
  /-- A text that is not JSON. -/
  | json (failure : Json.Failure)
  /-- A text that is not an integer. -/
  | integer (failure : Decimal.ReadFailure)
  /-- A name that is no level of the log. -/
  | unknownLevel (name : String)
  /-- An integer with too many digits to be written. -/
  | unwritable
  /-- A text that the encoding of a file or of the standard output does not have. -/
  | unencodable (detail : String)

namespace Fault

/-- Who is to blame for a fault. -/
inductive Family where
  /-- The form that was asked for. -/
  | form
  /-- Some value that was given. -/
  | value
  /-- The type of something that was given. -/
  | type
  /-- The engine, which failed. -/
  | engine
  /-- The installation, in which the engine is missing. -/
  | installation
  /-- The operating system. -/
  | system
  deriving DecidableEq, Repr

/-- The family of a fault. -/
def family : Fault → Family
  | unknownForm _ _ => .form
  | unknownOptions _ => .value
  | missingBinary _ _ => .installation
  | engineFailed _ _ => .engine
  | malformedReference _ => .value
  | malformedRows _ => .type
  | notPair _ _ => .value
  | wrongType => .type
  -- A call that no process can be given is the fault of whoever asked for it.
  | launch (.invalid _) => .value
  | launch _ => .system
  | file _ .nullCharacter => .value
  | file _ _ => .system
  | encoding _ => .value
  | json _ => .value
  | integer _ => .value
  | unknownLevel _ => .value
  | unwritable => .value
  | unencodable _ => .value

/-- A message with a remark in parentheses, if there is one. -/
def withRemark (message remark : String) : String :=
  if remark = "" then message else message ++ " (" ++ remark ++ ")"

/-- What is said of the engine's failure: its output, or else its status. -/
def engineMessage (output status : String) : String :=
  -- An output of blanks says nothing.
  let shown := Text.trim output
  if shown = "" then "gnuplot exited with status " ++ status else shown

/-- The text of a status that may be absent. -/
def statusText : Option Int → String
  | some status => Decimal.integer status
  | none => "None"

/-- What is said of a fault. -/
def message [Text.Halves] : Fault → String
  | unknownForm head reason => withRemark ("Unknown form: " ++ head.inspect) reason
  | unknownOptions names => "Unknown run option(s): " ++ Text.join ", " names
  | missingBinary binary detail =>
    withRemark ("gnuplot binary '" ++ binary
      ++ "' not found. Install gnuplot and ensure it is on PATH.") detail
  | engineFailed output status => engineMessage output (statusText status)
  | malformedReference name =>
    "Data block reference must start with '$': " ++ Text.inspect name
  | malformedRows rows => "Table rows must be lists or tuples of cells: " ++ rows.inspect
  | notPair index length =>
    "dictionary update sequence element #" ++ toString index ++ " has length "
      ++ toString length ++ "; 2 is required"
  | wrongType => ""
  | launch failure => failure.detail
  | file path trouble => trouble.message path
  | encoding failure => failure.message
  | json failure => failure.message
  | integer failure => failure.message
  | unknownLevel name => "Unknown level: " ++ Text.inspect name
  | unwritable =>
    "Exceeds the limit (" ++ toString Decimal.maxDigits
      ++ " digits) for integer string conversion; "
      ++ "use sys.set_int_max_str_digits() to increase the limit"
  | unencodable detail => detail

/-- The fault of a datum that is no form. Its message shows the datum, which may be impossible. -/
def unknownFormOf (head : Datum) (reason : String) : Fault :=
  if head.isWritable then unknownForm head reason else unwritable

/-- The fault of rows of a table that are no lists. Its message shows the rows. -/
def malformedRowsOf (rows : Datum) : Fault :=
  if rows.isWritable then malformedRows rows else unwritable

/-- The fault of an engine that failed. Its message shows the status if the engine said nothing. -/
def engineFailedOf (output : String) (status : Int) : Fault :=
  if Text.trim output = "" ∧ Decimal.isWritable status = false then unwritable
  else engineFailed output (some status)

/-- The fault of option names: they are reported in the order of their code points. -/
def unknownOptionsOf (names : List String) : Fault :=
  unknownOptions (names.mergeSort fun a b => decide (a ≤ b))

end Fault

/-- What is made of something that must be written for it, if it can be. -/
def ifWritable {α : Type} (writable : Bool) (made : α) : Except Fault α :=
  if writable then .ok made else .error .unwritable

section

variable {α : Type} {writable : Bool} {made x : α} {fault : Fault}

@[simp] theorem ifWritable_true (made : α) : ifWritable true made = .ok made := rfl

@[simp] theorem ifWritable_false (made : α) : ifWritable false made = .error .unwritable := rfl

theorem ifWritable_eq_ok_iff : ifWritable writable made = .ok x ↔ writable = true ∧ made = x := by
  cases writable <;> simp

theorem ifWritable_eq_error_iff :
    ifWritable writable made = .error fault ↔ writable = false ∧ fault = .unwritable := by
  cases writable <;> simp [eq_comm]

theorem map_ifWritable {β : Type} (g : α → β) (writable : Bool) (made : α) :
    (ifWritable writable made).map g = ifWritable writable (g made) := by
  cases writable <;> rfl

/-- Several things are made if all that they are made of can be written. -/
theorem mapM_ifWritable {β : Type} (writable : β → Bool) (made : β → α) (xs : List β) :
    (xs.mapM fun x => ifWritable (writable x) (made x)) =
      ifWritable (xs.all writable) (xs.map made) := by
  induction xs with
  | nil => rfl
  | cons x rest ih =>
    rw [List.mapM_cons, ih]
    cases hx : writable x <;> cases hrest : rest.all writable <;>
      simp [hx, hrest, bind, Except.bind, pure, Except.pure]

end

end GnuplotScript
