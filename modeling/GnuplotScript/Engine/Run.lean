import GnuplotScript.Engine.Options
import GnuplotScript.Script

/-!
# Running the engine

A script is run by handing it to the plotting engine, whose output and exit status decide
the outcome; in a dry run the script itself is the outcome and the engine is not called. What
the engine does is a function from calls to replies, so that a run is a value: the calls made,
the records logged, and the outcome or fault.

## Main definitions

* `Call`, `Reply` — a call of the engine, and what comes of it
* `Record` — the lines of the log
* `Run` — what a computation that may call the engine does and gives
* `Workplace` — the engine's name, the files, and the engine itself
* `Outcome` — what a run of a script gives
* `Workplace.binary` — the name that the engine is called by
* `Workplace.run` — the run of a script

## Main results

* `run_dry` — a dry run makes no call
* `calls_run` — any other run makes exactly one
-/

namespace GnuplotScript

/-- A call of the engine: the name it is called by, and the script it is given. -/
structure Call where
  binary : String
  script : String
  deriving DecidableEq, Repr

/-- What comes of a call: an exit status with the output, if any was captured, or a failure
to start the engine. -/
inductive Reply where
  | exited (status : Int) (output : Option String)
  | failed (failure : LaunchFailure)
  deriving DecidableEq, Repr

/-- What is worth a line in the log. -/
inductive Record where
  | assembled (outputPath : Option String)
  | running (binary : String) (length : Nat)
  | dryRun (length : Nat)
  | exited (status : Int)
  deriving DecidableEq, Repr

/-- What a computation that may call the engine does and gives. -/
structure Run (α : Type) where
  calls : List Call
  log : List Record
  result : Except Fault α

/-- A computation that ends in a fault at once. -/
def Run.fault {α : Type} (fault : Fault) : Run α :=
  ⟨[], [], .error fault⟩

/-- Where scripts are run: the configured name of the engine, the files, and what the engine
does when it is called. -/
structure Workplace where
  engine : String
  files : FileTree
  reply : Call → Reply

/-- What a run of a script gives: the path of its output, the text that the engine printed,
the script itself, or the output and status of an engine that failed. -/
inductive Outcome where
  | outputPath (path : String)
  | captured (text : String)
  | script (text : String)
  | failed (text : String) (status : Int)
  deriving DecidableEq, Repr

namespace Workplace

/-- The name that the engine is called by: in a directory it is the file `gnuplot`. -/
def binary (place : Workplace) : String :=
  if place.files.isDirectory place.engine then Path.child place.engine "gnuplot"
  else place.engine

/-- The outcome of an engine that has ended. -/
def outcome (outputPath : Option String) (status : Int) (output : Option String) : Outcome :=
  if status = 0 then
    match outputPath with
    | some path => .outputPath path
    | none => .captured (output.getD "")
  else .failed (output.getD "") status

/-- The run of a script. -/
def run (place : Workplace) (options : RunOptions) (script : Script) : Run Outcome :=
  if options.dryRun then
    ⟨[], [.dryRun script.text.length], .ok (.script script.text)⟩
  else
    let call : Call := ⟨place.binary, script.text⟩
    -- The log tells of the call before its reply is known.
    let started : Record := .running call.binary script.text.length
    match place.reply call with
    | .failed (.notFound detail) =>
      ⟨[call], [started], .error (.missingBinary call.binary detail)⟩
    | .failed (.notPermitted detail) =>
      ⟨[call], [started], .error (.missingBinary call.binary detail)⟩
    | .failed failure => ⟨[call], [started], .error (.launch failure)⟩
    | .exited status output =>
      ⟨[call], started :: (if status = 0 then [] else [.exited status]),
        .ok (outcome script.outputPath status output)⟩

variable {place : Workplace} {options : RunOptions} {script : Script}

theorem run_dry (h : options.dryRun = true) :
    place.run options script =
      ⟨[], [.dryRun script.text.length], .ok (.script script.text)⟩ := by
  simp [run, h]

theorem calls_run (h : options.dryRun = false) :
    (place.run options script).calls = [⟨place.binary, script.text⟩] := by
  simp only [run, h, Bool.false_eq_true, if_false]
  split <;> rfl

end Workplace

end GnuplotScript
