import GnuplotScript.Engine.Run
import GnuplotScript.Form.Expression

/-!
# Execution of forms

From data to the outcome: options and forms are read, and the script is assembled, before the
engine is called, so a fault in any of this never leaves a process behind.

## Main definitions

* `Workplace.runForms` — the run of the script of forms
* `Workplace.execute` — the run of forms given as data, with options given as a datum
* `Workplace.plot` — the same, with the text that the caller wants

## Main results

* `execute_of_badOptions`, `execute_of_badForms` — faults found before the engine is called
* `execute_of_forms` — otherwise the script of the forms is run
* `runForms_of_isWritable`, `runForms_of_not_isWritable` — what that comes to
-/

namespace GnuplotScript

/-- The options of a run that are given as options already, or else as a mapping. -/
def RunOptions.given : Datum → Except Fault RunOptions
  | .options dryRun => .ok ⟨dryRun.isTruthy⟩
  | d => RunOptions.ofDatum d

section Halves

variable [Text.Halves]

namespace Workplace

/-- The run of the script of forms, once it has been assembled. -/
def runForms (place : Workplace) (options : RunOptions) (forms : List Form) : Run Outcome :=
  match Script.assemble Form.render (forms.map .form) with
  | .error fault => .fault fault
  | .ok script =>
    let run := place.run options script
    { run with log := .assembled script.outputPath :: run.log }

/-- The run of forms given as data: options first, then the forms, then their script, and then the
engine. -/
def execute (place : Workplace) (options forms : Datum) : Run Outcome :=
  match RunOptions.given options with
  | .error fault => .fault fault
  | .ok options =>
    match Form.ofExpressions forms with
    | .error fault => .fault fault
    | .ok forms => place.runForms options forms

/-- The text that an outcome gives its caller; a failed engine is a fault. -/
def report : Outcome → Except Fault String
  | .outputPath path => .ok path
  | .captured text => .ok text
  | .script text => .ok text
  | .failed text status => .error (.engineFailedOf text status)

/-- The run of forms given as data, with the text for the caller. -/
def plot (place : Workplace) (options forms : Datum) : Run String :=
  let run := place.execute options forms
  ⟨run.calls, run.log, run.result.bind report⟩

variable {place : Workplace} {options forms : Datum}

theorem execute_of_badOptions {fault : Fault} (h : RunOptions.given options = .error fault) :
    place.execute options forms = .fault fault := by
  simp [execute, h]

theorem execute_of_badForms {fault : Fault} {run : RunOptions}
    (hoptions : RunOptions.given options = .ok run)
    (hforms : Form.ofExpressions forms = .error fault) :
    place.execute options forms = .fault fault := by
  simp [execute, hoptions, hforms]

theorem execute_of_forms {run : RunOptions} {parsed : List Form}
    (hoptions : RunOptions.given options = .ok run)
    (hforms : Form.ofExpressions forms = .ok parsed) :
    place.execute options forms = place.runForms run parsed := by
  simp [execute, hoptions, hforms]

theorem runForms_of_isWritable {run : RunOptions} {parsed : List Form}
    (h : parsed.all Form.isWritable = true) :
    place.runForms run parsed =
      { place.run run (Script.ofForms parsed) with
        log := .assembled (lastOutput parsed) :: (place.run run (Script.ofForms parsed)).log } := by
  simp [runForms, Script.assemble_render, h, Script.ofForms]

theorem runForms_of_not_isWritable {run : RunOptions} {parsed : List Form}
    (h : parsed.all Form.isWritable = false) : place.runForms run parsed = .fault .unwritable := by
  simp [runForms, Script.assemble_render, h]

/-- Data that express the same forms are run alike. -/
theorem plot_congr {others : Datum}
    (h : Form.ofExpressions forms = Form.ofExpressions others) :
    place.plot options forms = place.plot options others := by
  simp only [plot, execute, h]

end Workplace

end Halves

end GnuplotScript
