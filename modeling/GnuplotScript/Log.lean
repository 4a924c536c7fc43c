import GnuplotScript.Engine.Run

/-!
# The log

Records are written as lines with their level and the component that they come from. Lines
below the chosen level are left out, and so is a line that cannot be written.

## Main definitions

* `LogLevel` — the levels, and the names that choose them
* `Record.line` — the line of a record
* `LogLevel.lines` — what a log shows at a level
-/

namespace GnuplotScript

/-- The levels of the log, the least first. -/
inductive LogLevel where
  | all
  | debug
  | info
  | warning
  | error
  | critical
  deriving DecidableEq, Repr

namespace LogLevel

/-- The place of a level in their order. -/
def rank : LogLevel → Nat
  | all => 0
  | debug => 10
  | info => 20
  | warning => 30
  | error => 40
  | critical => 50

/-- The names that choose a level. -/
def names : List (String × LogLevel) := [
  ("CRITICAL", critical), ("FATAL", critical), ("ERROR", error), ("WARN", warning),
  ("WARNING", warning), ("INFO", info), ("DEBUG", debug), ("NOTSET", all)]

/-- The level that a name chooses. -/
def ofName? (name : String) : Option LogLevel :=
  names.lookup name

end LogLevel

namespace Record

/-- The level of a record: a failing engine is worth a warning. -/
def level : Record → LogLevel
  | exited _ => .warning
  | _ => .debug

/-- The line of a record. -/
def line : Record → String
  | assembled outputPath =>
    "DEBUG builder: Assembled script (output path: " ++ outputPath.getD "None" ++ ")"
  | running binary length =>
    "DEBUG backends.gnuplot_backend: Running " ++ binary ++ " on " ++ toString length
      ++ " chars of script"
  | dryRun length =>
    "DEBUG backends.gnuplot_backend: Dry run; gnuplot not invoked (" ++ toString length
      ++ " chars of script)"
  | exited status =>
    "WARNING backends.gnuplot_backend: gnuplot exited with status " ++ Decimal.integer status

end Record

/-- Whether a record can be written: the status that it tells of may have too many digits. -/
def Record.isWritable : Record → Bool
  | exited status => Decimal.isWritable status
  | _ => true

/-- What a log shows at a level, each line ended. -/
def LogLevel.lines (threshold : LogLevel) (log : List Record) : String :=
  Text.join "" ((log.filter fun record =>
      threshold.rank ≤ record.level.rank && record.isWritable).map
    fun record => record.line ++ "\n")

end GnuplotScript
