import GnuplotScript.Fault
import GnuplotScript.Text.UpperCase

/-!
# Settings

The program is configured by variables of its environment, each with a default.

## Main definitions

* `Settings` — the configuration
* `Settings.ofEnvironment` — the configuration that an environment gives
-/

namespace GnuplotScript

/-- The configuration: the engine or the directory it is in, the name of the log level, and
where the service listens. -/
structure Settings where
  engine : String
  logLevel : String
  host : String
  socket : Int
  deriving DecidableEq, Repr

/-- The configuration that an environment gives. The name of the log level is read without
regard to case. -/
def Settings.ofEnvironment (lookup : String → Option String) : Except Fault Settings :=
  match Decimal.readInteger ((lookup "SERVER_PORT").getD "8000") with
  | .error failure => .error (.integer failure)
  | .ok socket => .ok {
      engine := (lookup "GNUPLOT_PATH").getD "gnuplot"
      logLevel := Text.upperCase ((lookup "LOG_LEVEL").getD "WARNING")
      host := (lookup "SERVER_HOST").getD "127.0.0.1"
      socket }

end GnuplotScript
