import GnuplotScript.CommandLine.Program
import GnuplotScript.Settings

/-!
# Entry point

Reads the environment, the arguments and the files that they name, hands them to the program,
and carries out what it reports. No process is started from here: a script is prepared, shown
and written, and a run of the engine is reported as a missing engine.

## Main definitions

* `main` — the command
-/

namespace GnuplotScript.CommandLine

/-- The variables of the environment that the settings are read from. -/
def settingNames : List String := ["GNUPLOT_PATH", "LOG_LEVEL", "SERVER_HOST", "SERVER_PORT"]

/-- A tree with what there is at a path: a directory, a file, or nothing. -/
def survey (tree : FileTree) (path : String) : IO FileTree := do
  if ← ((← IO.currentDir) / path).isDir then
    return tree.addDirectory (.ofPath path)
  else
    match ← (IO.FS.readBinFile path).toBaseIO with
    | .ok content => return tree.addFile (.ofPath path) content.toList
    | .error _ => return tree

/-- The paths of the directories that a path leads through, and the path itself. -/
def stages (path : String) : List String :=
  let names := Path.names path
  (List.range names.length).map fun depth =>
    Path.root path ++ Text.join "/" (names.take (depth + 1))

/-- How the command reads its arguments. -/
def commandDialect : Dialect where
  keepsDashes := false
  toleratesLetters := false

/-- The paths that the arguments name. -/
def namedPaths (arguments : List String) : List String :=
  match Arguments.read commandDialect arguments with
  | .arguments asked => asked.input.toList ++ asked.scriptOut.toList
  | _ => []

/-- Carries out a report, and gives the exit code. -/
def Report.carryOut (report : Report) (before : FileTree) : IO UInt32 := do
  for (place, octets) in before.changes report.files do
    IO.FS.writeBinFile place.path ⟨octets.toArray⟩
  (← IO.getStdout).putStr report.output
  (← IO.getStderr).putStr report.errors
  match report.exit with
  | .ok code => return code.toUInt32
  | .error fault =>
    (← IO.getStderr).putStrLn fault.message
    return 1

end GnuplotScript.CommandLine

open GnuplotScript CommandLine in
/-- The command. -/
def main (arguments : List String) : IO UInt32 := do
  let environment ← settingNames.filterMapM fun name => do
    return (← IO.getEnv name).map fun value => (name, value)
  match Settings.ofEnvironment fun name => environment.lookup name with
  | .error fault =>
    (← IO.getStderr).putStrLn fault.message
    return 1
  | .ok settings =>
    let paths := settings.engine :: namedPaths arguments
    let files ← (paths.flatMap stages).foldlM survey ⟨[]⟩
    let input ← if paths.contains "-" then (← IO.getStdin).readBinToEnd else pure .empty
    -- The command shows and writes scripts, but starts no process.
    let unstartable : Call → Reply := fun _ => .failed (.notFound "no process is started")
    let place : Workplace := ⟨settings.engine, files, unstartable⟩
    let _ : Text.StandIns := .privateUse
    let invocation : Invocation :=
      ⟨place, settings.logLevel, commandDialect, input.toList, encodingConsole⟩
    (invocation.main arguments).carryOut files
