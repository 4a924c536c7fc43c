import GnuplotScript.Engine.Run
import GnuplotScript.Proofs.Files.Path

/-!
# The engine in a directory

The engine may be configured by the directory that holds it. It is then called by a path with
the names of the directory, written without what leads nowhere, and the engine's own name after
them. A path is told from a command by its slashes, and there is one wherever a root or a step
to the directory is left. The working directory has neither if it is written with dots alone, so
that the engine is not called there but searched for like any command.

## Main results

* `calls_engine_in_directory` — the name that the engine is called by
* `working_directory_is_searched_for` — a directory whose engine is not the one that is called
-/

namespace GnuplotScript

namespace Workplace

variable {place : Workplace} {options : RunOptions}

theorem isName_gnuplot : Path.IsName "gnuplot" := by
  refine ⟨by decide, by decide⟩

theorem binary_of_directory (h : place.files.isDirectory place.engine = true) :
    place.binary = Path.child place.engine "gnuplot" :=
  if_pos h

theorem binary_of_not_directory (h : place.files.isDirectory place.engine = false) :
    place.binary = place.engine :=
  if_neg (Bool.eq_false_iff.1 h)

end Workplace

/-- The engine is called once, and by what is configured unless this names a directory. By a
directory the name is a path: it has the root and the steps of the directory and the engine's
own name after them, and it leads to the file of this name in the directory. There is a slash in
it exactly if the directory has a root or a step. -/
theorem calls_engine_in_directory (place : Workplace) {options : RunOptions}
    (h : options.dryRun = false) (script : Script) :
    ∃ binary, (place.run options script).calls = [⟨binary, script.text⟩] ∧
      (place.files.isDirectory place.engine = true →
        Path.root binary = Path.root place.engine ∧
          Path.names binary = Path.steps place.engine ++ ["gnuplot"] ∧
          (∃ directory, place.files.resolve place.engine = .ok directory ∧
            place.files.walk (.start binary) (Path.names binary) =
              .ok (directory.step "gnuplot")) ∧
          ('/' ∈ binary.toList ↔
            Path.isAbsolute place.engine = true ∨ Path.steps place.engine ≠ [])) ∧
      (place.files.isDirectory place.engine = false → binary = place.engine) := by
  refine ⟨place.binary, Workplace.calls_run h, fun directory => ?_,
    Workplace.binary_of_not_directory⟩
  have name := Workplace.isName_gnuplot
  have short : "gnuplot".utf8ByteSize ≤ 255 := by decide
  rw [Workplace.binary_of_directory directory]
  exact ⟨Path.root_child place.engine name, Path.names_child place.engine name,
    FileTree.walk_child directory name short, Path.slash_mem_child_iff place.engine name⟩

/-- A place where the engine is configured by a directory, along a way that goes through another
one and back. -/
def roundaboutPlace : Workplace where
  engine := "bin/.//../tools/"
  files := ⟨[(⟨some 0, ["bin"]⟩, .directory), (⟨some 0, ["tools"]⟩, .directory)]⟩
  reply _ := .exited 0 none

theorem calls_engine_in_tools :
    ∃ binary, (roundaboutPlace.run ⟨false⟩ ⟨"reset", none⟩).calls = [⟨binary, "reset"⟩] ∧
      Path.names binary = ["bin", "..", "tools", "gnuplot"] ∧ '/' ∈ binary.toList := by
  have directory : roundaboutPlace.files.isDirectory roundaboutPlace.engine = true := by decide
  have steps : Path.steps roundaboutPlace.engine = ["bin", "..", "tools"] := by decide
  obtain ⟨binary, hcalls, hinside, -⟩ :=
    calls_engine_in_directory roundaboutPlace rfl ⟨"reset", none⟩
  obtain ⟨-, hnames, -, hslash⟩ := hinside directory
  rw [steps] at hnames hslash
  exact ⟨binary, hcalls, hnames, hslash.2 (.inr nofun)⟩

/-- A place where the engine is configured by the working directory. -/
def dottedPlace : Workplace where
  engine := "."
  files := ⟨[]⟩
  reply _ := .exited 0 none

theorem working_directory_is_searched_for :
    dottedPlace.files.isDirectory dottedPlace.engine = true ∧
      (dottedPlace.run ⟨false⟩ ⟨"reset", none⟩).calls = [⟨"gnuplot", "reset"⟩] ∧
      '/' ∉ "gnuplot".toList := by
  refine ⟨by decide, by decide, by decide⟩

end GnuplotScript
