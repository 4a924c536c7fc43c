import GnuplotScript.Proofs.Engine.Execution
import GnuplotScript.Proofs.Text.Literal

/-!
# The reported path

After a run the caller is told where the drawing is, from what the forms declare. The engine
has never seen the forms, only the script, in which the path stands as a literal. As long as
outputs are named by texts, both mean the same file.

## Main definitions

* `Form.OutputIsText` — forms that name no output but by a text
* `NamesOutput` — a fragment, and the path that the engine reads in it

## Main results

* `reported_path_is_named` — the path that is reported is the one that the script names
-/

namespace GnuplotScript

variable {forms front back : List Form} {values : List Value} {fragment p q : String}

/-- If the form is an assignment to the setting `output`, it has no value or a text as the
first. -/
def Form.OutputIsText (f : Form) : Prop :=
  ∀ values, f = .set "output" values → values = [] ∨ ∃ s rest, values = .text s :: rest

/-- A fragment names a path as the output: after the words of the assignment there is a literal,
and the engine reads the path in it, whatever follows. -/
def NamesOutput (fragment path : String) : Prop :=
  ∃ written after, fragment = "set output " ++ written ∧
    Text.Literal.read written.toList = some (path.toList, after)

/-- A fragment names one path at most. -/
theorem NamesOutput.unique (h : NamesOutput fragment p) (h' : NamesOutput fragment q) : p = q := by
  obtain ⟨written, after, rfl, hp⟩ := h
  obtain ⟨others, afterOthers, hsame, hq⟩ := h'
  have same : written = others := (String.append_right_inj _).1 hsame
  rw [same, hq] at hp
  have paths : q.toList = p.toList := (Prod.mk.inj (Option.some.inj hp)).1
  exact (String.toList_inj.1 paths).symm

section Halves

variable [Text.Halves]

/-- Between the words of the assignment and the rest of its values stands the first value. -/
theorem fragment_set_output (v : Value) (values : List Value) :
    ∃ rest, (Form.set "output" (v :: values)).fragment = "set output " ++ (v.render ++ rest) := by
  have words : "set " ++ "output" ++ " " = "set output " := rfl
  rw [Form.fragment_set, words]
  cases values with
  | nil => exact ⟨"", by simp⟩
  | cons next values =>
    refine ⟨" " ++ Text.join " " ((next :: values).map Value.render), ?_⟩
    simp only [List.map_cons, Text.join_cons_cons, String.append_assoc]

/-- An assignment of a text names it, whatever values come after it. -/
theorem namesOutput_text (s : String) (values : List Value) :
    NamesOutput (Form.set "output" (.text s :: values)).fragment s := by
  obtain ⟨rest, hrest⟩ := fragment_set_output (.text s) values
  refine ⟨_, rest.toList, hrest, ?_⟩
  rw [Value.render_text, String.toList_append, Text.Literal.read_quote]

/-- A script without a last path leaves the drawing with the engine. -/
theorem not_declaresPath
    (h : (∀ f ∈ forms, ¬ f.AssignsOutput) ∨
      ∃ front back, forms = front ++ .set "output" [] :: back ∧ ∀ f ∈ back, ¬ f.AssignsOutput)
    (path : String) : ¬ DeclaresPath forms path := by
  rw [← lastOutput_eq_some_iff]
  rcases h with silent | ⟨front, back, rfl, hback⟩
  · rw [lastOutput, foldl_outputAfter_of_none _ fun f hf =>
      Form.declaredOutput_eq_none_iff.2 (silent f hf)]
    exact (Option.some_ne_none path).symm
  · rw [lastOutput_of_last front hback]
    exact (Option.some_ne_none path).symm

namespace Workplace.Ends

variable {place : Workplace} {printed : Option String} {result : Except Fault Outcome}

/-- An engine that ended well leaves the drawing in the file that is declared. -/
theorem result_of_declares (h : place.Ends forms (.exited 0 printed) result)
    (declares : DeclaresPath forms p) : result = .ok (.outputPath p) := by
  cases h with
  | failed hstatus => exact absurd rfl hstatus
  | outputPath found =>
    rw [← lastOutput_eq_some_iff] at found declares
    rw [Option.some.inj (found.symm.trans declares)]
  | captured silent => exact absurd declares (silent p)

/-- If no file is declared, the drawing is what the engine printed. -/
theorem result_of_silent (h : place.Ends forms (.exited 0 printed) result)
    (silent : ∀ path, ¬ DeclaresPath forms path) :
    result = .ok (.captured (printed.getD "")) := by
  cases h with
  | failed hstatus => exact absurd rfl hstatus
  | outputPath found => exact absurd found (silent _)
  | captured _ => rfl

end Workplace.Ends

/-- The path that is reported is the one that the script names: where the last assignment to the
output has a value, the engine reads exactly one path in its fragment, and no other is reported.
Neither changes with the values after the first. Without such an assignment, what the engine
printed is reported. -/
theorem reported_path_is_named {place : Workplace} {options expressions : Datum} {call : Call}
    {printed : Option String} (hforms : Form.ofExpressions expressions = .ok forms)
    (htexts : ∀ f ∈ forms, f.OutputIsText)
    (hcall : (place.execute options expressions).calls = [call])
    (hexit : place.reply call = .exited 0 printed) :
    call.script = Text.join "\n" (forms.map Form.fragment) ∧
      (∀ front v values back, forms = front ++ .set "output" (v :: values) :: back →
        (∀ f ∈ back, ¬ f.AssignsOutput) →
          ∃ p, (∀ q, NamesOutput (Form.set "output" (v :: values)).fragment q ↔ q = p) ∧
            (place.execute options expressions).result = .ok (.outputPath p) ∧
            ∀ others, NamesOutput (Form.set "output" (v :: others)).fragment p ∧
              (Script.ofForms (front ++ .set "output" (v :: others) :: back)).outputPath =
                some p) ∧
      ((∀ f ∈ forms, ¬ f.AssignsOutput) ∨
          (∃ front back, forms = front ++ .set "output" [] :: back ∧
            ∀ f ∈ back, ¬ f.AssignsOutput) →
        (place.execute options expressions).result = .ok (.captured (printed.getD ""))) := by
  have made : call ∈ (place.execute options expressions).calls := by
    rw [hcall]
    exact List.mem_singleton_self call
  obtain ⟨parsed, hparsed, hcalled, -, hends⟩ := Workplace.exists_forms_of_call made
  obtain rfl := Except.ok.inj (hforms.symm.trans hparsed)
  rw [hexit] at hends
  have given : call.script = Text.join "\n" (forms.map Form.fragment) := by
    rw [hcalled]
    rfl
  refine ⟨given, fun front v values back hsplit hback => ?_, fun hnone => ?_⟩
  · have hmem : Form.set "output" (v :: values) ∈ forms :=
      hsplit ▸ List.mem_append_right front List.mem_cons_self
    obtain ⟨s, rest, hvalues⟩ := (htexts _ hmem _ rfl).resolve_left nofun
    obtain ⟨rfl, rfl⟩ := List.cons.inj hvalues
    have named := namesOutput_text s
    have declares : DeclaresPath forms s := ⟨front, .text s, _, back, hsplit, hback, rfl⟩
    have path : (place.execute options expressions).result = .ok (.outputPath s) :=
      hends.result_of_declares declares
    refine ⟨s, fun q => ⟨fun h => h.unique (named values), ?_⟩, path,
      fun others => ⟨named others, ?_⟩⟩
    · rintro rfl
      exact named values
    · exact lastOutput_of_last front hback
  · exact hends.result_of_silent (not_declaresPath hnone)

end Halves

/-- A place in which the engine ends well and prints a remark. -/
def remarkingPlace : Workplace :=
  ⟨"gnuplot", ⟨[]⟩, fun _ => .exited 0 (some "done")⟩

/-- Forms that first name one output and then another, with a quote and a line break in it and
with another value after it. -/
def renamingForms : List Form := [
  .set "output" [.text "first.png"], .reset,
  .set "output" [.text "a \"b\"\n\\.png", .bareword "extra"], .unset "key"]

theorem reported_path_is_named_renaming :
    let run := remarkingPlace.execute .null (.list (renamingForms.map .form))
    let script := Text.join "\n" (renamingForms.map Form.fragment)
    ∃ p, (∀ q, NamesOutput
        (Form.set "output" [.text "a \"b\"\n\\.png", .bareword "extra"]).fragment q ↔ q = p) ∧
      run.calls = [⟨"gnuplot", script⟩] ∧ run.result = .ok (.outputPath p) := by
  have texts : ∀ f ∈ renamingForms, f.OutputIsText := by
    simp only [renamingForms, List.forall_mem_cons]
    refine ⟨?_, ?_, ?_, ?_, nofun⟩
    · rintro values ⟨⟩
      exact .inr ⟨_, _, rfl⟩
    · rintro values ⟨⟩
    · rintro values ⟨⟩
      exact .inr ⟨_, _, rfl⟩
    · rintro values ⟨⟩
  have silent : ∀ f ∈ [Form.unset "key"], ¬ f.AssignsOutput := by
    rintro f hf ⟨values, rfl⟩
    cases List.mem_singleton.1 hf
  have parsed : Form.ofExpressions (.list (renamingForms.map .form)) = .ok renamingForms := rfl
  have called : (remarkingPlace.execute .null (.list (renamingForms.map .form))).calls =
      [⟨"gnuplot", Text.join "\n" (renamingForms.map Form.fragment)⟩] := rfl
  have named := (reported_path_is_named parsed texts called rfl).2.1
  obtain ⟨p, hp, hresult, -⟩ := named [_, _] _ _ _ rfl silent
  exact ⟨p, hp, called, hresult⟩

end GnuplotScript
