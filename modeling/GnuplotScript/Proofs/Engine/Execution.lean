import GnuplotScript.Proofs.Datum.Writable
import GnuplotScript.Proofs.Engine.Options
import GnuplotScript.Proofs.Form.Output

/-!
# What an execution does

An execution reads the options, then all expressions in order, then writes the script of the forms,
and only then calls the engine, unless the script is only to be shown. So at most one call is made,
whatever goes wrong before it keeps it from being made, and the first thing that goes wrong is what
is reported.

## Main definitions

* `scriptText` — the text of the script of forms
* `RunOptions.Asks` — what the options of an execution ask for
* `Workplace.Ends` — what a reply of the engine to the script of forms amounts to
* `Workplace.Executes` — what is required of an execution

## Main results

* `exists_forms_of_call` — behind a call there are forms, and the reply decides the result
* `execute_executes` — every execution meets these requirements
-/

namespace GnuplotScript

section Halves

variable [Text.Halves]

/-- The fragments of forms, in order and each on a new line. -/
def scriptText (forms : List Form) : String :=
  Text.join "\n" (forms.map Form.fragment)

/-- What the options of an execution ask for. -/
structure RunOptions.Asks (options : Datum) : Prop where
  /-- Without options the engine is called. -/
  absent : options = .null → given options = .ok ⟨false⟩
  /-- Options that are given as such are kept. -/
  kept : ∀ dryRun, options = .options dryRun → given options = .ok ⟨dryRun.isTruthy⟩
  /-- Options that are given by name are read. -/
  named : ∀ pairs, options.GivesOptions pairs → Reads pairs (given options)

theorem RunOptions.asks (options : Datum) : Asks options where
  absent h := h ▸ rfl
  kept _ h := h ▸ rfl
  named _ h := h.given_eq ▸ reads_ofDatum h

namespace Workplace

/-- What a reply of the engine to the script of forms amounts to. -/
inductive Ends (place : Workplace) (forms : List Form) : Reply → Except Fault Outcome → Prop where
  /-- The engine failed, whatever path is declared. -/
  | failed {status : Int} {output : Option String} :
    status ≠ 0 →
      Ends place forms (.exited status output) (.ok (.failed (output.getD "") status))
  /-- The drawing is in the file that is declared. -/
  | outputPath {output : Option String} {path : String} :
    DeclaresPath forms path → Ends place forms (.exited 0 output) (.ok (.outputPath path))
  /-- The drawing is what the engine printed. -/
  | captured {output : Option String} :
    (∀ path, ¬ DeclaresPath forms path) →
      Ends place forms (.exited 0 output) (.ok (.captured (output.getD "")))
  /-- The engine is not there. -/
  | notFound {detail : String} :
    Ends place forms (.failed (.notFound detail)) (.error (.missingBinary place.binary detail))
  /-- The engine may not be started. -/
  | notPermitted {detail : String} :
    Ends place forms (.failed (.notPermitted detail))
      (.error (.missingBinary place.binary detail))
  /-- Any other failure is passed on. -/
  | system {detail : String} :
    Ends place forms (.failed (.system detail)) (.error (.launch (.system detail)))
  | invalid {detail : String} :
    Ends place forms (.failed (.invalid detail)) (.error (.launch (.invalid detail)))

/-- What is required of an execution with given options and expressions. -/
structure Executes (place : Workplace) (options : Datum) (expressions : List Datum)
    (run : Run Outcome) : Prop where
  /-- The options are those that are asked for. -/
  asks : RunOptions.Asks options
  /-- At most one call is made. -/
  calls_length_le : run.calls.length ≤ 1
  /-- A call is made exactly if the options ask for it and all expressions are of forms that can be
  written. -/
  calls_ne_nil_iff : run.calls ≠ [] ↔
    RunOptions.given options = .ok ⟨false⟩ ∧
      ∀ e ∈ expressions, ∃ f, Form.ofExpression e = .ok f ∧ f.isWritable = true
  /-- Bad options are reported, whatever the expressions are. -/
  bad_options : ∀ fault, RunOptions.given options = .error fault → run.result = .error fault
  /-- Under good options the first bad expression is reported. -/
  bad_expression : ∀ asked front bad back fault,
    RunOptions.given options = .ok asked → expressions = front ++ bad :: back →
      (∀ e ∈ front, ∃ f, Form.ofExpression e = .ok f) → Form.ofExpression bad = .error fault →
        run.result = .error fault
  /-- Forms of which one cannot be written are refused. -/
  unwritable : ∀ asked forms,
    RunOptions.given options = .ok asked →
      List.Forall₂ (fun e f => Form.ofExpression e = .ok f) expressions forms →
        (∃ f ∈ forms, f.isWritable = false) → run.result = .error .unwritable
  /-- In a dry run the text is shown. -/
  shows : ∀ forms,
    RunOptions.given options = .ok ⟨true⟩ →
      List.Forall₂ (fun e f => Form.ofExpression e = .ok f) expressions forms →
        (∀ f ∈ forms, f.isWritable = true) → run.result = .ok (.script (scriptText forms))
  /-- In any other run the same text is given to the engine, and its reply decides. -/
  calls : ∀ forms,
    RunOptions.given options = .ok ⟨false⟩ →
      List.Forall₂ (fun e f => Form.ofExpression e = .ok f) expressions forms →
        (∀ f ∈ forms, f.isWritable = true) → run.calls = [⟨place.binary, scriptText forms⟩] ∧
          place.Ends forms (place.reply ⟨place.binary, scriptText forms⟩) run.result

variable {place : Workplace} {options : Datum} {expressions : List Datum} {forms : List Form}
  {asked : RunOptions} {fault : Fault}

/-- An engine that ended well leaves the drawing where the forms declare. -/
theorem ends_of_exited (status : Int) (output : Option String) :
    place.Ends forms (.exited status output)
      (.ok (outcome (lastOutput forms) status output)) := by
  unfold outcome
  by_cases well : status = 0
  · rw [if_pos well, well]
    cases declared : lastOutput forms with
    | some path => exact .outputPath (lastOutput_eq_some_iff.1 declared)
    | none =>
      apply Ends.captured
      intro path h
      cases declared.symm.trans (lastOutput_eq_some_iff.2 h)
  · rw [if_neg well]
    exact .failed well

theorem runForms_of_dry (hforms : forms.all Form.isWritable = true) (h : asked.dryRun = true) :
    (place.runForms asked forms).calls = [] ∧
      (place.runForms asked forms).result = .ok (.script (scriptText forms)) := by
  rw [runForms_of_isWritable hforms, run_dry h]
  exact ⟨rfl, rfl⟩

theorem calls_runForms (hforms : forms.all Form.isWritable = true) (h : asked.dryRun = false) :
    (place.runForms asked forms).calls = [⟨place.binary, scriptText forms⟩] := by
  rw [runForms_of_isWritable hforms]
  exact calls_run h

theorem ends_runForms (hforms : forms.all Form.isWritable = true) (h : asked.dryRun = false) :
    place.Ends forms (place.reply ⟨place.binary, scriptText forms⟩)
      (place.runForms asked forms).result := by
  have script : (Script.ofForms forms).text = scriptText forms := rfl
  simp only [runForms_of_isWritable hforms, run, h, Bool.false_eq_true, if_false, script]
  cases place.reply ⟨place.binary, scriptText forms⟩ with
  | exited status output => exact ends_of_exited status output
  | failed failure =>
    cases failure with
    | notFound detail => exact .notFound
    | notPermitted detail => exact .notPermitted
    | system detail => exact .system
    | invalid detail => exact .invalid

theorem calls_runForms_ne_nil_iff : (place.runForms asked forms).calls ≠ [] ↔
    asked.dryRun = false ∧ ∀ f ∈ forms, f.isWritable = true := by
  rw [← List.all_eq_true]
  cases hforms : forms.all Form.isWritable with
  | false =>
    rw [runForms_of_not_isWritable hforms]
    exact iff_of_false (fun called => called rfl) nofun
  | true =>
    cases dry : asked.dryRun with
    | true =>
      rw [(runForms_of_dry hforms dry).1]
      exact iff_of_false (fun called => called rfl) nofun
    | false =>
      rw [calls_runForms hforms dry]
      exact iff_of_true nofun ⟨rfl, rfl⟩

/-- A run that calls the engine calls it once with the script, and the reply decides. -/
theorem ends_of_call_runForms {call : Call} (h : call ∈ (place.runForms asked forms).calls) :
    call = ⟨place.binary, scriptText forms⟩ ∧ (place.runForms asked forms).calls = [call] ∧
      place.Ends forms (place.reply call) (place.runForms asked forms).result := by
  obtain ⟨dry, hforms⟩ := calls_runForms_ne_nil_iff.1 (List.ne_nil_of_mem h)
  rw [← List.all_eq_true] at hforms
  rw [calls_runForms hforms dry, List.mem_singleton] at h
  rw [h]
  exact ⟨rfl, calls_runForms hforms dry, ends_runForms hforms dry⟩

theorem calls_runForms_length_le (place : Workplace) (asked : RunOptions) (forms : List Form) :
    (place.runForms asked forms).calls.length ≤ 1 := by
  cases hcalls : (place.runForms asked forms).calls with
  | nil => exact Nat.zero_le 1
  | cons call rest =>
    have called : call ∈ (place.runForms asked forms).calls := hcalls ▸ List.mem_cons_self
    rw [← hcalls, (ends_of_call_runForms called).2.1]
    exact Nat.le_refl 1

/-- Behind a call of the engine there are forms that were expressed. -/
theorem exists_forms_of_call {d : Datum} {call : Call}
    (h : call ∈ (place.execute options d).calls) :
    ∃ forms, Form.ofExpressions d = .ok forms ∧ call = ⟨place.binary, scriptText forms⟩ ∧
      (place.execute options d).calls = [call] ∧
        place.Ends forms (place.reply call) (place.execute options d).result := by
  cases hasked : RunOptions.given options with
  | error fault =>
    rw [execute_of_badOptions hasked] at h
    cases h
  | ok asked =>
    cases hforms : Form.ofExpressions d with
    | error fault =>
      rw [execute_of_badForms hasked hforms] at h
      cases h
    | ok forms =>
      rw [execute_of_forms hasked hforms] at h ⊢
      exact ⟨forms, rfl, ends_of_call_runForms h⟩

/-! ### Requirements -/

theorem executes_of_badOptions (h : RunOptions.given options = .error fault) :
    place.Executes options expressions (place.execute options (.list expressions)) := by
  rw [execute_of_badOptions h]
  exact
    { asks := RunOptions.asks options
      calls_length_le := Nat.zero_le 1
      calls_ne_nil_iff := iff_of_false (fun called => called rfl) fun called => by
        cases h.symm.trans called.1
      bad_options := fun other hother => congrArg _ (Except.error.inj (h.symm.trans hother))
      bad_expression := fun asked _ _ _ _ hasked => by cases h.symm.trans hasked
      unwritable := fun asked forms hasked => by cases h.symm.trans hasked
      shows := fun forms hasked => by cases h.symm.trans hasked
      calls := fun forms hasked => by cases h.symm.trans hasked }

theorem executes_of_badExpression (hasked : RunOptions.given options = .ok asked)
    (h : expressions.mapM Form.ofExpression = .error fault) :
    place.Executes options expressions (place.execute options (.list expressions)) := by
  obtain ⟨front, bad, back, _, rfl, hfront, hbad⟩ := mapM_eq_error_iff.1 h
  have unread : Form.ofExpressions (.list (front ++ bad :: back)) = .error fault := h
  rw [execute_of_badForms hasked unread]
  refine
    { asks := RunOptions.asks options
      calls_length_le := Nat.zero_le 1
      calls_ne_nil_iff := iff_of_false (fun called => called rfl) fun ⟨_, all⟩ => ?_
      bad_options := fun other hother => by cases hasked.symm.trans hother
      bad_expression := fun other otherFront otherBad otherBack otherFault _ split fine first => ?_
      unwritable := fun _ forms _ all => by cases h.symm.trans (mapM_eq_ok_iff.2 all)
      shows := fun forms _ all => by cases h.symm.trans (mapM_eq_ok_iff.2 all)
      calls := fun forms _ all => by cases h.symm.trans (mapM_eq_ok_iff.2 all) }
  · obtain ⟨f, hf, -⟩ := all bad (List.mem_append_right front List.mem_cons_self)
    cases hbad.symm.trans hf
  · -- Any bad expression with none before it is the one that ended the reading.
    obtain ⟨ys, hys⟩ := exists_mapM_eq_ok_iff.2 fine
    have same := mapM_eq_error_iff.2 ⟨otherFront, otherBad, otherBack, ys, rfl, hys, first⟩
    rw [← split] at same
    exact congrArg _ (Except.error.inj (h.symm.trans same))

theorem forall_exists_writable_iff (h : expressions.mapM Form.ofExpression = .ok forms) :
    (∀ e ∈ expressions, ∃ f, Form.ofExpression e = .ok f ∧ f.isWritable = true) ↔
      ∀ f ∈ forms, f.isWritable = true := by
  have read := mapM_eq_ok_iff.1 h
  constructor
  · intro all f hf
    obtain ⟨e, he, hread⟩ := exists_mem_of_forall₂ read hf
    obtain ⟨g, hg, written⟩ := all e he
    exact Except.ok.inj (hg.symm.trans hread) ▸ written
  · intro all e he
    obtain ⟨f, hf, hread⟩ := exists_mem_of_forall₂ read.flip he
    exact ⟨f, hread, all f hf⟩

theorem executes_of_forms (hasked : RunOptions.given options = .ok asked)
    (h : expressions.mapM Form.ofExpression = .ok forms) :
    place.Executes options expressions (place.execute options (.list expressions)) := by
  have given : ∀ dry, RunOptions.given options = .ok ⟨dry⟩ ↔ asked.dryRun = dry := by
    intro dry
    rw [hasked, Except.ok.injEq]
    exact ⟨congrArg RunOptions.dryRun, congrArg RunOptions.mk⟩
  have parsed : ∀ others,
      List.Forall₂ (fun e f => Form.ofExpression e = .ok f) expressions others → others = forms :=
    fun others hothers => Except.ok.inj ((mapM_eq_ok_iff.2 hothers).symm.trans h)
  have read : Form.ofExpressions (.list expressions) = .ok forms := h
  rw [execute_of_forms hasked read]
  refine
    { asks := RunOptions.asks options
      calls_length_le := calls_runForms_length_le place asked forms
      calls_ne_nil_iff := ?_
      bad_options := fun other hother => by cases hasked.symm.trans hother
      bad_expression := fun _ front bad back other _ split _ hbad => ?_
      unwritable := fun _ others _ hothers hidden => ?_
      shows := fun others hdry hothers written => ?_
      calls := fun others hreal hothers written => ?_ }
  · rw [given, forall_exists_writable_iff h]
    exact calls_runForms_ne_nil_iff
  · have member : bad ∈ expressions := split ▸ List.mem_append_right front List.mem_cons_self
    obtain ⟨f, hf⟩ := exists_mapM_eq_ok_iff.1 ⟨forms, h⟩ bad member
    cases hbad.symm.trans hf
  · obtain ⟨f, hf, hidden⟩ := hidden
    rw [parsed others hothers] at hf
    rw [runForms_of_not_isWritable (List.all_eq_false.2 ⟨f, hf, Bool.eq_false_iff.1 hidden⟩)]
    rfl
  · rw [parsed others hothers, ← List.all_eq_true] at written
    rw [parsed others hothers]
    exact (runForms_of_dry written ((given true).1 hdry)).2
  · rw [parsed others hothers, ← List.all_eq_true] at written
    rw [parsed others hothers]
    have real := (given false).1 hreal
    exact ⟨calls_runForms written real, ends_runForms written real⟩

/-- Every execution of a list of expressions meets the requirements. -/
theorem execute_executes (place : Workplace) (options : Datum) (expressions : List Datum) :
    place.Executes options expressions (place.execute options (.list expressions)) := by
  cases hasked : RunOptions.given options with
  | error fault => exact executes_of_badOptions hasked
  | ok asked =>
    cases h : expressions.mapM Form.ofExpression with
    | error fault => exact executes_of_badExpression hasked h
    | ok forms => exact executes_of_forms hasked h

end Workplace

end Halves

/-- An engine that ends well without a word. -/
def quietPlace : Workplace where
  engine := "gnuplot"
  files := ⟨[]⟩
  reply _ := .exited 0 none

/-- An assignment of a number with too many digits. -/
def overlongSet : Datum :=
  .list [.text "set", .text "x", .int Decimal.overlong]

/-- The assignment is an expression, but nothing is called for it. -/
theorem overlongSet_not_run :
    Form.ofExpression overlongSet = .ok (.set "x" [.other (.int Decimal.overlong)]) ∧
      (quietPlace.execute .null (.list [overlongSet])).calls = [] ∧
      (quietPlace.execute .null (.list [overlongSet])).result = .error .unwritable := by
  have parsed : Form.ofExpressions (.list [overlongSet]) =
      .ok [.set "x" [.other (.int Decimal.overlong)]] := rfl
  have hidden : [Form.set "x" [.other (.int Decimal.overlong)]].all Form.isWritable = false := by
    simp [Form.isWritable, Value.isWritable, Datum.isWritable, Decimal.not_isWritable_overlong]
  have given : RunOptions.given .null = .ok ⟨false⟩ := rfl
  rw [Workplace.execute_of_forms given parsed,
    Workplace.runForms_of_not_isWritable hidden]
  exact ⟨rfl, rfl, rfl⟩

end GnuplotScript
