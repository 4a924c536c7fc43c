import GnuplotScript.Proofs.Surfaces

/-!
# Blame after a call

The service and the command line look at the family of a fault alone when they blame what they
were given, and not at whether the engine has been called. Faults of construction come before
any call, as do those of the arguments and of the input. But a call that is refused, since no
process can be given it, leaves a fault of the same family, and then the blame comes after it. On
the command line there is more to come after a call: what is said of a failure has to be written,
and a text that is returned has to be printed.

## Main definitions

* `Blames` — a result that is a fault of what was given
* `Workplace.Refused` — one call was made and refused
* `CommandLine.BlamesAfter` — the replies after which the command line blames what it was given
* `CommandLine.Invocation.Runs` — the forms that an invocation runs

## Main results

* `blames_after_call_iff` — when blame comes after a call, on either surface
-/

namespace GnuplotScript

open CommandLine

variable {α : Type} {place : Workplace} {asked : RunOptions} {forms : List Form}
  {result : Except Fault Outcome} {fault : Fault}

/-- A result is a fault in the expressions or in another value that was given. -/
def Blames (result : Except Fault α) : Prop :=
  ∃ fault, result = .error fault ∧ (fault.family = .form ∨ fault.family = .value)

theorem not_blames_ok {x : α} : ¬ Blames (.ok x : Except Fault α) := by
  rintro ⟨fault, hfault, -⟩
  cases hfault

theorem blames_error_iff :
    Blames (.error fault : Except Fault α) ↔ fault.family = .form ∨ fault.family = .value := by
  constructor
  · rintro ⟨other, hother, blame⟩
    obtain rfl := Except.error.inj hother
    exact blame
  · intro blame
    exact ⟨fault, rfl, blame⟩

/-- The failure of an engine is blamed on what was given only if there is nothing to explain it
with. -/
theorem Fault.family_engineFailedOf_iff {output : String} {status : Int} :
    (engineFailedOf output status).family = .form ∨
        (engineFailedOf output status).family = .value ↔
      Text.trim output = "" ∧ Decimal.isWritable status = false := by
  unfold engineFailedOf
  split
  next unexplained => exact iff_of_true (.inr rfl) unexplained
  next explained => exact iff_of_false nofun explained

/-- One call has been made, and it was refused as one that no process can be given. -/
def Workplace.Refused (place : Workplace) (calls : List Call) : Prop :=
  ∃ call detail, calls = [call] ∧ place.reply call = .failed (.invalid detail)

theorem Workplace.not_refused_nil : ¬ place.Refused [] := by
  rintro ⟨call, detail, hcalls, -⟩
  cases hcalls

section Halves

variable [Text.Halves]

namespace Workplace

/-! ### Runs of the engine -/

/-- Of all replies only the refusal of the call leaves the blame with what was given. -/
theorem Ends.blames_iff {reply : Reply} (h : place.Ends forms reply result) :
    Blames result ↔ ∃ detail, reply = .failed (.invalid detail) := by
  cases h with
  | failed _ => exact iff_of_false not_blames_ok nofun
  | outputPath _ => exact iff_of_false not_blames_ok nofun
  | captured _ => exact iff_of_false not_blames_ok nofun
  | notFound => simp [blames_error_iff, Fault.family]
  | notPermitted => simp [blames_error_iff, Fault.family]
  | system => simp [blames_error_iff, Fault.family]
  | invalid => exact iff_of_true ⟨_, rfl, .inr rfl⟩ ⟨_, rfl⟩

/-- A run that has one call at most, which the engine's reply decides, blames what was given
after the call exactly if the call was refused. -/
theorem blames_after_iff {calls : List Call}
    (h : ∀ call ∈ calls, ∃ forms, calls = [call] ∧ place.Ends forms (place.reply call) result) :
    Blames result ∧ calls ≠ [] ↔ place.Refused calls := by
  constructor
  · rintro ⟨blame, called⟩
    obtain ⟨call, hcall⟩ := List.exists_mem_of_ne_nil calls called
    obtain ⟨forms, single, hends⟩ := h call hcall
    obtain ⟨detail, hreply⟩ := hends.blames_iff.1 blame
    exact ⟨call, detail, single, hreply⟩
  · rintro ⟨call, detail, rfl, hreply⟩
    obtain ⟨forms, -, hends⟩ := h call (List.mem_singleton_self call)
    exact ⟨hends.blames_iff.2 ⟨detail, hreply⟩, List.cons_ne_nil call []⟩

theorem execute_blames_after_iff (options expressions : Datum) :
    Blames (place.execute options expressions).result ∧
        (place.execute options expressions).calls ≠ [] ↔
      place.Refused (place.execute options expressions).calls := by
  apply blames_after_iff
  intro call hcall
  obtain ⟨forms, -, -, single, hends⟩ := exists_forms_of_call hcall
  exact ⟨forms, single, hends⟩

end Workplace

/-! ### The service -/

/-- The service answers with the code for bad requests exactly if what was given is to blame. -/
theorem Answer.ofResult_badRequest_iff :
    (∃ answer, AnsweredWith (Answer.ofResult result) 400 answer) ↔ Blames result := by
  cases result with
  | ok outcome =>
    refine iff_of_false ?_ not_blames_ok
    rintro ⟨answer, hanswer, hstatus⟩
    obtain rfl := Except.ok.inj hanswer
    cases outcome <;> cases hstatus
  | error fault =>
    rw [blames_error_iff]
    simp only [AnsweredWith, ofResult, ofFault]
    cases hfamily : fault.family <;> simp [status]

theorem handle_blames_after_iff (place : Workplace) (request? : Datum → Option ScriptRequest)
    (body : Datum) :
    (∃ answer, AnsweredWith (place.handle request? body).result 400 answer) ∧
        (place.handle request? body).calls ≠ [] ↔
      place.Refused (place.handle request? body).calls := by
  unfold Workplace.handle
  cases request? body with
  | none => exact iff_of_false (fun h => h.2 rfl) Workplace.not_refused_nil
  | some request =>
    dsimp only
    rw [Workplace.result_serve, Answer.ofResult_badRequest_iff]
    exact Workplace.execute_blames_after_iff _ _

end Halves

/-! ### The command line -/

namespace CommandLine

/-- The replies of the engine to the script of forms after which the command line blames what it was
given. -/
inductive BlamesAfter [Text.Halves] (console : String → Option String) (forms : List Form) :
    Reply → Prop where
  /-- The call is refused. -/
  | refused {detail : String} : BlamesAfter console forms (.failed (.invalid detail))
  /-- The engine fails without a word, and its status cannot be written. -/
  | unexplained {output : Option String} {status : Int} :
    status ≠ 0 → Text.trim (output.getD "") = "" → Decimal.isWritable status = false →
      BlamesAfter console forms (.exited status output)
  /-- The engine ends well, and the standard output does not take what is returned: the path that
  the forms declare, or else what the engine printed. -/
  | unprintable {output : Option String} {detail : String} :
    console ((lastOutput forms).getD (output.getD "")) = some detail →
      BlamesAfter console forms (.exited 0 output)

section Replies

variable [Text.Halves] {console : String → Option String} {output : Option String} {status : Int}

theorem blamesAfter_failed_iff {failure : LaunchFailure} :
    BlamesAfter console forms (.failed failure) ↔ ∃ detail, failure = .invalid detail := by
  constructor
  · rintro ⟨⟩
    exact ⟨_, rfl⟩
  · rintro ⟨detail, rfl⟩
    exact .refused

theorem blamesAfter_exited_iff (h : status ≠ 0) :
    BlamesAfter console forms (.exited status output) ↔
      Text.trim (output.getD "") = "" ∧ Decimal.isWritable status = false := by
  constructor
  · intro blame
    cases blame with
    | unexplained _ silent hidden => exact ⟨silent, hidden⟩
    | unprintable _ => exact absurd rfl h
  · rintro ⟨silent, hidden⟩
    exact .unexplained h silent hidden

theorem blamesAfter_exited_zero_iff :
    BlamesAfter console forms (.exited 0 output) ↔
      ∃ detail, console ((lastOutput forms).getD (output.getD "")) = some detail := by
  constructor
  · intro blame
    cases blame with
    | unexplained failed _ _ => exact absurd rfl failed
    | unprintable refused => exact ⟨_, refused⟩
  · rintro ⟨detail, refused⟩
    exact .unprintable refused

end Replies

namespace Invocation

section StandIns

variable [Text.StandIns]

/-- The forms that an invocation with given arguments runs. -/
def Runs (i : Invocation) (arguments : List String) (forms : List Form) : Prop :=
  ∃ asked, Arguments.read i.dialect arguments = .arguments asked ∧
    i.loadForms asked.input = .ok forms

variable {i : Invocation} {level : LogLevel} {files : FileTree} {calls : List Call}
  {log : List Record} {called : Run String} {text logged : String}

theorem exit_failed_iff :
    (failed files calls logged fault).exit = .ok 2 ↔
      fault.family = .form ∨ fault.family = .value := by
  constructor
  · intro h
    unfold failed at h
    dsimp only at h
    split at h
    next => cases h
    next =>
      cases hfamily : fault.family <;> simp [hfamily] at h ⊢
  · intro h
    rw [failed_of_rejected h]

theorem exit_print_error_iff :
    (i.print level files ⟨calls, log, .error fault⟩).exit = .ok 2 ↔
      fault.family = .form ∨ fault.family = .value :=
  exit_failed_iff

/-- A text that is returned leads to blame exactly if the standard output does not take it. -/
theorem exit_print_ok_iff :
    (i.print level files ⟨calls, log, .ok text⟩).exit = .ok 2 ↔
      ∃ detail, i.console text = some detail := by
  cases taken : i.console text with
  | none =>
    rw [print_of_taken taken]
    exact iff_of_false nofun nofun
  | some detail =>
    rw [print_of_refused taken]
    exact iff_of_true (exit_failed_iff.2 (.inr rfl)) ⟨detail, rfl⟩

/-- The engine's reply decides whether what was given is blamed after it. -/
theorem exit_print_iff {reply : Reply} (h : place.Ends forms reply result) :
    (i.print level files ⟨calls, log, result.bind Workplace.report⟩).exit = .ok 2 ↔
      BlamesAfter i.console forms reply := by
  cases h with
  | failed hstatus =>
    rw [blamesAfter_exited_iff hstatus, ← Fault.family_engineFailedOf_iff]
    exact exit_print_error_iff
  | outputPath declares =>
    rw [blamesAfter_exited_zero_iff, lastOutput_eq_some_iff.2 declares]
    exact exit_print_ok_iff
  | captured silent =>
    rw [blamesAfter_exited_zero_iff, lastOutput_eq_none_iff.2 silent]
    exact exit_print_ok_iff
  | notFound =>
    rw [blamesAfter_failed_iff]
    exact iff_of_false (fun blame => absurd (exit_print_error_iff.1 blame) nofun) nofun
  | notPermitted =>
    rw [blamesAfter_failed_iff]
    exact iff_of_false (fun blame => absurd (exit_print_error_iff.1 blame) nofun) nofun
  | system =>
    rw [blamesAfter_failed_iff]
    exact iff_of_false (fun blame => absurd (exit_print_error_iff.1 blame) nofun) nofun
  | invalid =>
    rw [blamesAfter_failed_iff]
    exact iff_of_true (exit_print_error_iff.2 (.inr rfl)) ⟨_, rfl⟩

/-- Of the run of forms by an invocation: blame comes after a call exactly if the reply to it leads
there. -/
theorem runForms_blames_after_iff (i : Invocation) (level : LogLevel) (dryRun : Bool)
    (files : FileTree) (forms : List Form) :
    (i.runForms level dryRun files forms).exit = .ok 2 ∧
        (i.runForms level dryRun files forms).calls ≠ [] ↔
      ∃ call, (i.runForms level dryRun files forms).calls = [call] ∧
        BlamesAfter i.console forms (i.place.reply call) := by
  rw [runForms, calls_print, Workplace.plot_forms]
  dsimp only
  constructor
  · rintro ⟨code, called⟩
    obtain ⟨call, hcall⟩ := List.exists_mem_of_ne_nil _ called
    obtain ⟨-, single, hends⟩ := Workplace.ends_of_call_runForms hcall
    exact ⟨call, single, (exit_print_iff hends).1 code⟩
  · rintro ⟨call, single, blame⟩
    have hcall := single ▸ List.mem_singleton_self call
    obtain ⟨-, -, hends⟩ := Workplace.ends_of_call_runForms hcall
    exact ⟨(exit_print_iff hends).2 blame, List.ne_nil_of_mem hcall⟩

/-- An invocation runs one list of forms at most. -/
theorem Runs.unique {arguments : List String} {others : List Form} (h : i.Runs arguments forms)
    (h' : i.Runs arguments others) : forms = others := by
  obtain ⟨asked, hread, hload⟩ := h
  obtain ⟨asked', hread', hload'⟩ := h'
  obtain rfl := Reading.arguments.inj (hread.symm.trans hread')
  exact Except.ok.inj (hload.symm.trans hload')

/-- An invocation makes no call, or it is the run of the forms that it has loaded. -/
theorem main_cases (i : Invocation) (arguments : List String) :
    (i.main arguments).calls = [] ∨ ∃ forms level dryRun files, i.Runs arguments forms ∧
      i.main arguments = i.runForms level dryRun files forms := by
  unfold main
  split
  · exact .inl rfl
  · exact .inl rfl
  next asked hread =>
    unfold perform
    split
    · exact .inl rfl
    · split
      · exact .inl calls_failed
      next forms hload =>
        split
        · exact .inl calls_failed
        · exact .inr ⟨forms, _, _, _, ⟨asked, hread, hload⟩, rfl⟩

theorem main_blames_after_iff (i : Invocation) (arguments : List String) :
    (i.main arguments).exit = .ok 2 ∧ (i.main arguments).calls ≠ [] ↔
      ∃ forms call, i.Runs arguments forms ∧ (i.main arguments).calls = [call] ∧
        BlamesAfter i.console forms (i.place.reply call) := by
  rcases i.main_cases arguments with uncalled | ⟨forms, level, dryRun, files, hruns, hmain⟩
  · rw [uncalled]
    exact iff_of_false (fun h => h.2 rfl) nofun
  · rw [hmain, runForms_blames_after_iff]
    constructor
    · rintro ⟨call, single, blame⟩
      exact ⟨forms, call, hruns, single, blame⟩
    · rintro ⟨others, call, hothers, single, blame⟩
      exact ⟨call, single, hruns.unique hothers ▸ blame⟩

end StandIns

end Invocation

end CommandLine

/-! ### Both surfaces -/

/-- The service answers with the code for bad requests after a call exactly if it was a single call
that was refused. The command line ends with the code for bad input after a call exactly if it was
a single call that was refused, or that failed without a word and with a status of too many digits,
or that led to a text which the standard output does not take. So in all other cases this answer
and this exit say that nothing was called. -/
theorem blames_after_call_iff [Text.StandIns] (i : Invocation)
    (request? : Datum → Option ScriptRequest) (body : Datum) (arguments : List String) :
    let answered := i.place.handle request? body
    let report := i.main arguments
    ((∃ answer, AnsweredWith answered.result 400 answer) ∧ answered.calls ≠ [] ↔
        ∃ call detail, answered.calls = [call] ∧ i.place.reply call = .failed (.invalid detail)) ∧
      (report.exit = .ok 2 ∧ report.calls ≠ [] ↔
        ∃ forms call, i.Runs arguments forms ∧ report.calls = [call] ∧
          BlamesAfter i.console forms (i.place.reply call)) :=
  ⟨handle_blames_after_iff i.place request? body, i.main_blames_after_iff arguments⟩

/-- A place in which every call is refused. -/
def refusingPlace : Workplace where
  engine := "gnuplot"
  files := ⟨[]⟩
  reply _ := .failed (.invalid "embedded null byte")

theorem refused_reset_is_blamed :
    let _ : Text.StandIns := .privateUse
    let answered := refusingPlace.handle bareRequest? (requestBody [.list [.text "reset"]] false)
    let report := (invocationOn refusingPlace "[[\"reset\"]]").main []
    AnsweredWith answered.result 400 (.badRequest "embedded null byte") ∧
      answered.calls = [⟨"gnuplot", "reset"⟩] ∧
      report.exit = .ok 2 ∧ report.calls = [⟨"gnuplot", "reset"⟩] := by
  intro _ answered report
  have valid : LogLevel.ofName? "WARNING" = some .warning := by decide
  have printed : report = _ :=
    Invocation.main_eq_print valid (Arguments.read_nil _) rfl
      (invocationOn_loads read_resetDocument)
  refine ⟨⟨rfl, rfl⟩, rfl, ?_, ?_⟩
  · rw [printed]
    rfl
  · rw [printed, Invocation.calls_print]
    exact congrArg Run.calls (execute_dryRun refusingPlace false _)

end GnuplotScript
