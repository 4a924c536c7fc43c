import GnuplotScript.CommandLine.Program
import GnuplotScript.Proofs.Engine.Execution
import GnuplotScript.Proofs.Form.Grammar
import GnuplotScript.Proofs.Text.Utf8
import GnuplotScript.Service

/-!
# The surfaces of the program

The same expressions may be given to the library, to the service and to the command line. All
three carry out one execution, each with its own way of saying what came of it. Only the command
line also has to print what came of it, and blames what it was given if that fails.

## Main definitions

* `Ending` — the ways in which expressions given to any surface can end
* `Ending.InCall`, `Ending.InAnswer`, `Ending.InReport` — how each surface says so
* `Ending.Concludes` — how an execution ends
* `CommandLine.Invocation.Loads` — the data that an invocation reads
* `FindsRequests` — frameworks that find requests in bodies

## Main results

* `surfaces_agree` — all surfaces make the same calls and say the same ending
* `surfaces_differ_loneHalf` — an ending that the command line cannot print
-/

namespace GnuplotScript

open CommandLine

/-- The ways in which expressions can end: a text is returned, the engine fails, it fails without a
word and with a status of too many digits, the engine is missing, the expressions are rejected, or
the system breaks the run off. -/
inductive Ending where
  | returned (text : String)
  | engineFailed (output : String) (status : Int)
  | unexplained (output : String) (status : Int)
  | missing (message : String)
  | rejected (message : String)
  | brokenOff (detail : String)

/-- A report of an error: what is said of it stands behind the lines of the log. -/
def CommandLine.Report.Complains (report : Report) (code : Nat) (logged message : String) : Prop :=
  report.exit = .ok code ∧ report.output = "" ∧
    report.errors = logged ++ ("error: " ++ message ++ "\n")

/-- The body of a request. -/
def requestBody (expressions : List Datum) (dryRun : Bool) : Datum :=
  .mapping [(.text "forms", .list expressions), (.text "dry_run", .bool dryRun)]

/-- A framework that finds requests in the bodies that hold their parts by name. -/
def FindsRequests (request? : Datum → Option ScriptRequest) : Prop :=
  ∀ expressions dryRun, request? (requestBody expressions dryRun) = some ⟨expressions, dryRun⟩

theorem given_dryRun (dryRun : Bool) :
    RunOptions.given (.mapping [(.text RunOptions.dryRunName, .bool dryRun)]) = .ok ⟨dryRun⟩ :=
  RunOptions.ofDatum_dryRun (.bool dryRun)

namespace Fault

/-- A failure is explained by what the engine said, or else by its status. -/
theorem engineFailedOf_of_explained {output : String} {status : Int}
    (h : Text.trim output ≠ "" ∨ Decimal.isWritable status = true) :
    engineFailedOf output status = engineFailed output (some status) := by
  apply if_neg
  rintro ⟨silent, hidden⟩
  rcases h with said | written
  · exact said silent
  · exact absurd (written.symm.trans hidden) nofun

theorem IsOfReading.family_eq {d : Datum} {fault : Fault} (h : fault.IsOfReading d) :
    fault.family = .form ∨ fault.family = .value := by
  rcases h with (⟨head, reason, rfl⟩ | ⟨name, -, rfl⟩) | ⟨-, rfl⟩
  · exact .inl rfl
  · exact .inr rfl
  · exact .inr rfl

end Fault

section Halves

variable [Text.Halves]

/-- Expressions of forms that declare a path. -/
def DeclarePath (expressions : List Datum) : Prop :=
  ∃ forms path, expressions.mapM Form.ofExpression = .ok forms ∧ DeclaresPath forms path

/-- The answer for the result of an execution. -/
def Answer.ofResult : Except Fault Outcome → Except Fault Answer
  | .ok outcome => .ok (ofOutcome outcome)
  | .error fault => ofFault fault

/-- An answer is given under a status code. -/
def AnsweredWith (result : Except Fault Answer) (code : Nat) (answer : Answer) : Prop :=
  result = .ok answer ∧ answer.status = code

namespace Ending

/-- How a call of the library says its ending: it returns the text or raises a fault. -/
def InCall (result : Except Fault String) : Ending → Prop
  | returned text => result = .ok text
  | engineFailed output status => result = .error (.engineFailed output (some status))
  | unexplained _ _ => result = .error .unwritable
  | missing message =>
    ∃ binary detail, result = .error (.missingBinary binary detail) ∧
      message = (Fault.missingBinary binary detail).message
  | rejected message =>
    ∃ fault, result = .error fault ∧ (fault.family = .form ∨ fault.family = .value) ∧
      message = fault.message
  | brokenOff detail => result = .error (.launch (.system detail))

/-- How the service says its ending: by a status code and, if that is of success, by the kind
of what is returned. -/
def InAnswer (dryRun : Bool) (expressions : List Datum) (result : Except Fault Answer) :
    Ending → Prop
  | returned text =>
    dryRun = true ∧ AnsweredWith result 200 (.script text) ∨
      dryRun = false ∧ DeclarePath expressions ∧ AnsweredWith result 200 (.outputPath text) ∨
      dryRun = false ∧ ¬ DeclarePath expressions ∧ AnsweredWith result 200 (.captured text)
  | engineFailed output status => AnsweredWith result 502 (.badGateway output status)
  | unexplained output status => AnsweredWith result 502 (.badGateway output status)
  | missing message => AnsweredWith result 503 (.unavailable message)
  | rejected message => AnsweredWith result 400 (.badRequest message)
  | brokenOff detail => result = .error (.launch (.system detail))

/-- How the command line says its ending: by its exit code and by what it prints, beside the
lines of the log. A text that the standard output does not take is an error. -/
def InReport (console : String → Option String) (logged : String) (report : Report) :
    Ending → Prop
  | returned text =>
    console text = none ∧
        report.exit = .ok 0 ∧ report.output = text ++ "\n" ∧ report.errors = logged ∨
      ∃ detail, console text = some detail ∧ report.Complains 2 logged detail
  | engineFailed output _ =>
    report.exit = .ok 1 ∧ report.output = "" ∧ report.errors = logged ++ withLineEnd output
  | unexplained _ _ => report.Complains 2 logged Fault.unwritable.message
  | missing message => report.Complains 1 logged message
  | rejected message => report.Complains 2 logged message
  | brokenOff detail =>
    report.exit = .error (.launch (.system detail)) ∧ report.output = "" ∧
      report.errors = logged

/-- How the execution that is behind all surfaces ends. -/
inductive Concludes (dryRun : Bool) (expressions : List Datum) :
    Except Fault Outcome → Ending → Prop where
  | script {text : String} :
    dryRun = true → Concludes dryRun expressions (.ok (.script text)) (returned text)
  | outputPath {path : String} :
    dryRun = false → DeclarePath expressions →
      Concludes dryRun expressions (.ok (.outputPath path)) (returned path)
  | captured {text : String} :
    dryRun = false → ¬ DeclarePath expressions →
      Concludes dryRun expressions (.ok (.captured text)) (returned text)
  | failed {output : String} {status : Int} :
    Text.trim output ≠ "" ∨ Decimal.isWritable status = true →
      Concludes dryRun expressions (.ok (.failed output status)) (engineFailed output status)
  | unexplained {output : String} {status : Int} :
    Text.trim output = "" ∧ Decimal.isWritable status = false →
      Concludes dryRun expressions (.ok (.failed output status)) (unexplained output status)
  | missing {binary detail : String} :
    Concludes dryRun expressions (.error (.missingBinary binary detail))
      (missing (Fault.missingBinary binary detail).message)
  | rejected {fault : Fault} :
    fault.family = .form ∨ fault.family = .value →
      Concludes dryRun expressions (.error fault) (rejected fault.message)
  | brokenOff {detail : String} :
    Concludes dryRun expressions (.error (.launch (.system detail))) (brokenOff detail)

end Ending

variable {place : Workplace} {dryRun : Bool} {expressions : List Datum} {forms : List Form}
  {fault : Fault} {result : Except Fault Outcome} {ending : Ending}

/-! ### The execution behind the surfaces -/

namespace Ending

/-- The failure of an engine is explained unless there is nothing to explain it with. -/
theorem exists_concludes_failed (dryRun : Bool) (expressions : List Datum) (output : String)
    (status : Int) :
    ∃ ending, Concludes dryRun expressions (.ok (.failed output status)) ending := by
  by_cases h : Text.trim output = "" ∧ Decimal.isWritable status = false
  · exact ⟨_, .unexplained h⟩
  · refine ⟨_, .failed ?_⟩
    rwa [Classical.not_and_iff_not_or_not, Bool.not_eq_false] at h

/-- What is concluded from the engine's reply to the script of the forms. -/
theorem exists_concludes_of_ends {reply : Reply} (hreal : dryRun = false)
    (hforms : expressions.mapM Form.ofExpression = .ok forms)
    (h : place.Ends forms reply result) : ∃ ending, Concludes dryRun expressions result ending := by
  cases h with
  | failed _ => exact exists_concludes_failed dryRun expressions _ _
  | outputPath declares => exact ⟨_, .outputPath hreal ⟨forms, _, hforms, declares⟩⟩
  | captured silent =>
    refine ⟨_, .captured hreal fun ⟨others, path, hothers, declares⟩ => ?_⟩
    obtain rfl := Except.ok.inj (hforms.symm.trans hothers)
    exact silent path declares
  | notFound => exact ⟨_, .missing⟩
  | notPermitted => exact ⟨_, .missing⟩
  | system => exact ⟨_, .brokenOff⟩
  | invalid => exact ⟨_, .rejected (.inr rfl)⟩

/-- Every execution ends in one of the ways. -/
theorem exists_concludes (place : Workplace) (dryRun : Bool) (expressions : List Datum) :
    ∃ ending, Concludes dryRun expressions
      (place.execute (.options (.bool dryRun)) (.list expressions)).result ending := by
  have asked : RunOptions.given (.options (.bool dryRun)) = .ok ⟨dryRun⟩ := rfl
  cases h : expressions.mapM Form.ofExpression with
  | error fault =>
    have unread : Form.ofExpressions (.list expressions) = .error fault := h
    obtain ⟨_, bad, _, _, -, -, hbad⟩ := mapM_eq_error_iff.1 h
    rw [Workplace.execute_of_badForms asked unread]
    exact ⟨_, .rejected (Form.faultsAre_ofExpression bad fault hbad).family_eq⟩
  | ok forms =>
    have read : Form.ofExpressions (.list expressions) = .ok forms := h
    rw [Workplace.execute_of_forms asked read]
    cases written : forms.all Form.isWritable with
    | false =>
      rw [Workplace.runForms_of_not_isWritable written]
      exact ⟨_, .rejected (.inr rfl)⟩
    | true =>
      cases dryRun with
      | true =>
        rw [(Workplace.runForms_of_dry written rfl).2]
        exact ⟨_, .script rfl⟩
      | false => exact exists_concludes_of_ends rfl h (Workplace.ends_runForms written rfl)

/-- There is one ending at most that both a call of the library and an answer of the service say. -/
theorem unique {called : Except Fault String} {answered : Except Fault Answer} {other : Ending}
    (hcall : InCall called ending) (hanswer : InAnswer dryRun expressions answered ending)
    (hcall' : InCall called other) (hanswer' : InAnswer dryRun expressions answered other) :
    ending = other := by
  -- Faults that end a call differently are of different families, but for an unexplained one.
  cases ending <;> cases other <;> simp only [InCall, InAnswer, AnsweredWith] at * <;>
    grind [Fault.family]

theorem Concludes.inCall (h : Concludes dryRun expressions result ending) :
    InCall (result.bind Workplace.report) ending := by
  cases h with
  | script _ => rfl
  | outputPath _ _ => rfl
  | captured _ _ => rfl
  | failed explained =>
    have said := Fault.engineFailedOf_of_explained explained
    exact congrArg Except.error said
  | unexplained silent => exact congrArg Except.error (if_pos silent)
  | missing => exact ⟨_, _, rfl, rfl⟩
  | rejected blame => exact ⟨_, rfl, blame, rfl⟩
  | brokenOff => rfl

theorem Concludes.inAnswer (h : Concludes dryRun expressions result ending) :
    InAnswer dryRun expressions (Answer.ofResult result) ending := by
  cases h with
  | script dry => exact .inl ⟨dry, rfl, rfl⟩
  | outputPath real declares => exact .inr (.inl ⟨real, declares, rfl, rfl⟩)
  | captured real silent => exact .inr (.inr ⟨real, silent, rfl, rfl⟩)
  | failed _ => exact ⟨rfl, rfl⟩
  | unexplained _ => exact ⟨rfl, rfl⟩
  | missing => exact ⟨rfl, rfl⟩
  | rejected blame =>
    simp only [Answer.ofResult, Answer.ofFault]
    rcases blame with blame | blame
    · rw [blame]
      exact ⟨rfl, rfl⟩
    · rw [blame]
      exact ⟨rfl, rfl⟩
  | brokenOff => rfl

end Ending

theorem execute_dryRun (place : Workplace) (dryRun : Bool) (forms : Datum) :
    place.execute (.mapping [(.text RunOptions.dryRunName, .bool dryRun)]) forms =
      place.execute (.options (.bool dryRun)) forms := by
  have asked : RunOptions.given (.options (.bool dryRun)) = .ok ⟨dryRun⟩ := rfl
  simp only [Workplace.execute, given_dryRun, asked]

/-- A call of the library with forms runs these forms. -/
theorem Workplace.plot_forms (place : Workplace) (dryRun : Bool) (forms : List Form) :
    place.plot (.mapping [(.text RunOptions.dryRunName, .bool dryRun)])
        (.list (forms.map .form)) =
      ⟨(place.runForms ⟨dryRun⟩ forms).calls, (place.runForms ⟨dryRun⟩ forms).log,
        (place.runForms ⟨dryRun⟩ forms).result.bind report⟩ := by
  rw [plot, execute_of_forms (given_dryRun dryRun) (Form.ofExpressions_forms forms)]

theorem Workplace.result_serve (place : Workplace) (request : ScriptRequest) :
    (place.serve request).result = Answer.ofResult
      (place.execute (.options (.bool request.dryRun)) (.list request.forms)).result :=
  rfl

end Halves

namespace CommandLine.Invocation

/-- The octets that an invocation is given: those of the standard input, or of the file that is
named. -/
def IsGiven (i : Invocation) (input : Option String) (octets : List UInt8) : Prop :=
  input = some "-" ∧ octets = i.input ∨
    ∃ path, input = some path ∧ path ≠ "-" ∧ i.place.files.read path = .ok octets

section StandIns

variable [Text.StandIns]

/-- An invocation loads a datum if it is given a JSON text of it. -/
def Loads (i : Invocation) (input : Option String) (d : Datum) : Prop :=
  ∃ octets cs, i.IsGiven input octets ∧ Text.Utf8.decode octets = .ok cs ∧
    Json.read (Text.normalizeBreaks cs) = .ok d

variable {i : Invocation} {asked : Arguments} {level : LogLevel} {files : FileTree}
  {calls : List Call} {log : List Record} {logged : String} {octets : List UInt8}
  {input : Option String} {called : Run String}

theorem failed_of_rejected (h : fault.family = .form ∨ fault.family = .value) :
    failed files calls logged fault =
      ⟨.ok 2, "", logged ++ ("error: " ++ fault.message ++ "\n"), calls, files⟩ := by
  unfold failed
  dsimp only
  split
  next =>
    rcases h with h | h <;> cases h
  next =>
    rcases h with h | h
    · rw [h]
    · rw [h]

theorem calls_failed : (failed files calls logged fault).calls = calls := by
  unfold failed
  dsimp only
  split
  · rfl
  · split <;> rfl

theorem files_failed : (failed files calls logged fault).files = files := by
  unfold failed
  dsimp only
  split
  · rfl
  · split <;> rfl

/-- A text that the standard output takes is printed. -/
theorem print_of_taken {text : String} (h : i.console text = none) :
    i.print level files ⟨calls, log, .ok text⟩ =
      ⟨.ok 0, text ++ "\n", level.lines log, calls, files⟩ := by
  simp only [print, h]

/-- A text that the standard output does not take is a fault. -/
theorem print_of_refused {text detail : String} (h : i.console text = some detail) :
    i.print level files ⟨calls, log, .ok text⟩ =
      failed files calls (level.lines log) (.unencodable detail) := by
  simp only [print, h]

theorem calls_print : (i.print level files called).calls = called.calls := by
  unfold print
  dsimp only
  split
  · exact calls_failed
  · split
    · exact calls_failed
    · rfl

theorem files_print : (i.print level files called).files = files := by
  unfold print
  dsimp only
  split
  · exact files_failed
  · split
    · exact files_failed
    · rfl

theorem loadForms_of_isGiven (h : i.IsGiven input octets) :
    i.loadForms input = formsOfOctets octets := by
  rcases h with ⟨rfl, rfl⟩ | ⟨path, rfl, hpath, hfile⟩
  · rw [loadForms, if_pos rfl]
  · rw [loadForms, if_neg hpath, readFile, hfile]
    rfl

theorem formsOfOctets_of_read {cs : List Char} (hcs : Text.Utf8.decode octets = .ok cs)
    (hread : Json.read (Text.normalizeBreaks cs) = .ok (.list expressions)) :
    formsOfOctets octets = Form.ofExpressions (.list expressions) := by
  rw [formsOfOctets, decodeText, hcs]
  change formsOfJson cs = _
  rw [formsOfJson, hread]

theorem loadForms_of_loads (h : i.Loads input (.list expressions)) :
    i.loadForms input = Form.ofExpressions (.list expressions) := by
  obtain ⟨octets, cs, given, hcs, hread⟩ := h
  rw [loadForms_of_isGiven given, formsOfOctets_of_read hcs hread]

/-- The run of forms that have been read is that of the data that they were read from. -/
theorem runForms_eq_print {d : Datum} {dryRun : Bool} (h : Form.ofExpressions d = .ok forms) :
    i.runForms level dryRun files forms = i.print level files
      ({ i.place with files }.plot (.mapping [(.text RunOptions.dryRunName, .bool dryRun)]) d) := by
  have same : Form.ofExpressions (.list (forms.map .form)) = Form.ofExpressions d :=
    (Form.ofExpressions_forms forms).trans h.symm
  rw [runForms, Workplace.plot_congr same]

/-- An invocation that writes no script prints what a call of the library comes to. -/
theorem main_eq_print {arguments : List String}
    (hlevel : LogLevel.ofName? i.logLevel = some level)
    (hread : Arguments.read i.dialect arguments = .arguments asked)
    (hout : asked.scriptOut = none) (hload : i.Loads asked.input (.list expressions)) :
    i.main arguments = i.print level i.place.files
      (i.place.plot (.mapping [(.text RunOptions.dryRunName, .bool asked.dryRun)])
        (.list expressions)) := by
  rw [main, hread]
  dsimp only
  rw [perform, hlevel]
  dsimp only
  rw [loadForms_of_loads hload]
  cases hforms : Form.ofExpressions (.list expressions) with
  | error fault =>
    rw [Workplace.plot, Workplace.execute_of_badForms (given_dryRun asked.dryRun) hforms]
    rfl
  | ok forms =>
    dsimp only
    rw [hout]
    exact runForms_eq_print hforms

end StandIns

end CommandLine.Invocation

section StandIns

variable [Text.StandIns]

theorem Ending.Concludes.inReport {i : Invocation} {level : LogLevel} {files : FileTree}
    {calls : List Call} {log : List Record} (h : Concludes dryRun expressions result ending) :
    InReport i.console (level.lines log)
      (i.print level files ⟨calls, log, result.bind Workplace.report⟩) ending := by
  have returned : ∀ text, InReport i.console (level.lines log)
      (i.print level files ⟨calls, log, .ok text⟩) (.returned text) := by
    intro text
    cases taken : i.console text with
    | none =>
      rw [Invocation.print_of_taken taken]
      exact .inl ⟨taken, rfl, rfl, rfl⟩
    | some detail =>
      rw [Invocation.print_of_refused taken]
      exact .inr ⟨detail, taken, rfl, rfl, rfl⟩
  have raised : ∀ fault, i.print level files ⟨calls, log, .error fault⟩ =
      Invocation.failed files calls (level.lines log) fault := fun _ => rfl
  have said := h.inCall
  cases h with
  | script _ => exact returned _
  | outputPath _ _ => exact returned _
  | captured _ _ => exact returned _
  | failed _ =>
    rw [said, raised]
    exact ⟨rfl, rfl, rfl⟩
  | unexplained _ =>
    rw [said, raised]
    exact ⟨rfl, rfl, rfl⟩
  | missing => exact ⟨rfl, rfl, rfl⟩
  | @rejected fault blame =>
    change InReport _ _ (i.print level files ⟨calls, log, .error fault⟩) _
    rw [raised, Invocation.failed_of_rejected blame]
    exact ⟨rfl, rfl, rfl⟩
  | brokenOff => exact ⟨rfl, rfl, rfl⟩

/-! ### The three surfaces -/

/-- The same expressions make the same calls on all surfaces, and there is one ending that all
of them say. -/
theorem surfaces_agree {i : Invocation} {request? : Datum → Option ScriptRequest}
    {arguments : List String} {asked : Arguments} {level : LogLevel}
    (hrequest : FindsRequests request?)
    (hlevel : LogLevel.ofName? i.logLevel = some level)
    (hread : Arguments.read i.dialect arguments = .arguments asked)
    (hout : asked.scriptOut = none) (hload : i.Loads asked.input (.list expressions)) :
    let called := i.place.plot (.mapping [(.text "dry_run", .bool asked.dryRun)])
      (.list expressions)
    let answered := i.place.handle request? (requestBody expressions asked.dryRun)
    let report := i.main arguments
    answered.calls = called.calls ∧ report.calls = called.calls ∧
      ∃! ending : Ending, ending.InCall called.result ∧
        ending.InAnswer asked.dryRun expressions answered.result ∧
        ending.InReport i.console (level.lines called.log) report := by
  intro called answered report
  have served : answered = i.place.serve ⟨expressions, asked.dryRun⟩ := by
    simp only [answered, Workplace.handle, hrequest expressions asked.dryRun]
  -- The library takes its options as a mapping, the other two as options.
  have same : i.place.execute (.mapping [(.text "dry_run", .bool asked.dryRun)])
      (.list expressions) = i.place.execute (.options (.bool asked.dryRun)) (.list expressions) :=
    execute_dryRun i.place asked.dryRun (.list expressions)
  have printed : report = i.print level i.place.files called :=
    Invocation.main_eq_print hlevel hread hout hload
  refine ⟨?_, ?_, ?_⟩
  · simp only [called, served, Workplace.serve, Workplace.plot, same]
  · rw [printed, Invocation.calls_print]
  obtain ⟨ending, concludes⟩ := Ending.exists_concludes i.place asked.dryRun expressions
  have inCall : ending.InCall called.result := by
    simp only [called, Workplace.plot, same]
    exact concludes.inCall
  have inAnswer : ending.InAnswer asked.dryRun expressions answered.result := by
    rw [served, Workplace.result_serve]
    exact concludes.inAnswer
  refine ⟨ending, ⟨inCall, inAnswer, ?_⟩, fun other hother => ?_⟩
  · rw [printed]
    simp only [called, Workplace.plot, same]
    exact concludes.inReport
  · exact Ending.unique hother.1 hother.2.1 inCall inAnswer

end StandIns

/-- A framework that looks for the parts of a request where bodies hold them. -/
def bareRequest? : Datum → Option ScriptRequest
  | .mapping [(.text "forms", .list expressions), (.text "dry_run", .bool dryRun)] =>
    some ⟨expressions, dryRun⟩
  | _ => none

theorem bareRequest?_findsRequests : FindsRequests bareRequest? :=
  fun _ _ => rfl

/-- An invocation with a document on the standard input. -/
def invocationOn [Text.Halves] (place : Workplace) (document : String) : Invocation where
  place := place
  logLevel := "WARNING"
  dialect := ⟨false, false⟩
  input := Text.Utf8.encode document
  console := encodingConsole

theorem invocationOn_loads [Text.StandIns] {document : String} {d : Datum}
    (h : Json.read (Text.normalizeBreaks document.toList) = .ok d) :
    (invocationOn place document).Loads (some "-") d :=
  ⟨_, _, .inl ⟨rfl, rfl⟩, Text.Utf8.decode_encode document, h⟩

theorem read_resetDocument [Text.StandIns] :
    Json.read (Text.normalizeBreaks "[[\"reset\"]]".toList) =
      .ok (.list [.list [.text "reset"]]) := by
  simp [Text.normalizeBreaks, Json.read, Json.document, Json.value, Json.items,
    Json.skipSpace, Json.isSpace, Json.scanString_plain, Except.mapError, Except.map, pure,
    Except.pure, bind, Except.bind]

/-- A place in which the engine fails. -/
def failingPlace : Workplace where
  engine := "gnuplot"
  files := ⟨[]⟩
  reply _ := .exited 2 (some "no terminal")

theorem surfaces_agree_failingReset :
    let _ : Text.StandIns := .privateUse
    let expressions := [.list [.text "reset"]]
    let invocation := invocationOn failingPlace "[[\"reset\"]]"
    let called := failingPlace.plot (.mapping [(.text "dry_run", .bool false)]) (.list expressions)
    let answered := failingPlace.handle bareRequest? (requestBody expressions false)
    let report := invocation.main []
    answered.calls = called.calls ∧ report.calls = called.calls ∧
      ∃! ending : Ending, ending.InCall called.result ∧
        ending.InAnswer false expressions answered.result ∧
        ending.InReport invocation.console (LogLevel.warning.lines called.log) report :=
  let _ : Text.StandIns := .privateUse
  surfaces_agree bareRequest?_findsRequests (by decide) (Arguments.read_nil _) rfl
    (invocationOn_loads read_resetDocument)

theorem read_loneHalfDocument [Text.StandIns] :
    Json.read (Text.normalizeBreaks "[[\"raw\",\"\\ud800\"]]".toList) =
      .ok (.list [.list [.text "raw", .text (String.ofList [Text.standIn 0xd800])]]) := by
  simp [Text.normalizeBreaks, Json.read, Json.document, Json.value, Json.items, Json.skipSpace,
    Json.isSpace, Json.scanString, Json.scanFrom, Json.Item.of, Json.Item.ofEscape,
    Json.Item.ofCode, Json.hexCode?, Json.hexValue?, Json.charOfCode, Text.isSurrogate,
    Except.mapError, Except.map, pure, Except.pure, bind, Except.bind]

/-- The standard output says which half of a pair it does not take. -/
theorem encodingConsole_loneHalf [Text.StandIns] :
    encodingConsole (String.ofList [Text.standIn 0xd800]) = some
      "'utf-8' codec can't encode character '\\ud800' in position 0: surrogates not allowed" := by
  have half : Text.half? (Text.standIn 0xd800) = some 0xd800 := Text.StandIns.half?_standIn rfl
  have said : Text.Utf8.Unencodable.message ⟨0xd800, 0, 1⟩ =
      "'utf-8' codec can't encode character '\\ud800' in position 0: surrogates not allowed" := by
    decide
  simp [encodingConsole, Text.Utf8.unencodable?, Text.Utf8.firstHalves, half, said]

/-- The text of half a pair is returned by the library and answered by the service, but the command
line cannot print it and blames what it was given. -/
theorem surfaces_differ_loneHalf :
    let _ : Text.StandIns := .privateUse
    let text := String.ofList [Text.standIn 0xd800]
    let expressions := [.list [.text "raw", .text text]]
    let called := failingPlace.plot (.mapping [(.text "dry_run", .bool true)]) (.list expressions)
    let answered := failingPlace.handle bareRequest? (requestBody expressions true)
    let invocation := invocationOn failingPlace "[[\"raw\",\"\\ud800\"]]"
    let report := invocation.main ["--dry-run"]
    called.result = .ok text ∧ AnsweredWith answered.result 200 (.script text) ∧
      report.Complains 2 ""
        "'utf-8' codec can't encode character '\\ud800' in position 0: surrogates not allowed" := by
  intro _ text expressions called answered invocation report
  have returned : called.result = .ok text := rfl
  refine ⟨returned, ⟨rfl, rfl⟩, ?_⟩
  have valid : LogLevel.ofName? "WARNING" = some .warning := by decide
  have asked : Arguments.read invocation.dialect ["--dry-run"] =
      .arguments ⟨some "-", true, none⟩ := rfl
  have loads : invocation.Loads (some "-") (.list expressions) :=
    invocationOn_loads read_loneHalfDocument
  have printed : report = invocation.print .warning ⟨[]⟩ called :=
    Invocation.main_eq_print valid asked rfl loads
  have refused : invocation.console text = some _ := encodingConsole_loneHalf
  have called_eq : called = ⟨[], called.log, .ok text⟩ := rfl
  rw [printed, called_eq, Invocation.print_of_refused refused]
  exact ⟨rfl, rfl, rfl⟩

end GnuplotScript
