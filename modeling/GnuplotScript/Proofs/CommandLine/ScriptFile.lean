import GnuplotScript.Proofs.CommandLine.Choices
import GnuplotScript.Proofs.Files.Tree
import GnuplotScript.Proofs.Form.Writable
import GnuplotScript.Proofs.Json.Document
import GnuplotScript.Proofs.Surfaces

/-!
# The file of the script

Before the engine is called the script is written to its own file, if one is chosen. What is
read decides whether that happens: content that expresses no forms stops the program with all
files as they were. Any other content leaves its script in the file, whatever the engine does
afterwards, if the script has an encoding. One without an encoding leaves the file empty, since
that is only found out after the file has been opened.

## Main definitions

* `Content.Rejected` — content that expresses no forms
* `Content.Expresses` — the forms that content expresses

## Main results

* `Content.all_isWritable_of_expresses` — the forms of content can all be written
* `script_file_holds_script` — rejected content leaves everything as it was, and the script of
  any other content is in the chosen file, in the engine's call and in the output, if it has an
  encoding
* `script_file_left_empty` — a script that has none
-/

namespace GnuplotScript.CommandLine

open Text (normalizeBreaks)
open Text.Utf8 (IsEncodable)

section StandIns

variable [Text.StandIns]

namespace Content

/-- Content is a JSON text of a datum. -/
def Holds (content : List UInt8) (d : Datum) : Prop :=
  ∃ s, content = Text.Utf8.encode s ∧ Json.read (normalizeBreaks s.toList) = .ok d

/-- Content that expresses no forms. -/
inductive Rejected (content : List UInt8) : Prop where
  /-- Octets that are not UTF-8. -/
  | notText : (∀ s, content ≠ Text.Utf8.encode s) → Rejected content
  /-- A text that is not JSON. -/
  | notJson {s : String} {failure : Json.Failure} :
    content = Text.Utf8.encode s → Json.read (normalizeBreaks s.toList) = .error failure →
      Rejected content
  /-- A datum that is not an array. -/
  | notArray {d : Datum} :
    Holds content d → (∀ expressions, d ≠ .list expressions) → Rejected content
  /-- An array with a bad expression, wherever it stands. -/
  | badExpression {front back : List Datum} {bad : Datum} {fault : Fault} :
    Holds content (.list (front ++ bad :: back)) → Form.ofExpression bad = .error fault →
      Rejected content

/-- Content is an array of expressions, one for each of the forms. -/
def Expresses (content : List UInt8) (forms : List Form) : Prop :=
  ∃ expressions, Holds content (.list expressions) ∧
    List.Forall₂ (fun e f => Form.ofExpression e = .ok f) expressions forms

variable {content : List UInt8} {s : String} {expressions : List Datum} {forms : List Form}

theorem formsOfOctets_encode (s : String) :
    formsOfOctets (Text.Utf8.encode s) = formsOfJson s.toList := by
  rw [formsOfOctets, decodeText, Text.Utf8.decode_encode]
  rfl

theorem formsOfOctets_of_holds (h : Holds content (.list expressions)) :
    formsOfOctets content = expressions.mapM Form.ofExpression := by
  obtain ⟨s, rfl, hread⟩ := h
  rw [formsOfOctets_encode, formsOfJson, hread]
  rfl

theorem formsOfOctets_of_expresses (h : Expresses content forms) :
    formsOfOctets content = .ok forms := by
  obtain ⟨expressions, holds, hforms⟩ := h
  rw [formsOfOctets_of_holds holds, mapM_eq_ok_iff.2 hforms]

/-- Content expresses one list of forms at most. -/
theorem Expresses.unique {others : List Form} (h : Expresses content forms)
    (h' : Expresses content others) : forms = others :=
  Except.ok.inj ((formsOfOctets_of_expresses h).symm.trans (formsOfOctets_of_expresses h'))

/-- The forms of content can all be written, since no number is read that cannot be. -/
theorem all_isWritable_of_expresses (h : Expresses content forms) :
    forms.all Form.isWritable = true := by
  obtain ⟨expressions, ⟨s, -, hread⟩, hforms⟩ := h
  exact Form.all_isWritable_of_ofExpressions (mapM_eq_ok_iff.2 hforms)
    (Json.isRead_of_read hread).isWritable

/-- Rejected content ends in a fault of what was given. -/
theorem Rejected.exists_fault (h : Rejected content) :
    ∃ fault, formsOfOctets content = .error fault ∧
      (fault.family = .form ∨ fault.family = .value) := by
  cases h with
  | notText hnone =>
    cases hcs : Text.Utf8.decode content with
    | ok cs => exact absurd (Text.Utf8.decode_eq_ok_iff.1 hcs) (hnone _)
    | error failure =>
      rw [formsOfOctets, decodeText, hcs]
      exact ⟨_, rfl, .inr rfl⟩
  | notJson hencodes hread =>
    rw [hencodes, formsOfOctets_encode, formsOfJson, hread]
    exact ⟨_, rfl, .inr rfl⟩
  | @notArray d hholds hlist =>
    have blame := fun reason => (Fault.isOfReading_unknownFormOf d reason).family_eq
    obtain ⟨s, rfl, hread⟩ := hholds
    rw [formsOfOctets_encode, formsOfJson, hread]
    cases d with
    | list expressions => exact absurd rfl (hlist expressions)
    | _ => exact ⟨_, rfl, blame _⟩
  | @badExpression front back bad fault hholds hbad =>
    rw [formsOfOctets_of_holds hholds]
    rcases mapM_eq_ok_or_error Form.ofExpression (front ++ bad :: back) with read | failed
    · obtain ⟨f, hf⟩ := exists_mapM_eq_ok_iff.1 read bad
        (List.mem_append_right front List.mem_cons_self)
      cases hbad.symm.trans hf
    · obtain ⟨first, -, other, hfirst, hload⟩ := failed
      exact ⟨other, hload, (Form.faultsAre_ofExpression first other hfirst).family_eq⟩

theorem Expresses.not_rejected (h : Expresses content forms) : ¬ Rejected content := by
  intro rejected
  obtain ⟨fault, hload, -⟩ := rejected.exists_fault
  cases hload.symm.trans (formsOfOctets_of_expresses h)

/-- Content is rejected or expresses forms. -/
theorem rejected_or_expresses (content : List UInt8) :
    Rejected content ∨ ∃ forms, Expresses content forms := by
  by_cases htext : ∃ s, content = Text.Utf8.encode s
  · obtain ⟨s, hencodes⟩ := htext
    cases hread : Json.read (normalizeBreaks s.toList) with
    | error failure => exact .inl (.notJson hencodes hread)
    | ok d =>
      have holds : Holds content d := ⟨s, hencodes, hread⟩
      by_cases hlist : ∃ expressions, d = .list expressions
      · obtain ⟨expressions, rfl⟩ := hlist
        cases hforms : expressions.mapM Form.ofExpression with
        | error fault =>
          obtain ⟨front, bad, back, _, rfl, -, hbad⟩ := mapM_eq_error_iff.1 hforms
          exact .inl (.badExpression holds hbad)
        | ok forms => exact .inr ⟨forms, expressions, holds, mapM_eq_ok_iff.1 hforms⟩
      · exact .inl (.notArray holds (not_exists.1 hlist))
  · exact .inl (.notText (not_exists.1 htext))

end Content

open Content (Rejected Expresses)

namespace Invocation

variable {i : Invocation} {asked : Arguments} {input : Option String} {content : List UInt8}
  {level : LogLevel} {files : FileTree} {forms : List Form} {path : String} {fault : Fault}

/-! ### Writing the script -/

theorem scriptOctets_of_isWritable (written : forms.all Form.isWritable = true) :
    scriptOctets forms = (Text.Utf8.encodeStrict (scriptText forms ++ "\n")).mapError
      fun failure => .unencodable failure.message := by
  rw [scriptOctets, Script.assemble_render, written, ifWritable_true]
  rfl

theorem scriptOctets_of_isEncodable (written : forms.all Form.isWritable = true)
    (h : IsEncodable (scriptText forms)) :
    scriptOctets forms = .ok (Text.Utf8.encode (scriptText forms ++ "\n")) := by
  have whole := Text.Utf8.isEncodable_iff.1 (Text.Utf8.isEncodable_append_newline.2 h)
  rw [scriptOctets_of_isWritable written, Text.Utf8.encodeStrict, whole]
  rfl

theorem exists_scriptOctets_eq_error (written : forms.all Form.isWritable = true)
    (h : ¬ IsEncodable (scriptText forms)) :
    ∃ detail, scriptOctets forms = .error (.unencodable detail) := by
  rw [← Text.Utf8.isEncodable_append_newline, Text.Utf8.isEncodable_iff] at h
  obtain ⟨failure, hfailure⟩ := Option.ne_none_iff_exists'.1 h
  rw [scriptOctets_of_isWritable written, Text.Utf8.encodeStrict, hfailure]
  exact ⟨_, rfl⟩

/-- A path that can be written to is opened, and so its file is empty before the script is made. -/
theorem writeScript_of_opened {place : Place} (h : i.place.files.opened path = .ok place) :
    (∀ octets, scriptOctets forms = .ok octets →
        i.writeScript (some path) forms = (i.place.files.insert place (.file octets), none)) ∧
      ∀ fault, scriptOctets forms = .error fault →
        i.writeScript (some path) forms = (i.place.files.insert place (.file []), some fault) := by
  unfold writeScript
  split
  next habsent => cases habsent
  next hempty =>
    obtain rfl := Option.some.inj hempty
    cases h
  next hpath =>
    obtain rfl := Option.some.inj hpath
    constructor
    · intro octets hoctets
      simp only [h, hoctets, FileTree.insert_insert]
    · intro fault hfault
      simp only [h, hfault]

/-- A script that has an encoding is in its file. -/
theorem writeScript_of_isEncodable (hpath : i.place.files.Writable path)
    (written : forms.all Form.isWritable = true) (h : IsEncodable (scriptText forms)) :
    ∃ files, i.writeScript (some path) forms = (files, none) ∧
      files.read path = .ok (Text.Utf8.encode (scriptText forms ++ "\n")) := by
  obtain ⟨place, hplace⟩ := FileTree.exists_opened_iff.2 hpath
  have hoctets := scriptOctets_of_isEncodable written h
  exact ⟨_, (writeScript_of_opened hplace).1 _ hoctets, FileTree.read_insert hplace _⟩

/-- Another script leaves its file empty. -/
theorem writeScript_of_not_isEncodable (hpath : i.place.files.Writable path)
    (written : forms.all Form.isWritable = true) (h : ¬ IsEncodable (scriptText forms)) :
    ∃ files detail, i.writeScript (some path) forms = (files, some (.unencodable detail)) ∧
      files.read path = .ok [] := by
  obtain ⟨place, hplace⟩ := FileTree.exists_opened_iff.2 hpath
  obtain ⟨detail, hfault⟩ := exists_scriptOctets_eq_error written h
  exact ⟨_, detail, (writeScript_of_opened hplace).2 _ hfault, FileTree.read_insert hplace _⟩

/-! ### The whole program -/

theorem perform_of_rejected (hlevel : LogLevel.ofName? i.logLevel = some level)
    (h : i.IsGiven asked.input content) (hrejected : Rejected content) :
    (i.perform asked).exit = .ok 2 ∧ (i.perform asked).calls = [] ∧
      (i.perform asked).output = "" ∧ (i.perform asked).files = i.place.files := by
  obtain ⟨fault, hload, blame⟩ := hrejected.exists_fault
  rw [perform, hlevel]
  dsimp only
  rw [loadForms_of_isGiven h, hload]
  dsimp only
  rw [failed_of_rejected blame]
  exact ⟨rfl, rfl, rfl, rfl⟩

/-- Forms are run after their script has been written. -/
theorem perform_of_written (hlevel : LogLevel.ofName? i.logLevel = some level)
    (h : i.IsGiven asked.input content) (hforms : Expresses content forms)
    (hwrite : i.writeScript asked.scriptOut forms = (files, none)) :
    i.perform asked = i.runForms level asked.dryRun files forms := by
  simp only [perform, hlevel, loadForms_of_isGiven h, Content.formsOfOctets_of_expresses hforms,
    hwrite]

/-- What keeps the script from being written ends the invocation. -/
theorem perform_of_unwritten (hlevel : LogLevel.ofName? i.logLevel = some level)
    (h : i.IsGiven asked.input content) (hforms : Expresses content forms)
    (hwrite : i.writeScript asked.scriptOut forms = (files, some fault)) :
    i.perform asked = failed files [] "" fault := by
  simp only [perform, hlevel, loadForms_of_isGiven h, Content.formsOfOctets_of_expresses hforms,
    hwrite]

/-- Forms that are run are given to the engine as their script. -/
theorem calls_runForms_of_real (written : forms.all Form.isWritable = true) :
    ∃ call, (i.runForms level false files forms).calls = [call] ∧
      call.script = scriptText forms := by
  rw [runForms, calls_print, Workplace.plot_forms]
  exact ⟨_, Workplace.calls_runForms written rfl, rfl⟩

/-- Forms that are shown are printed as their script. -/
theorem runForms_of_dry (written : forms.all Form.isWritable = true) :
    ∃ log, i.runForms level true files forms =
      i.print level files ⟨[], log, .ok (scriptText forms)⟩ := by
  have dry : ({ i.place with files }.runForms ⟨true⟩ forms).calls = [] ∧
      ({ i.place with files }.runForms ⟨true⟩ forms).result = .ok (.script (scriptText forms)) :=
    Workplace.runForms_of_dry written rfl
  rw [runForms, Workplace.plot_forms, dry.1, dry.2]
  exact ⟨_, rfl⟩

/-- A script without an encoding ends the invocation before anything is called, but its file has
been emptied. -/
theorem perform_of_not_isEncodable (hlevel : LogLevel.ofName? i.logLevel = some level)
    (h : i.IsGiven asked.input content) (hforms : Expresses content forms)
    (hout : asked.scriptOut = some path) (hpath : i.place.files.Writable path)
    (unencodable : ¬ IsEncodable (scriptText forms)) :
    (i.perform asked).exit = .ok 2 ∧ (i.perform asked).calls = [] ∧
      (i.perform asked).output = "" ∧ (i.perform asked).files.read path = .ok [] := by
  obtain ⟨files, detail, hwrite, hread⟩ := writeScript_of_not_isEncodable hpath
    (Content.all_isWritable_of_expresses hforms) unencodable
  rw [← hout] at hwrite
  rw [perform_of_unwritten hlevel h hforms hwrite]
  exact ⟨rfl, rfl, rfl, hread⟩

/-- A script with an encoding is in its file when the forms are run, and stays there. -/
theorem exists_perform_eq_runForms (hlevel : LogLevel.ofName? i.logLevel = some level)
    (h : i.IsGiven asked.input content) (hforms : Expresses content forms)
    (hout : asked.scriptOut = some path) (hpath : i.place.files.Writable path)
    (encodable : IsEncodable (scriptText forms)) :
    ∃ files, i.perform asked = i.runForms level asked.dryRun files forms ∧
      (i.perform asked).files.read path =
        .ok (Text.Utf8.encode (scriptText forms ++ "\n")) := by
  obtain ⟨files, hwrite, hread⟩ := writeScript_of_isEncodable hpath
    (Content.all_isWritable_of_expresses hforms) encodable
  rw [← hout] at hwrite
  rw [perform_of_written hlevel h hforms hwrite]
  refine ⟨files, rfl, ?_⟩
  rw [runForms, files_print, hread]

end Invocation

/-- What is left where content expresses forms whose script has an encoding: the script is in its
file, and it is what the engine is given, or else what a dry run prints, as far as the standard
output takes it. -/
structure Invocation.Leaves (i : Invocation) (path : String) (dryRun : Prop) (script : String)
    (report : Report) : Prop where
  file : report.files.read path = .ok (Text.Utf8.encode (script ++ "\n"))
  called : ¬ dryRun → ∃ call, report.calls = [call] ∧ call.script = script
  uncalled : dryRun → report.calls = []
  shown : dryRun → i.console script = none →
    report.exit = .ok 0 ∧ report.output = script ++ "\n"
  refused : ∀ detail, dryRun → i.console script = some detail →
    report.exit = .ok 2 ∧ report.output = ""

/-- Rejected content ends the invocation before anything is written or called. The script of any
other content is left in the file chosen for it, whatever the engine does, if it has an encoding.
If it has none, nothing is called and the file is left empty. -/
theorem script_file_holds_script {i : Invocation} {level : LogLevel} {content : List UInt8}
    {choices front back : List Choice} {path : String}
    (hlevel : LogLevel.ofName? i.logLevel = some level)
    (hchoices : choices = front ++ .scriptOut path :: back)
    (hlast : ∀ other, .scriptOut other ∉ back)
    (hkept : path ≠ "--" ∨ i.dialect.keepsDashes = true)
    (hwritable : i.place.files.Writable path)
    (hcontent : i.IsGiven (Arguments.ofChoices i.dialect choices).input content) :
    let report := i.main (choices.map Choice.spelling)
    (Rejected content →
      report.exit = .ok 2 ∧ report.calls = [] ∧ report.output = "" ∧
        report.files = i.place.files) ∧
      (¬ Rejected content → ∃ forms, Expresses content forms ∧
        (IsEncodable (scriptText forms) →
          i.Leaves path (.dryRun ∈ choices) (scriptText forms) report) ∧
        (¬ IsEncodable (scriptText forms) →
          report.exit = .ok 2 ∧ report.calls = [] ∧ report.output = "" ∧
            report.files.read path = .ok [])) := by
  intro report
  have performed : report = i.perform (.ofChoices i.dialect choices) := by
    simp only [report, Invocation.main, read_spellings]
  have out : (Arguments.ofChoices i.dialect choices).scriptOut = some path := by
    rw [hchoices]
    exact scriptOut_ofChoices hlast hkept
  rw [performed]
  refine ⟨Invocation.perform_of_rejected hlevel hcontent, fun accepted => ?_⟩
  obtain ⟨forms, hforms⟩ := (Content.rejected_or_expresses content).resolve_left accepted
  have written := Content.all_isWritable_of_expresses hforms
  refine ⟨forms, hforms, fun encodable => ?_,
    Invocation.perform_of_not_isEncodable hlevel hcontent hforms out hwritable⟩
  obtain ⟨files, hperform, hread⟩ :=
    Invocation.exists_perform_eq_runForms hlevel hcontent hforms out hwritable encodable
  have shows : .dryRun ∈ choices → ∃ log, i.perform (.ofChoices i.dialect choices) =
      i.print level files ⟨[], log, .ok (scriptText forms)⟩ := by
    intro dry
    rw [hperform, dryRun_ofChoices_iff.2 dry]
    exact Invocation.runForms_of_dry written
  refine ⟨hread, fun real => ?_, fun dry => ?_, fun dry taken => ?_, fun detail dry refused => ?_⟩
  · have calls : (Arguments.ofChoices i.dialect choices).dryRun = false := by
      rwa [← Bool.not_eq_true, dryRun_ofChoices_iff]
    rw [hperform, calls]
    exact Invocation.calls_runForms_of_real written
  · obtain ⟨log, hprint⟩ := shows dry
    rw [hprint, Invocation.calls_print]
  · obtain ⟨log, hprint⟩ := shows dry
    rw [hprint, Invocation.print_of_taken taken]
    exact ⟨rfl, rfl⟩
  · obtain ⟨log, hprint⟩ := shows dry
    rw [hprint, Invocation.print_of_refused refused]
    exact ⟨rfl, rfl⟩

theorem resetDocument_expresses :
    Expresses (Text.Utf8.encode "[[\"reset\"]]") [.reset] :=
  ⟨[.list [.text "reset"]], ⟨_, rfl, read_resetDocument⟩, .cons rfl .nil⟩

theorem loneHalfDocument_expresses :
    Expresses (Text.Utf8.encode "[[\"raw\",\"\\ud800\"]]")
      [.raw (String.ofList [Text.standIn 0xd800])] :=
  ⟨_, ⟨_, rfl, read_loneHalfDocument⟩, .cons rfl .nil⟩

end StandIns

/-- An invocation in a place with one file, where the system breaks the engine off. -/
def overwritingPlot : Invocation where
  place := {
    engine := "gnuplot"
    files := ⟨[(⟨some 0, ["plot"]⟩, .file (Text.Utf8.encode "[[\"reset\"]]"))]⟩
    reply := fun _ => .failed (.system "killed") }
  logLevel := "WARNING"
  dialect := ⟨false, false⟩
  input := []
  console _ := none

theorem script_file_holds_script_overwriting :
    let _ : Text.StandIns := .privateUse
    let report := overwritingPlot.main ["--input=plot", "--script-out=plot"]
    report.files.read "plot" = .ok (Text.Utf8.encode "reset\n") ∧
      ∃ call, report.calls = [call] ∧ call.script = "reset" := by
  intro _ report
  have writable : overwritingPlot.place.files.Writable "plot" :=
    ⟨⟨some 0, ["plot"]⟩, rfl, by decide, rfl⟩
  have valid : LogLevel.ofName? overwritingPlot.logLevel = some .warning := by decide
  have chosen : [Choice.input "plot", .scriptOut "plot"] =
      [.input "plot"] ++ .scriptOut "plot" :: [] := rfl
  have given : overwritingPlot.IsGiven
      (Arguments.ofChoices overwritingPlot.dialect [.input "plot", .scriptOut "plot"]).input
      (Text.Utf8.encode "[[\"reset\"]]") := .inr ⟨"plot", rfl, by decide, rfl⟩
  have last : ∀ other, Choice.scriptOut other ∉ [] := fun _ => List.not_mem_nil
  obtain ⟨forms, hforms, holds, -⟩ :=
    (script_file_holds_script valid chosen last (.inl (by decide)) writable given).2
      resetDocument_expresses.not_rejected
  obtain rfl := hforms.unique resetDocument_expresses
  have plain : IsEncodable (scriptText [.reset]) := by
    have text : scriptText [.reset] = "reset" := rfl
    have characters : "reset".toList = ['r', 'e', 's', 'e', 't'] := by decide
    simp only [IsEncodable, text, characters, List.forall_mem_cons]
    exact ⟨rfl, rfl, rfl, rfl, rfl, List.forall_mem_nil _⟩
  exact ⟨(holds plain).file, (holds plain).called (by decide)⟩

/-- A script with half of a pair in it leaves its file empty, although nothing is wrong with its
form. -/
theorem script_file_left_empty :
    let _ : Text.StandIns := .privateUse
    let document := "[[\"raw\",\"\\ud800\"]]"
    let report := (invocationOn failingPlace document).main ["--script-out=p.gp", "--dry-run"]
    Content.Expresses (Text.Utf8.encode document) [.raw (String.ofList [Text.standIn 0xd800])] ∧
      failingPlace.files.Writable "p.gp" ∧ report.exit = .ok 2 ∧ report.calls = [] ∧
        report.output = "" ∧ report.files.read "p.gp" = .ok [] := by
  intro _ document report
  have writable : failingPlace.files.Writable "p.gp" :=
    ⟨⟨some 0, ["p.gp"]⟩, rfl, by decide, rfl⟩
  have valid : LogLevel.ofName? "WARNING" = some .warning := by decide
  have asked : report =
      (invocationOn failingPlace document).perform ⟨some "-", true, some "p.gp"⟩ := rfl
  have unencodable : ¬ IsEncodable (scriptText [.raw (String.ofList [Text.standIn 0xd800])]) := by
    intro encodable
    have plain := encodable (Text.standIn 0xd800) (by decide)
    cases plain.symm.trans (Text.StandIns.half?_standIn rfl)
  rw [asked]
  exact ⟨loneHalfDocument_expresses, writable,
    Invocation.perform_of_not_isEncodable valid (.inl ⟨rfl, rfl⟩) loneHalfDocument_expresses rfl
      writable unencodable⟩

end GnuplotScript.CommandLine
