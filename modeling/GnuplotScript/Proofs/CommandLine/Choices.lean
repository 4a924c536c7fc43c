import GnuplotScript.CommandLine.Arguments

/-!
# Choices on the command line

Whoever writes every option in full, and its value in the same argument, is always understood:
such arguments are read one by one, in any order and number, and the last value given to an
option is the one that counts. Only the mark that ends the options is not kept as a value in every
dialect.

## Main definitions

* `Choice`, `Choice.spelling` — an option that is chosen, and how it is written
* `Arguments.ofChoices` — what choices ask for together

## Main results

* `read_spellings` — written choices are read as what they ask for
* `scriptOut_ofChoices`, `scriptOut_ofChoices_dashes`, `dryRun_ofChoices_iff` — what choices ask
  for, option by option
-/

namespace GnuplotScript.CommandLine

/-- An option that is chosen, with its value. -/
inductive Choice where
  | input (path : String)
  | dryRun
  | scriptOut (path : String)
  deriving DecidableEq, Repr

namespace Choice

/-- The argument by which a choice is written. -/
def spelling : Choice → String
  | input path => "--input=" ++ path
  | dryRun => "--dry-run"
  | scriptOut path => "--script-out=" ++ path

/-- The class of that argument. -/
def token : Choice → Token
  | input path => .option "--input" .input (some path)
  | dryRun => .option "--dry-run" .dryRun none
  | scriptOut path => .option "--script-out" .scriptOut (some path)

/-- The arguments after one more choice. -/
def apply (dialect : Dialect) (asked : Arguments) : Choice → Arguments
  | input path => asked.setValue dialect .input path
  | dryRun => { asked with dryRun := true }
  | scriptOut path => asked.setValue dialect .scriptOut path

end Choice

/-- What choices ask for together. -/
def Arguments.ofChoices (dialect : Dialect) (choices : List Choice) : Arguments :=
  choices.foldl (Choice.apply dialect) {}

variable {dialect : Dialect} {choices front back : List Choice} {path value : String} {flag : Flag}
  {asked : Arguments}

/-! ### Writing and reading -/

theorem splitEquals_append {before : List Char} (after : List Char) (h : '=' ∉ before) :
    splitEquals (before ++ '=' :: after) = some (before, after) := by
  have passed : ∀ c ∈ before, decide (c ≠ '=') = true := by
    intro c hc
    simpa using ne_of_mem_of_not_mem hc h
  rw [splitEquals, List.dropWhile_append_of_pos passed, List.takeWhile_append_of_pos passed]
  simp

/-- How options are spelled: each in its own way, without an equals sign, and with characters
after a hyphen. -/
theorem of_mem_spellings {spelling : String} (h : (spelling, flag) ∈ Flag.spellings) :
    Flag.spellings.lookup spelling = some flag ∧ '=' ∉ spelling.toList ∧
      ∃ c rest, spelling.toList = '-' :: c :: rest := by
  simp only [Flag.spellings, List.mem_cons, Prod.mk.injEq, List.not_mem_nil, or_false] at h
  rcases h with ⟨rfl, rfl⟩ | ⟨rfl, rfl⟩ | ⟨rfl, rfl⟩ | ⟨rfl, rfl⟩ | ⟨rfl, rfl⟩ <;>
    exact ⟨rfl, by decide, _, _, rfl⟩

theorem lookup_spellings_of_mem {text : String} (h : '=' ∈ text.toList) :
    Flag.spellings.lookup text = none := by
  rw [List.lookup_eq_none_iff]
  rintro ⟨spelling, flag⟩ hpair
  have plain := (of_mem_spellings hpair).2.1
  have other : text ≠ spelling := by
    rintro rfl
    exact plain h
  simpa using other

/-- An option in full with an equals sign is classified as the option with what follows, whatever
that is. -/
theorem classify_assigned {spelling : String} (h : (spelling, flag) ∈ Flag.spellings)
    (value : String) :
    Token.classify (spelling ++ ("=" ++ value)) = .ok (.option spelling flag (some value)) := by
  obtain ⟨found, plain, c, rest, hspelling⟩ := of_mem_spellings h
  have written : (spelling ++ ("=" ++ value)).toList = spelling.toList ++ '=' :: value.toList := by
    simp
  have begun : (spelling ++ ("=" ++ value)).toList = '-' :: c :: (rest ++ '=' :: value.toList) := by
    rw [written, hspelling]
    rfl
  have unspelled : Flag.spellings.lookup (spelling ++ ("=" ++ value)) = none := by
    apply lookup_spellings_of_mem
    simp
  have assigned : assigned? (spelling ++ ("=" ++ value)) =
      some (.option spelling flag (some value)) := by
    rw [assigned?, written, splitEquals_append _ plain]
    simp [found]
  unfold Token.classify
  simp only [begun, unspelled, assigned]

theorem Choice.classify_spelling (choice : Choice) :
    Token.classify choice.spelling = .ok choice.token := by
  cases choice with
  | input path => exact classify_assigned (by decide : ("--input", Flag.input) ∈ _) path
  | dryRun => rfl
  | scriptOut path =>
    exact classify_assigned (by decide : ("--script-out", Flag.scriptOut) ∈ _) path

/-- No choice is written as the mark that ends the options. -/
theorem Choice.spelling_ne_dashes (choice : Choice) : choice.spelling ≠ "--" := by
  intro h
  have same := choice.classify_spelling
  rw [h] at same
  cases choice <;> cases same

theorem classifyAll_spellings (choices : List Choice) :
    Token.classifyAll (choices.map Choice.spelling) = .ok (choices.map Choice.token) := by
  induction choices with
  | nil => rfl
  | cons choice rest ih =>
    rw [List.map_cons, Token.classifyAll, if_neg choice.spelling_ne_dashes,
      choice.classify_spelling]
    dsimp only
    rw [ih]
    rfl

theorem take_tokens (asked : Arguments) (choices : List Choice) :
    asked.take dialect [] (choices.map Choice.token) =
      .arguments (choices.foldl (Choice.apply dialect) asked) := by
  induction choices generalizing asked with
  | nil => rfl
  | cons choice rest ih =>
    cases choice with
    | input path => exact ih _
    | dryRun => exact ih _
    | scriptOut path => exact ih _

/-- Written choices are read as what they ask for. -/
theorem read_spellings (dialect : Dialect) (choices : List Choice) :
    Arguments.read dialect (choices.map Choice.spelling) =
      .arguments (.ofChoices dialect choices) := by
  rw [Arguments.read, classifyAll_spellings]
  exact take_tokens {} choices

/-! ### What choices ask for -/

/-- Choices of other options leave the file for the script as it was. -/
theorem scriptOut_foldl (h : ∀ path, .scriptOut path ∉ choices) :
    (choices.foldl (Choice.apply dialect) asked).scriptOut = asked.scriptOut := by
  induction choices generalizing asked with
  | nil => rfl
  | cons choice rest ih =>
    have hrest : ∀ path, .scriptOut path ∉ rest := fun path hmem =>
      h path (List.mem_cons_of_mem choice hmem)
    rw [List.foldl_cons, ih hrest]
    cases choice with
    | input path => rfl
    | dryRun => rfl
    | scriptOut path => exact absurd List.mem_cons_self (h path)

/-- The last path chosen for the script counts, unless it is the mark that ends the options and
the dialect does not keep it. -/
theorem scriptOut_ofChoices (hback : ∀ other, .scriptOut other ∉ back)
    (hpath : path ≠ "--" ∨ dialect.keepsDashes = true) :
    (Arguments.ofChoices dialect (front ++ .scriptOut path :: back)).scriptOut = some path := by
  have kept : ¬(path = "--" ∧ dialect.keepsDashes = false) := by
    rintro ⟨dashes, dropped⟩
    rcases hpath with other | keeps
    · exact other dashes
    · exact absurd (keeps.symm.trans dropped) nofun
  rw [Arguments.ofChoices, List.foldl_append, List.foldl_cons, scriptOut_foldl hback]
  simp only [Choice.apply, Arguments.setValue, if_neg kept]

/-- Where the dialect does not keep that mark, choosing it leaves the script without a file. -/
theorem scriptOut_ofChoices_dashes (hback : ∀ other, .scriptOut other ∉ back)
    (hdropped : dialect.keepsDashes = false) :
    (Arguments.ofChoices dialect (front ++ .scriptOut "--" :: back)).scriptOut = none := by
  rw [Arguments.ofChoices, List.foldl_append, List.foldl_cons, scriptOut_foldl hback]
  exact if_pos ⟨rfl, hdropped⟩

theorem dryRun_foldl :
    (choices.foldl (Choice.apply dialect) asked).dryRun = true ↔
      asked.dryRun = true ∨ .dryRun ∈ choices := by
  induction choices generalizing asked with
  | nil => simp
  | cons choice rest ih =>
    rw [List.foldl_cons, ih, List.mem_cons]
    cases choice with
    | input path => simp [Choice.apply, Arguments.setValue]
    | dryRun => simp [Choice.apply]
    | scriptOut path => simp [Choice.apply, Arguments.setValue]

/-- A dry run is one for which the option has been chosen, wherever it stands. -/
theorem dryRun_ofChoices_iff :
    (Arguments.ofChoices dialect choices).dryRun = true ↔ .dryRun ∈ choices := by
  rw [Arguments.ofChoices, dryRun_foldl]
  simp

end GnuplotScript.CommandLine
