import GnuplotScript.Script
import GnuplotScript.Proofs.Script.Statement

/-!
# Data blocks as the engine reads them

The engine takes the lines of a data block as they come: from the line after the header to the
first one that is the terminator. A block is written without regard to that, so not all lines
come back. An empty block is read as one of an empty line, a line with a line feed in it as
several, and a line that is the terminator ends the block where it stands.

## Main definitions

* `DataBlock` — a data block that has been read, and the text that it leaves
* `DataBlock.read` — the data block that a text begins with
* `DataBlock.CanHold` — lines that come back

## Main results

* `readBody_holds` — only lines that come back are ever read
* `read_fragment_of_canHold` — these lines are read from the fragment of their block
* `exists_follows_of_script` — such a fragment is followed in a script by what may follow a block
* `data_survives_iff` — the lines of a block come back exactly if it can hold them
-/

namespace GnuplotScript

/-- A data block that has been read: its name, its lines, and the text after its last line. -/
structure DataBlock where
  name : List Char
  lines : List (List Char)
  rest : List Char
  deriving DecidableEq, Repr

namespace DataBlock

open Statement (headerEnd terminator)

/-- The lines before the terminator, and the text after it. Of the first line that much is given
as has been read already. -/
def readBody (line : List Char) : List Char → Option (List (List Char) × List Char)
  | [] => if line = terminator then some ([], []) else none
  | c :: rest =>
    if c = '\n' then
      if line = terminator then some ([], c :: rest)
      else (readBody [] rest).map fun (lines, after) => (line :: lines, after)
    else readBody (line ++ [c]) rest

/-- The data block that a text begins with, if its first line is the header of one and there is
a terminator after that. -/
def read (text : List Char) : Option DataBlock :=
  let header := text.takeWhile (· ≠ '\n')
  match text.dropWhile (· ≠ '\n') with
  | [] => none
  | _ :: body =>
    if headerEnd <:+ header then
      (readBody [] body).map fun (lines, rest) =>
        ⟨header.take (header.length - headerEnd.length), lines, rest⟩
    else none

/-- Lines that a data block can hold: there are some, each of them is one line, and none is the
terminator. -/
def CanHold (lines : List String) : Prop :=
  lines ≠ [] ∧ ∀ line ∈ lines, '\n' ∉ line.toList ∧ line ≠ Form.terminator

instance (lines : List String) : Decidable (CanHold lines) :=
  inferInstanceAs (Decidable (_ ∧ _))

/-- A text that can follow a data block: none, or one from a new line on. -/
def Follows (rest : List Char) : Prop :=
  rest = [] ∨ ∃ text, rest = '\n' :: text

variable {line cs rest after : List Char} {lines body : List (List Char)}

/-! ### Lines -/

theorem readBody_append (h : '\n' ∉ cs) (line rest : List Char) :
    readBody line (cs ++ rest) = readBody (line ++ cs) rest := by
  induction cs generalizing line with
  | nil => rw [List.nil_append, List.append_nil]
  | cons c others ih =>
    rw [List.mem_cons, not_or] at h
    rw [List.cons_append, readBody, if_neg (Ne.symm h.1), ih h.2, List.append_assoc,
      List.singleton_append]

/-- A line that is not the terminator is one of those that are read. -/
theorem readBody_line (h : '\n' ∉ line) (hne : line ≠ terminator) (rest : List Char) :
    readBody [] (line ++ '\n' :: rest) =
      (readBody [] rest).map fun (lines, after) => (line :: lines, after) := by
  rw [readBody_append h, List.nil_append, readBody, if_pos rfl, if_neg hne]

/-- The terminator ends the block, and what follows is left. -/
theorem readBody_terminator (h : Follows rest) :
    readBody [] (terminator ++ rest) = some ([], rest) := by
  have single : '\n' ∉ terminator := by decide
  rw [readBody_append single, List.nil_append]
  rcases h with rfl | ⟨text, rfl⟩
  · exact if_pos rfl
  · rw [readBody, if_pos rfl, if_pos rfl]

/-- Lines that are single and not the terminator are read up to it. -/
theorem readBody_lines (h : ∀ line ∈ body, '\n' ∉ line ∧ line ≠ terminator) (hrest : Follows rest) :
    readBody [] (body.flatMap (· ++ ['\n']) ++ (terminator ++ rest)) = some (body, rest) := by
  induction body with
  | nil => exact readBody_terminator hrest
  | cons line others ih =>
    obtain ⟨⟨single, hne⟩, hothers⟩ := List.forall_mem_cons.1 h
    rw [List.flatMap_cons, List.append_assoc, List.append_assoc, List.singleton_append,
      readBody_line single hne, ih hothers]
    rfl

/-- Whatever the text is, the lines that are read are single and not the terminator. -/
theorem readBody_holds (h : readBody line cs = some (lines, after)) (hline : '\n' ∉ line) :
    ∀ l ∈ lines, '\n' ∉ l ∧ l ≠ terminator := by
  -- The first line grows from step to step, so the induction is over every beginning of it.
  induction cs generalizing line lines with
  | nil =>
    rw [readBody] at h
    split at h
    · cases h
      exact nofun
    · cases h
  | cons c rest ih =>
    rw [readBody] at h
    split at h
    next =>
      split at h
      next =>
        cases h
        exact nofun
      next hne =>
        obtain ⟨⟨others, left⟩, hread, heq⟩ := Option.map_eq_some_iff.1 h
        cases heq
        exact List.forall_mem_cons.2 ⟨⟨hline, hne⟩, ih hread List.not_mem_nil⟩
    next hc =>
      have grown : '\n' ∉ line ++ [c] := by
        rw [List.mem_append, not_or, List.mem_singleton]
        exact ⟨hline, Ne.symm hc⟩
      exact ih h grown

/-! ### Blocks -/

theorem read_header {name : List Char} (h : '\n' ∉ name) (body : List Char) :
    read (name ++ headerEnd ++ '\n' :: body) =
      (readBody [] body).map fun (lines, rest) => ⟨name, lines, rest⟩ := by
  have inside : ∀ c ∈ name ++ headerEnd, decide (c ≠ '\n') = true := by
    intro c hc
    have single : '\n' ∉ headerEnd := by decide
    rw [decide_eq_true_iff]
    rintro rfl
    exact (List.mem_append.1 hc).elim h single
  have header : (name ++ headerEnd ++ '\n' :: body).takeWhile (· ≠ '\n') = name ++ headerEnd := by
    rw [List.takeWhile_append_of_pos inside, List.takeWhile_cons_of_neg (by simp),
      List.append_nil]
  have below : (name ++ headerEnd ++ '\n' :: body).dropWhile (· ≠ '\n') = '\n' :: body := by
    rw [List.dropWhile_append_of_pos inside, List.dropWhile_cons_of_neg (by simp)]
  have named : (name ++ headerEnd).take ((name ++ headerEnd).length - headerEnd.length) = name := by
    rw [List.length_append, Nat.add_sub_cancel, List.take_left]
  simp only [read, header, below, named, if_pos (List.suffix_append name headerEnd)]

/-- Joined lines with a line feed behind them are lines with a line feed behind each. -/
theorem joinPieces_append_newline (hne : body ≠ []) (rest : List Char) :
    Text.joinPieces '\n' body ++ '\n' :: rest = body.flatMap (· ++ ['\n']) ++ rest := by
  induction body with
  | nil => exact absurd rfl hne
  | cons line others ih =>
    by_cases last : others = []
    · rw [last, Text.joinPieces, List.flatMap_singleton, List.append_assoc,
        List.singleton_append]
    · rw [Text.joinPieces_cons '\n' line last, List.append_assoc, List.cons_append, ih last,
        List.flatMap_cons, List.append_assoc, List.append_assoc, List.singleton_append]

theorem toList_fragment_data [Text.Halves] (name : String) (lines : List String) :
    (Form.data name lines).fragment.toList = name.toList ++ headerEnd ++
      '\n' :: (Text.joinPieces '\n' (lines.map String.toList) ++ '\n' :: terminator) := by
  rw [Form.fragment, Form.block, ← Text.toList_join]
  simp only [String.toList_append, List.append_assoc]
  rfl

section Fragment

variable {name : String} {texts : List String} {block : DataBlock}

theorem forall_mem_map_toList_iff :
    (∀ line ∈ texts.map String.toList, '\n' ∉ line ∧ line ≠ terminator) ↔
      ∀ text ∈ texts, '\n' ∉ text.toList ∧ text ≠ Form.terminator := by
  rw [List.forall_mem_map]
  have ending : Form.terminator.toList = terminator := rfl
  simp only [← ending, Ne, String.toList_inj]

variable [Text.Halves]

/-- What is read from the fragment of a data block, whatever its lines are. -/
theorem read_fragment_append (hname : '\n' ∉ name.toList) (texts : List String)
    (rest : List Char) :
    read ((Form.data name texts).fragment.toList ++ rest) =
      (readBody [] (Text.joinPieces '\n' (texts.map String.toList) ++
        '\n' :: (terminator ++ rest))).map fun (lines, rest) => ⟨name.toList, lines, rest⟩ := by
  rw [toList_fragment_data, List.append_assoc, List.cons_append, read_header hname,
    List.append_assoc, List.cons_append]

/-- Lines that a block can hold are read from its fragment, and nothing of what follows it. -/
theorem read_fragment_of_canHold (hname : '\n' ∉ name.toList) (hrest : Follows rest)
    (h : CanHold texts) :
    read ((Form.data name texts).fragment.toList ++ rest) =
      some ⟨name.toList, texts.map String.toList, rest⟩ := by
  have filled : texts.map String.toList ≠ [] := by
    rw [Ne, List.map_eq_nil_iff]
    exact h.1
  rw [read_fragment_append hname, joinPieces_append_newline filled,
    readBody_lines (forall_mem_map_toList_iff.2 h.2) hrest]
  rfl

/-- A block without lines is read as one of an empty line. -/
theorem read_fragment_nil (hname : '\n' ∉ name.toList) (hrest : Follows rest) :
    read ((Form.data name []).fragment.toList ++ rest) = some ⟨name.toList, [[]], rest⟩ := by
  have body : readBody [] ([] ++ '\n' :: (terminator ++ rest)) = some ([[]], rest) := by
    rw [readBody_line List.not_mem_nil nofun, readBody_terminator hrest]
    rfl
  rw [read_fragment_append hname]
  exact congrArg _ body

/-- Lines that come back from a fragment are lines that a block can hold. -/
theorem canHold_of_read_fragment (hname : '\n' ∉ name.toList) (hrest : Follows rest)
    (h : read ((Form.data name texts).fragment.toList ++ rest) = some block)
    (same : block.lines = texts.map String.toList) : CanHold texts := by
  refine ⟨?_, forall_mem_map_toList_iff.1 ?_⟩
  · rintro rfl
    rw [read_fragment_nil hname hrest] at h
    cases h
    cases same
  · rw [read_fragment_append hname] at h
    obtain ⟨⟨found, left⟩, hread, rfl⟩ := Option.map_eq_some_iff.1 h
    rw [← same]
    exact readBody_holds hread List.not_mem_nil

end Fragment

/-- What follows a data block in a script begins on a new line, if there is any. -/
theorem exists_follows_of_script [Text.Halves] (name : String) (lines : List String)
    (forms : List Form) :
    ∃ rest, Follows rest ∧ (Script.ofForms (.data name lines :: forms)).text.toList =
      (Form.data name lines).fragment.toList ++ rest := by
  cases forms with
  | nil => exact ⟨[], .inl rfl, (List.append_nil _).symm⟩
  | cons f others =>
    refine ⟨_, .inr ⟨(Script.ofForms (f :: others)).text.toList, rfl⟩, ?_⟩
    have given : [Form.data name lines] ≠ [] := List.cons_ne_nil _ _
    have more : f :: others ≠ [] := List.cons_ne_nil _ _
    rw [← List.singleton_append, Script.text_ofForms_append given more]
    simp only [String.toList_append, List.append_assoc]
    rfl

end DataBlock

open DataBlock (CanHold Follows)

/-- The lines of a data block come back from its fragment, under its name and with nothing of what
follows it, exactly if a block can hold them. Other lines do not come back in any way. -/
theorem data_survives_iff [Text.Halves] {name : String} {rest : List Char}
    (hname : '\n' ∉ name.toList) (hrest : Follows rest) (lines : List String) :
    let found := DataBlock.read ((Form.data name lines).fragment.toList ++ rest)
    (found = some ⟨name.toList, lines.map String.toList, rest⟩ ↔ CanHold lines) ∧
      (¬ CanHold lines → ∀ block, found = some block → block.lines ≠ lines.map String.toList) := by
  have only : ∀ block, DataBlock.read ((Form.data name lines).fragment.toList ++ rest) =
      some block → block.lines = lines.map String.toList → CanHold lines :=
    fun block => DataBlock.canHold_of_read_fragment hname hrest
  refine ⟨⟨fun h => only _ h rfl, DataBlock.read_fragment_of_canHold hname hrest⟩, ?_⟩
  intro unfit block h same
  exact unfit (only block h same)

theorem data_survives_blankLine :
    DataBlock.read "$d << EOD\n\n EOD\n0 << EOD\nEOD\nEOD".toList =
        some ⟨"$d".toList, ["".toList, " EOD".toList, "0 << EOD".toList], "\nEOD".toList⟩ ∧
      ∀ block, DataBlock.read "$d << EOD\n0 0\n1 1\nEOD".toList = some block →
        block.lines ≠ ["0 0\n1 1".toList] := by
  have single : '\n' ∉ "$d".toList := by decide
  have follows : Follows "\nEOD".toList := .inr ⟨_, rfl⟩
  have fit : CanHold ["", " EOD", "0 << EOD"] := by decide
  have unfit : ¬ CanHold ["0 0\n1 1"] := by decide
  exact ⟨(data_survives_iff single follows ["", " EOD", "0 << EOD"]).1.2 fit,
    (data_survives_iff single (.inl rfl) ["0 0\n1 1"]).2 unfit⟩

end GnuplotScript
