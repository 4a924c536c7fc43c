import GnuplotScript.Text.Quoted

/-!
# Literals as the engine reads them

The engine is more lenient about double-quoted literals than those who write them have to be:
whatever is no escape stands for itself, line breaks and lone backslashes too. A literal ends at
the first double quote that no escape has taken.

## Main definitions

* `Literal.read` — the text of the literal that characters begin with, and what follows it

## Main results

* `read_of_quotedRead` — what the strict reader reads is read alike
* `read_quote` — a quoted text is read back, whatever follows it
-/

namespace GnuplotScript.Text.Literal

open Quoted (unescape? escapeOf? readTail)

/-- The text up to the closing quote, and what follows the quote. -/
def readInside : List Char → Option (List Char × List Char)
  | [] => none
  | '"' :: rest => some ([], rest)
  | '\\' :: letter :: rest =>
    match unescape? letter with
    | some c => (readInside rest).map fun (cs, after) => (c :: cs, after)
    -- The backslash stands for itself, and the letter is looked at once more.
    | none => (readInside (letter :: rest)).map fun (cs, after) => ('\\' :: cs, after)
  | c :: rest => (readInside rest).map fun (cs, after) => (c :: cs, after)

/-- The text of the literal that characters begin with, and what follows it. -/
def read : List Char → Option (List Char × List Char)
  | '"' :: rest => readInside rest
  | _ => none

variable {t cs rest : List Char}

theorem readInside_of_readTail (h : readTail t = some (cs, rest)) :
    readInside t = some (cs, rest) := by
  fun_induction readTail t generalizing cs with
  | case1 => cases h
  | case2 after => exact h
  | case3 letter r c hc ih =>
    obtain ⟨⟨ds, after⟩, hread, heq⟩ := Option.map_eq_some_iff.1 h
    cases heq
    rw [readInside, hc]
    simp only [ih hread, Option.map_some]
  | case4 => cases h
  | case5 => cases h
  | case6 c r hquote hslash hc ih =>
    obtain ⟨⟨ds, after⟩, hread, heq⟩ := Option.map_eq_some_iff.1 h
    cases heq
    rw [readInside.eq_4 _ _ hquote hslash, ih hread]
    rfl

/-- What the strict reader reads is read alike. -/
theorem read_of_quotedRead (h : Quoted.read t = some (cs, rest)) : read t = some (cs, rest) := by
  unfold Quoted.read at h
  split at h
  next => exact readInside_of_readTail h
  next => cases h

/-- A quoted text is read back, whatever follows it. -/
theorem read_quote (s : String) (rest : List Char) :
    read ((quote s).toList ++ rest) = some (s.toList, rest) := by
  rw [toList_quote]
  exact read_of_quotedRead (Quoted.read_encode s.toList rest)

end GnuplotScript.Text.Literal
