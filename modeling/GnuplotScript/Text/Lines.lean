/-!
# Joined text and physical lines

A script is text whose physical lines end at line feeds. This module joins pieces with a
separator, cuts text at line feeds, and brings the three conventions for line breaks to one.

## Main definitions

* `Text.join` — the pieces in order, the separator between neighbours
* `Text.pieces` — what lies between the separators of a text
* `Text.physicalLines` — the lines of a text, cut at line feeds
* `Text.normalizeBreaks` — every carriage return, alone or before a line feed, as a line feed

## Main results

* `join_append` — joining is compositional on non-empty lists
* `joinPieces_pieces` — the pieces of a text, put together again, are the text
-/

namespace GnuplotScript.Text

/-- The pieces in order, with the separator between neighbours. -/
def join (separator : String) : List String → String
  | [] => ""
  | [piece] => piece
  | piece :: next :: rest => piece ++ separator ++ join separator (next :: rest)

@[simp] theorem join_singleton (separator piece : String) : join separator [piece] = piece := rfl

@[simp] theorem join_cons_cons (separator piece next : String) (rest : List String) :
    join separator (piece :: next :: rest) =
      piece ++ separator ++ join separator (next :: rest) := rfl

theorem join_cons (separator piece : String) {rest : List String} (h : rest ≠ []) :
    join separator (piece :: rest) = piece ++ separator ++ join separator rest := by
  cases rest with
  | nil => exact absurd rfl h
  | cons next rest => rfl

theorem join_append (separator : String) {front back : List String}
    (hfront : front ≠ []) (hback : back ≠ []) :
    join separator (front ++ back) = join separator front ++ separator ++ join separator back := by
  induction front with
  | nil => exact absurd rfl hfront
  | cons piece front ih =>
    cases front with
    | nil => simp [join_cons separator piece hback]
    | cons next front =>
      have step := ih (by simp)
      simp only [List.cons_append, join_cons_cons] at step ⊢
      rw [step]
      simp [String.append_assoc]

/-- What lies between the separators of a text; there is always one piece. -/
def pieces (separator : Char) : List Char → List (List Char)
  | [] => [[]]
  | c :: rest =>
    if c = separator then [] :: pieces separator rest
    else
      -- There is always a first piece, and the character goes in front of it.
      match pieces separator rest with
      | [] => [[c]]
      | piece :: others => (c :: piece) :: others

theorem pieces_ne_nil (separator : Char) (cs : List Char) : pieces separator cs ≠ [] := by
  cases cs with
  | nil => simp [pieces]
  | cons c rest =>
    by_cases h : c = separator
    · simp [pieces, h]
    · simp only [pieces, h, if_false]
      split <;> simp

/-- Pieces put together again with a separator between neighbours. -/
def joinPieces (separator : Char) : List (List Char) → List Char
  | [] => []
  | [piece] => piece
  | piece :: next :: rest => piece ++ separator :: joinPieces separator (next :: rest)

theorem joinPieces_pieces (separator : Char) (cs : List Char) :
    joinPieces separator (pieces separator cs) = cs := by
  induction cs with
  | nil => rfl
  | cons c rest ih =>
    cases hpieces : pieces separator rest with
    | nil => exact absurd hpieces (pieces_ne_nil separator rest)
    | cons piece others =>
      have again : joinPieces separator (piece :: others) = rest := hpieces ▸ ih
      by_cases h : c = separator
      · subst h
        simp [pieces, hpieces, joinPieces, again]
      · simp only [pieces, h, if_false, hpieces]
        cases others <;> simp_all [joinPieces]

/-- The physical lines of a text. -/
def physicalLines (cs : List Char) : List (List Char) :=
  pieces '\n' cs

/-- Every line break as a line feed: a carriage return counts as one, and together with the
line feed after it as one too. -/
def normalizeBreaks : List Char → List Char
  | [] => []
  | '\r' :: '\n' :: rest => '\n' :: normalizeBreaks rest
  -- A carriage return here has no line feed behind it.
  | c :: rest => (if c = '\r' then '\n' else c) :: normalizeBreaks rest

end GnuplotScript.Text
