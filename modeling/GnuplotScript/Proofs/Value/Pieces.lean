import GnuplotScript.Proofs.Text.Lines
import GnuplotScript.Proofs.Text.Quoted
import GnuplotScript.Value.Basic

/-!
# The pieces of a value

A sequence keeps its brackets only if it has one item, so that its text does not show all of its
structure. What it does show is a list of pieces with commas between them: the texts of values
that are no sequences, nothing where an empty sequence stands, and brackets around further
pieces. As long as no text but a literal holds a mark of sequences, the pieces can be told from
the text.

## Main definitions

* `Piece` — what stands between commas
* `Value.pieces` — what is left of a value in its text
* `writeAll` — how pieces are written
* `Value.IsLegible` — values whose texts hold no marks of sequences outside literals
* `Piece.IsTold` — pieces that are told from any other, and from what follows them

## Main results

* `toList_render` — a value is written as its pieces
* `Piece.IsLegible.isTold` — legible pieces are told from each other
* `writeAll_inj` — no two lists of legible pieces are written alike
* `render_eq_iff_pieces_eq` — values are written alike exactly if they have the same pieces
-/

namespace GnuplotScript

open Text (joinPieces quote)

/-- What stands between the commas in the text of a sequence. -/
inductive Piece where
  | atom (text : String)
  | empty
  | bracket (pieces : List Piece)

/-- A value that is no sequence. -/
def Value.IsLeaf (v : Value) : Prop :=
  ∀ items, v ≠ .sequence items

mutual

/-- How a piece is written. -/
def Piece.write : Piece → List Char
  | .atom text => text.toList
  | .empty => []
  | .bracket pieces => '[' :: joinPieces ',' (writeEach pieces) ++ [']']

/-- How each of several pieces is written. -/
def writeEach : List Piece → List (List Char)
  | [] => []
  | p :: rest => p.write :: writeEach rest

end

/-- How pieces are written, with commas between them. -/
def writeAll (ps : List Piece) : List Char :=
  joinPieces ',' (ps.map Piece.write)

@[simp] theorem writeEach_eq_map (ps : List Piece) : writeEach ps = ps.map Piece.write := by
  induction ps with
  | nil => rfl
  | cons p rest ih => simp [writeEach, ih]

/-- The characters that have a meaning around the items of sequences. -/
def marks : List Char :=
  [',', '[', ']', '"']

/-- A text that is there and holds none of these. -/
def IsToken (text : String) : Prop :=
  text ≠ "" ∧ ∀ c ∈ text.toList, c ∉ marks

/-- Pieces of legible values: literals, tokens, gaps, and brackets around such. -/
inductive Piece.IsLegible : Piece → Prop where
  | literal (s : String) : IsLegible (.atom (quote s))
  | token {text : String} : IsToken text → IsLegible (.atom text)
  | empty : IsLegible .empty
  | bracket {pieces : List Piece} :
    pieces ≠ [] → (∀ p ∈ pieces, IsLegible p) → IsLegible (.bracket pieces)

variable {v w : Value} {items others : List Value} {p q : Piece} {ps qs : List Piece}
  {rest after : List Char}

@[simp] theorem writeAll_singleton (p : Piece) : writeAll [p] = p.write := rfl

@[simp] theorem write_bracket (ps : List Piece) :
    (Piece.bracket ps).write = '[' :: writeAll ps ++ [']'] := by
  rw [Piece.write, writeEach_eq_map, writeAll]

namespace Value

/-- Whatever holds of leaves, and of sequences if it does of their items, holds of all values. -/
@[elab_as_elim]
theorem induction_on_sequence {motive : Value → Prop} (v : Value)
    (leaf : ∀ v : Value, v.IsLeaf → motive v)
    (step : ∀ items : List Value, (∀ item ∈ items, motive item) → motive (sequence items)) :
    motive v := by
  cases v with
  | sequence items =>
    exact step items fun item _ => induction_on_sequence item leaf step
  | _ => exact leaf _ nofun
termination_by sizeOf v
decreasing_by
  have below := List.sizeOf_lt_of_mem ‹item ∈ items›
  rw [sequence.sizeOf_spec]
  omega

theorem isLeaf_text (s : String) : IsLeaf (.text s) :=
  nofun

end Value

section Halves

variable [Text.Halves]

mutual

/-- What is left of a value in its text. -/
def Value.pieces : Value → List Piece
  | .sequence [] => [.empty]
  | .sequence [item] => [.bracket item.pieces]
  | .sequence items => piecesOfAll items
  | v => [.atom v.render]

/-- What is left of several values, one after the other. -/
def piecesOfAll : List Value → List Piece
  | [] => []
  | v :: rest => v.pieces ++ piecesOfAll rest

end

@[simp] theorem piecesOfAll_eq_flatMap (items : List Value) :
    piecesOfAll items = items.flatMap Value.pieces := by
  induction items with
  | nil => rfl
  | cons v rest ih => simp [piecesOfAll, ih]

/-- Values with texts, and with other leaves only if these are written as tokens. -/
inductive Value.IsLegible : Value → Prop where
  | text (s : String) : IsLegible (.text s)
  | token {v : Value} : v.IsLeaf → IsToken v.render → IsLegible v
  | sequence {items : List Value} :
    (∀ item ∈ items, IsLegible item) → IsLegible (.sequence items)

namespace Value

theorem pieces_of_isLeaf (h : v.IsLeaf) : v.pieces = [.atom v.render] := by
  cases v with
  | sequence items => exact absurd rfl (h items)
  | _ => rw [pieces]; all_goals nofun

@[simp] theorem pieces_sequence_nil : pieces (.sequence []) = [.empty] := by
  rw [pieces]

@[simp] theorem pieces_sequence_singleton (item : Value) :
    pieces (.sequence [item]) = [.bracket item.pieces] := by
  rw [pieces]

/-- The pieces of several items are those of the sequence. -/
theorem pieces_sequence (h : 2 ≤ items.length) :
    pieces (.sequence items) = items.flatMap pieces := by
  match items with
  | first :: second :: rest => simp [pieces]

theorem isLegible_sequence_iff :
    IsLegible (.sequence items) ↔ ∀ item ∈ items, item.IsLegible := by
  constructor
  · intro h
    cases h with
    | token hleaf _ => exact absurd rfl (hleaf items)
    | sequence hitems => exact hitems
  · exact .sequence

/-- There is always a piece. -/
theorem pieces_ne_nil (v : Value) : v.pieces ≠ [] := by
  induction v using induction_on_sequence with
  | leaf v hv =>
    rw [pieces_of_isLeaf hv]
    exact List.cons_ne_nil _ _
  | step items ih =>
    match items with
    | [] => simp
    | [item] => simp
    | first :: second :: rest =>
      rw [pieces_sequence (by simp), List.flatMap_cons]
      exact List.append_ne_nil_of_left_ne_nil (ih first (by simp)) _

/-- The pieces of a sequence depend on its items by their pieces only. -/
theorem pieces_sequence_congr (h : items.map pieces = others.map pieces) :
    pieces (.sequence items) = pieces (.sequence others) := by
  have lengths : items.length = others.length := by
    simpa using congrArg List.length h
  match items, others with
  | [], [] => rfl
  | [_], [_] => simpa using h
  | _ :: _ :: _, _ :: _ :: _ =>
    rw [pieces_sequence (by simp), pieces_sequence (by simp), List.flatMap_def, h, List.flatMap_def]

end Value

/-- A value is written as its pieces. -/
theorem toList_render (v : Value) : v.render.toList = writeAll v.pieces := by
  induction v using Value.induction_on_sequence with
  | leaf v hv =>
    rw [Value.pieces_of_isLeaf hv, writeAll_singleton, Piece.write]
  | step items ih =>
    match items with
    | [] =>
      rw [Value.pieces_sequence_nil, writeAll_singleton, Value.render_sequence (by simp)]
      rfl
    | [item] =>
      rw [Value.pieces_sequence_singleton, writeAll_singleton, write_bracket,
        Value.render_sequence_singleton, String.toList_append, String.toList_append,
        ih item (List.mem_singleton_self item)]
      rfl
    | first :: second :: more =>
      have each : (first :: second :: more).map (fun item => item.render.toList) =
          (first :: second :: more).map fun item => writeAll item.pieces :=
        List.map_congr_left ih
      have some : ∀ item ∈ first :: second :: more, item.pieces.map Piece.write ≠ [] :=
        fun item _ => by simpa using item.pieces_ne_nil
      rw [Value.pieces_sequence (by simp), Value.render_sequence (by simp),
        Text.toList_join_of_toList_eq rfl, List.map_map, writeAll, List.map_flatMap,
        ← Text.joinPieces_flatMap ',' some]
      exact congrArg (joinPieces ',') each

theorem render_eq_of_pieces_eq (h : v.pieces = w.pieces) : v.render = w.render := by
  rw [← String.toList_inj, toList_render, toList_render, h]

/-- A leaf of a legible value is a literal or a token, and so are its pieces. -/
theorem Value.IsLegible.isLegible_pieces (h : v.IsLegible) : ∀ p ∈ v.pieces, p.IsLegible := by
  induction h with
  | text s =>
    rw [pieces_of_isLeaf (isLeaf_text s), render_text, List.forall_mem_singleton]
    exact .literal s
  | token hleaf htoken =>
    rw [pieces_of_isLeaf hleaf, List.forall_mem_singleton]
    exact .token htoken
  | @sequence items _ ih =>
    match items with
    | [] =>
      rw [pieces_sequence_nil, List.forall_mem_singleton]
      exact .empty
    | [item] =>
      rw [pieces_sequence_singleton, List.forall_mem_singleton]
      exact .bracket item.pieces_ne_nil (ih item (List.mem_singleton_self item))
    | first :: second :: more =>
      rw [pieces_sequence (by simp)]
      intro p hp
      obtain ⟨item, hitem, hp⟩ := List.mem_flatMap.1 hp
      exact ih item hitem p hp

end Halves

/-! ### What a piece begins with -/

/-- What a text may begin with, as far as it tells the kinds of pieces from each other. -/
inductive Opening where
  | literal
  | bracket
  | token
  | gap
  deriving DecidableEq, Repr

/-- What a text begins with; there is a gap in front of a comma or a closing bracket. -/
def opening : List Char → Opening
  | [] => .gap
  | c :: _ =>
    if c = '"' then .literal
    else if c = '[' then .bracket
    else if c ∈ marks then .gap
    else .token

/-- A text that may follow several pieces: none, or one that begins with a closing bracket. -/
def EndsPieces (rest : List Char) : Prop :=
  rest = [] ∨ ∃ tail, rest = ']' :: tail

/-- A text that may follow a piece, after which there may be others. -/
def EndsPiece (rest : List Char) : Prop :=
  EndsPieces rest ∨ ∃ tail, rest = ',' :: tail

theorem opening_of_endsPiece (h : EndsPiece rest) : opening rest = .gap := by
  rcases h with (rfl | ⟨tail, rfl⟩) | ⟨tail, rfl⟩ <;> rfl

theorem takeWhile_of_endsPiece (h : EndsPiece rest) : rest.takeWhile (· ∉ marks) = [] := by
  rcases h with (rfl | ⟨tail, rfl⟩) | ⟨tail, rfl⟩ <;> rfl

section Token

variable {text other : String}

theorem opening_token_append (h : IsToken text) (rest : List Char) :
    opening (text.toList ++ rest) = .token := by
  obtain ⟨nonempty, unmarked⟩ := h
  cases hcs : text.toList with
  | nil => exact absurd (String.toList_eq_nil_iff.1 hcs) nonempty
  | cons c cs =>
    have hc : c ∉ marks := unmarked c (hcs ▸ List.mem_cons_self)
    have quote : c ≠ '"' := by
      rintro rfl
      exact hc (by decide)
    have bracket : c ≠ '[' := by
      rintro rfl
      exact hc (by decide)
    rw [List.cons_append, opening, if_neg quote, if_neg bracket, if_neg hc]

theorem opening_token (h : IsToken text) : opening text.toList = .token := by
  simpa using opening_token_append h []

/-- A token goes on as long as there are no marks. -/
theorem takeWhile_token_append (h : IsToken text) (hrest : EndsPiece rest) :
    (text.toList ++ rest).takeWhile (· ∉ marks) = text.toList := by
  rw [List.takeWhile_append_of_pos, takeWhile_of_endsPiece hrest, List.append_nil]
  intro c hc
  exact decide_eq_true (h.2 c hc)

theorem token_append_inj (htext : IsToken text) (hother : IsToken other) (hrest : EndsPiece rest)
    (hafter : EndsPiece after) (h : text.toList ++ rest = other.toList ++ after) :
    text = other ∧ rest = after := by
  have same : text.toList = other.toList := by
    rw [← takeWhile_token_append htext hrest, h, takeWhile_token_append hother hafter]
  rw [same] at h
  exact ⟨String.toList_inj.1 same, List.append_cancel_left h⟩

end Token

namespace Piece

/-- What follows a piece does not matter for what it begins with. -/
theorem IsLegible.opening_append (h : p.IsLegible) (hrest : EndsPiece rest) :
    opening (p.write ++ rest) = opening p.write := by
  cases h with
  | literal s =>
    rw [write, Text.toList_quote]
    rfl
  | token htext => rw [write, opening_token_append htext, opening_token htext]
  | empty => exact opening_of_endsPiece hrest
  | bracket _ _ =>
    rw [write_bracket]
    rfl

/-- What a legible piece is that begins in some way. -/
def Begins (p : Piece) : Opening → Prop
  | .literal => ∃ s, p = .atom (quote s)
  | .bracket => ∃ ps, ps ≠ [] ∧ (∀ p ∈ ps, p.IsLegible) ∧ p = .bracket ps
  | .token => ∃ text, IsToken text ∧ p = .atom text
  | .gap => p = .empty

theorem IsLegible.begins (h : p.IsLegible) : p.Begins (opening p.write) := by
  cases h with
  | literal s =>
    rw [write, Text.toList_quote]
    exact ⟨s, rfl⟩
  | @token text htext =>
    rw [write, opening_token htext]
    exact ⟨text, htext, rfl⟩
  | empty => rfl
  | @bracket ps some legible =>
    rw [write_bracket]
    exact ⟨ps, some, legible, rfl⟩

/-- Pieces that are written alike begin alike. -/
theorem begins_of_append_eq (hp : p.IsLegible) (hq : q.IsLegible) (hrest : EndsPiece rest)
    (hafter : EndsPiece after) (h : p.write ++ rest = q.write ++ after) :
    q.Begins (opening p.write) := by
  rw [← hp.opening_append hrest, h, hq.opening_append hafter]
  exact hq.begins

/-- A piece that is told from any other, and from what follows it. -/
def IsTold (p : Piece) : Prop :=
  ∀ {q : Piece} {rest after : List Char}, q.IsLegible → EndsPiece rest → EndsPiece after →
    p.write ++ rest = q.write ++ after → p = q ∧ rest = after

end Piece

/-- What follows the first of several pieces. -/
def behindFirst (rest : List Char) : List Piece → List Char
  | [] => rest
  | ps => ',' :: (writeAll ps ++ rest)

theorem writeAll_cons_append (p : Piece) (ps : List Piece) (rest : List Char) :
    writeAll (p :: ps) ++ rest = p.write ++ behindFirst rest ps := by
  cases ps with
  | nil => rfl
  | cons next others =>
    rw [writeAll, List.map_cons, Text.joinPieces_cons ',' p.write (by simp), List.append_assoc]
    rfl

theorem endsPiece_behindFirst (h : EndsPieces rest) (ps : List Piece) :
    EndsPiece (behindFirst rest ps) := by
  cases ps with
  | nil => exact .inl h
  | cons next others => exact .inr ⟨_, rfl⟩

/-- A comma goes on with pieces, so that nothing that ends them begins with one. -/
theorem behindFirst_ne (h : EndsPieces rest) (q : Piece) (qs : List Piece) :
    rest ≠ behindFirst after (q :: qs) := by
  rintro rfl
  rcases h with none | ⟨tail, closing⟩
  · cases none
  · cases (List.cons.inj closing).1

/-- Pieces are told from any others if each of them is. -/
theorem writeAll_append_inj (told : ∀ p ∈ ps, p.IsTold) (hqs : ∀ q ∈ qs, q.IsLegible)
    (someps : ps ≠ []) (someqs : qs ≠ []) (hrest : EndsPieces rest) (hafter : EndsPieces after)
    (h : writeAll ps ++ rest = writeAll qs ++ after) : ps = qs ∧ rest = after := by
  induction ps generalizing qs with
  | nil => exact absurd rfl someps
  | cons p ps ih =>
    obtain ⟨q, qs, rfl⟩ := List.exists_cons_of_ne_nil someqs
    obtain ⟨first, others⟩ := List.forall_mem_cons.1 told
    obtain ⟨legible, hmore⟩ := List.forall_mem_cons.1 hqs
    rw [writeAll_cons_append, writeAll_cons_append] at h
    obtain ⟨rfl, behind⟩ := first legible (endsPiece_behindFirst hrest ps)
      (endsPiece_behindFirst hafter qs) h
    -- Either both end here, or a comma follows in both.
    match ps, qs with
    | [], [] => exact ⟨rfl, behind⟩
    | [], next :: more => exact absurd behind (behindFirst_ne hrest next more)
    | next :: more, [] => exact absurd behind.symm (behindFirst_ne hafter next more)
    | _ :: _, _ :: _ =>
      obtain ⟨same, ends⟩ := ih others hmore (by simp) (by simp) (List.cons.inj behind).2
      exact ⟨congrArg _ same, ends⟩

/-- Legible pieces are told from each other: literals end at their quotes, tokens at the next
mark, and brackets at the end of the pieces inside. -/
theorem Piece.IsLegible.isTold (h : p.IsLegible) : p.IsTold := by
  induction h with
  | literal s =>
    intro q rest after hq hrest hafter heq
    have alike := begins_of_append_eq (.literal s) hq hrest hafter heq
    rw [write, Text.toList_quote] at alike
    obtain ⟨s', rfl⟩ := alike
    rw [write, write, Text.toList_quote, Text.toList_quote] at heq
    obtain ⟨texts, ends⟩ := Text.Quoted.encode_append_inj heq
    rw [String.toList_inj.1 texts]
    exact ⟨rfl, ends⟩
  | token htext =>
    intro q rest after hq hrest hafter heq
    have alike := begins_of_append_eq (.token htext) hq hrest hafter heq
    rw [write, opening_token htext] at alike
    obtain ⟨other, hother, rfl⟩ := alike
    rw [write, write] at heq
    obtain ⟨rfl, ends⟩ := token_append_inj htext hother hrest hafter heq
    exact ⟨rfl, ends⟩
  | empty =>
    intro q rest after hq hrest hafter heq
    obtain rfl : q = .empty := begins_of_append_eq .empty hq hrest hafter heq
    exact ⟨rfl, heq⟩
  | @bracket ps some legible ih =>
    intro q rest after hq hrest hafter heq
    have alike := begins_of_append_eq (.bracket some legible) hq hrest hafter heq
    rw [write_bracket] at alike
    obtain ⟨qs, others, hqs, rfl⟩ := alike
    rw [write_bracket, write_bracket, List.append_assoc, List.append_assoc] at heq
    obtain ⟨rfl, ends⟩ := writeAll_append_inj ih hqs some others (.inr ⟨rest, rfl⟩)
      (.inr ⟨after, rfl⟩) (List.cons.inj heq).2
    exact ⟨rfl, (List.cons.inj ends).2⟩

/-- No two lists of legible pieces are written alike. -/
theorem writeAll_inj (hps : ∀ p ∈ ps, p.IsLegible) (hqs : ∀ q ∈ qs, q.IsLegible) (someps : ps ≠ [])
    (someqs : qs ≠ []) (h : writeAll ps = writeAll qs) : ps = qs := by
  have told : ∀ p ∈ ps, p.IsTold := fun p hp => (hps p hp).isTold
  have nothing : EndsPieces [] := .inl rfl
  exact (writeAll_append_inj told hqs someps someqs nothing nothing (by simpa using h)).1

/-- Legible values are written alike exactly if they have the same pieces. -/
theorem render_eq_iff_pieces_eq [Text.Halves] (hv : v.IsLegible) (hw : w.IsLegible) :
    v.render = w.render ↔ v.pieces = w.pieces := by
  constructor
  · intro h
    rw [← String.toList_inj, toList_render, toList_render] at h
    exact writeAll_inj hv.isLegible_pieces hw.isLegible_pieces v.pieces_ne_nil w.pieces_ne_nil h
  · exact render_eq_of_pieces_eq

end GnuplotScript
