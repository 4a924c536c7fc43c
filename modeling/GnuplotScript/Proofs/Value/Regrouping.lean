import Mathlib.Logic.Relation
import GnuplotScript.Proofs.Value.Pieces

/-!
# Regrouping

A sequence of several items among other items is written as if its items stood there
themselves. Values that differ by such groups only, and by leaves that are written alike, are
not told apart in a script; all others are, as long as they are legible.

## Main definitions

* `Value.Regroups` — one group is dissolved, or one leaf replaced by another that is written alike
* `Value.ofPieces` — a value with given pieces, in which no group is left to be dissolved

## Main results

* `pieces_eq_iff_eqvGen` — the same pieces are left exactly of values that differ by regrouping
* `sequences_lose_only_groups` — what is written alike, and what is not
-/

namespace GnuplotScript

/-- Several values as one: a sequence, unless there is just one of them. -/
def Value.group : List Value → Value
  | [v] => v
  | values => .sequence values

mutual

/-- The value that a piece is left of, up to regrouping. -/
def Piece.value : Piece → Value
  | .atom text => .literal text
  | .empty => .sequence []
  | .bracket pieces => .sequence [Value.group (valuesOfPieces pieces)]

/-- The values that several pieces are left of. -/
def valuesOfPieces : List Piece → List Value
  | [] => []
  | p :: rest => p.value :: valuesOfPieces rest

end

@[simp] theorem valuesOfPieces_eq_map (ps : List Piece) :
    valuesOfPieces ps = ps.map Piece.value := by
  induction ps with
  | nil => rfl
  | cons p rest ih => simp [valuesOfPieces, ih]

/-- A value with the given pieces. -/
def Value.ofPieces (ps : List Piece) : Value :=
  group (ps.map Piece.value)

open Relation (EqvGen)

variable {v w : Value} {front inner back items : List Value} {ps : List Piece}

theorem Value.ofPieces_of_length (h : 2 ≤ ps.length) :
    ofPieces ps = .sequence (ps.map Piece.value) := by
  match ps with
  | first :: second :: more => rfl

section Halves

variable [Text.Halves]

namespace Value

/-- One step of regrouping: among other items a sequence of several is dissolved, or a leaf is
replaced by one that is written alike; or this happens inside an item of a sequence. -/
inductive Regroups : Value → Value → Prop where
  | dissolve {front inner back : List Value} : 2 ≤ inner.length → front ++ back ≠ [] →
    Regroups (.sequence (front ++ .sequence inner :: back)) (.sequence (front ++ inner ++ back))
  | leaf {v w : Value} : v.IsLeaf → w.IsLeaf → v.render = w.render → Regroups v w
  | within {front back : List Value} {v w : Value} : Regroups v w →
    Regroups (.sequence (front ++ v :: back)) (.sequence (front ++ w :: back))

/-! ### Regrouped values have the same pieces -/

/-- A group among other items leaves the pieces of its items. -/
theorem pieces_dissolve (hinner : 2 ≤ inner.length) (hne : front ++ back ≠ []) :
    pieces (.sequence (front ++ .sequence inner :: back)) =
      pieces (.sequence (front ++ inner ++ back)) := by
  have others : 0 < (front ++ back).length := List.length_pos_iff.2 hne
  rw [List.length_append] at others
  have before : 2 ≤ (front ++ .sequence inner :: back).length := by
    rw [List.length_append, List.length_cons]
    omega
  have after : 2 ≤ (front ++ inner ++ back).length := by
    rw [List.length_append, List.length_append]
    omega
  rw [pieces_sequence before, pieces_sequence after, List.flatMap_append, List.flatMap_cons,
    pieces_sequence hinner, List.flatMap_append, List.flatMap_append, List.append_assoc]

theorem Regroups.pieces_eq (h : v.Regroups w) : v.pieces = w.pieces := by
  induction h with
  | dissolve hinner hne => exact pieces_dissolve hinner hne
  | leaf hv hw heq => rw [pieces_of_isLeaf hv, pieces_of_isLeaf hw, heq]
  | within _ ih =>
    apply pieces_sequence_congr
    rw [List.map_append, List.map_append, List.map_cons, List.map_cons, ih]

theorem pieces_eq_of_eqvGen (h : EqvGen Regroups v w) : v.pieces = w.pieces := by
  induction h with
  | rel _ _ h => exact h.pieces_eq
  | refl _ => rfl
  | symm _ _ _ ih => exact ih.symm
  | trans _ _ _ _ _ ih ih' => exact ih.trans ih'

/-! ### Values with the same pieces are regrouped -/

/-- Regrouping in one item is regrouping in the sequence. -/
theorem eqvGen_within (h : EqvGen Regroups v w) (front back : List Value) :
    EqvGen Regroups (.sequence (front ++ v :: back)) (.sequence (front ++ w :: back)) := by
  induction h with
  | rel _ _ h => exact .rel _ _ (.within h)
  | refl _ => exact .refl _
  | symm _ _ _ ih => exact .symm _ _ ih
  | trans _ _ _ _ _ ih ih' => exact .trans _ _ _ ih ih'

/-- Regrouping in each item is regrouping in the sequence. -/
theorem eqvGen_map {f : Value → Value} (front : List Value)
    (h : ∀ item ∈ items, EqvGen Regroups item (f item)) :
    EqvGen Regroups (.sequence (front ++ items)) (.sequence (front ++ items.map f)) := by
  induction items generalizing front with
  | nil => exact .refl _
  | cons item rest ih =>
    obtain ⟨hitem, hrest⟩ := List.forall_mem_cons.1 h
    have others := ih (front ++ [f item]) hrest
    rw [List.append_assoc, List.append_assoc] at others
    exact .trans _ _ _ (eqvGen_within hitem front rest) others

/-- Among other items each group of several can be dissolved. -/
theorem eqvGen_flatMap {f : Value → List Value} (front : List Value)
    (some : ∀ item ∈ items, f item ≠ []) (hlength : 2 ≤ front.length + items.length) :
    EqvGen Regroups (.sequence (front ++ items.map fun item => group (f item)))
      (.sequence (front ++ items.flatMap f)) := by
  induction items generalizing front with
  | nil => exact .refl _
  | cons item rest ih =>
    obtain ⟨hitem, hrest⟩ := List.forall_mem_cons.1 some
    have positive : 0 < (f item).length := List.length_pos_iff.2 hitem
    rw [List.length_cons] at hlength
    have others := ih (front ++ f item) hrest (by rw [List.length_append]; omega)
    rw [List.append_assoc, List.append_assoc] at others
    rw [List.map_cons, List.flatMap_cons]
    match hvalues : f item with
    | [] => exact absurd hvalues hitem
    | [_] =>
      rw [hvalues] at others
      exact others
    | first :: second :: more =>
      have among : front ++ rest.map (fun item => group (f item)) ≠ [] := by
        rw [← List.length_pos_iff, List.length_append, List.length_map]
        omega
      have dissolved : Regroups (.sequence (front ++ .sequence (first :: second :: more) :: _))
          (.sequence (front ++ (first :: second :: more) ++ _)) := .dissolve (by simp) among
      rw [List.append_assoc] at dissolved
      rw [hvalues] at others
      exact .trans _ _ _ (.rel _ _ dissolved) others

/-- Several items leave several pieces. -/
theorem length_flatMap_pieces (h : 2 ≤ items.length) : 2 ≤ (items.flatMap pieces).length := by
  match items with
  | first :: second :: more =>
    have one : 0 < first.pieces.length := List.length_pos_iff.2 first.pieces_ne_nil
    have another : 0 < second.pieces.length := List.length_pos_iff.2 second.pieces_ne_nil
    rw [List.flatMap_cons, List.flatMap_cons, List.length_append, List.length_append]
    omega

/-- Every value is regrouped to the one that its pieces give. -/
theorem eqvGen_ofPieces (v : Value) : EqvGen Regroups v (ofPieces v.pieces) := by
  induction v using induction_on_sequence with
  | leaf v hv =>
    rw [pieces_of_isLeaf hv]
    exact .rel _ _ (.leaf hv nofun (render_literal _).symm)
  | step items ih =>
    match items with
    | [] =>
      rw [pieces_sequence_nil]
      exact .refl _
    | [item] =>
      have inside := eqvGen_within (ih item (List.mem_singleton_self item)) [] []
      rw [pieces_sequence_singleton]
      simpa [ofPieces, Piece.value, group] using inside
    | first :: second :: more =>
      generalize hitems : first :: second :: more = items at ih
      have several : 2 ≤ items.length := by simp [← hitems]
      have each := eqvGen_map [] ih
      have some : ∀ item ∈ items, item.pieces.map Piece.value ≠ [] :=
        fun item _ => by simpa using item.pieces_ne_nil
      have dissolved := eqvGen_flatMap [] some (by simpa using several)
      rw [← List.map_flatMap] at dissolved
      rw [pieces_sequence several, ofPieces_of_length (length_flatMap_pieces several)]
      exact .trans _ _ _ each dissolved

/-- The same pieces are left exactly of values that differ by regrouping. -/
theorem pieces_eq_iff_eqvGen : v.pieces = w.pieces ↔ EqvGen Regroups v w := by
  constructor
  · intro h
    have hv := eqvGen_ofPieces v
    rw [h] at hv
    exact .trans _ _ _ hv (.symm _ _ (eqvGen_ofPieces w))
  · exact pieces_eq_of_eqvGen

end Value

open Value (Regroups)

/-- What the text of a value does not show is its groups, and nothing else: legible values are
written alike exactly if the same pieces are left of them, which is so exactly if one becomes
the other by regrouping. In particular a sequence of several items among others is written as
its items would be in its place. -/
theorem sequences_lose_only_groups (hv : v.IsLegible) (hw : w.IsLegible) :
    (v.render = w.render ↔ v.pieces = w.pieces) ∧
      (v.render = w.render ↔ EqvGen Regroups v w) ∧
      ∀ front inner back : List Value, 2 ≤ inner.length → front ++ back ≠ [] →
        (Value.sequence (front ++ .sequence inner :: back)).render =
          (Value.sequence (front ++ inner ++ back)).render := by
  refine ⟨render_eq_iff_pieces_eq hv hw, ?_, ?_⟩
  · rw [render_eq_iff_pieces_eq hv hw, Value.pieces_eq_iff_eqvGen]
  · intro front inner back hinner hne
    exact render_eq_of_pieces_eq (Value.pieces_dissolve hinner hne)

end Halves

/-- Items with groups among them: a word next to an empty sequence, and a keyword alone. -/
def groupedItems : Value :=
  .sequence [.text "a,[\"", .sequence [.bareword "x", .sequence []], .sequence [.flag ":y"]]

/-- The items as they are written. -/
def writtenItems : Value :=
  .sequence [.text "a,[\"", .literal "x", .sequence [], .sequence [.bareword "y"]]

theorem isLegible_groupedItems : groupedItems.IsLegible := by
  have word : (Value.bareword "x").IsLegible := .token nofun (by simp [IsToken, marks])
  have keyword : (Value.flag ":y").IsLegible :=
    .token nofun (by simp [IsToken, marks, Value.withoutColon])
  simp [groupedItems, Value.isLegible_sequence_iff, word, keyword, Value.IsLegible.text]

theorem isLegible_writtenItems : writtenItems.IsLegible := by
  have raw : (Value.literal "x").IsLegible := .token nofun (by simp [IsToken, marks])
  have word : (Value.bareword "y").IsLegible := .token nofun (by simp [IsToken, marks])
  simp [writtenItems, Value.isLegible_sequence_iff, raw, word, Value.IsLegible.text]

theorem sequences_lose_groupedItems :
    groupedItems.render = writtenItems.render ∧
      EqvGen Value.Regroups groupedItems writtenItems := by
  obtain ⟨by_pieces, by_steps, -⟩ :=
    sequences_lose_only_groups isLegible_groupedItems isLegible_writtenItems
  have same : groupedItems.render = writtenItems.render := by_pieces.2 rfl
  exact ⟨same, by_steps.1 same⟩

end GnuplotScript
