import GnuplotScript.Proofs.Form.Grammar
import GnuplotScript.Proofs.Value.Untagging

/-!
# Names given by values

Where a statement takes a name, an embedding program can give a value and a document the tagged
text of the value. Literals and keywords are refused as names in both ways, and references are
taken in both. A word is taken from a document only: as a value it is refused.

## Main definitions

* `Head.TakesName` — the statements that take a name

## Main results

* `nameOf_value_eq` — any other value names what its tagged text names
* `Head.build_congr_name` — statements differ by no more than the names that are read
* `named_alike_iff` — when an expression with a value ends like the one with its tagged text
-/

namespace GnuplotScript

variable {head : Head} {t name other : Datum} {v : Value} {arguments : List Datum} {e d : Datum}

/-- The heads that take a name as their first argument. -/
def Head.TakesName (head : Head) : Prop :=
  head ∈ [set, unset, table, data, function, constant]

/-- A tagged text can be written, whatever its tag is. -/
theorem Datum.Tags.isWritable (h : t.Tags v) : t.isWritable = true := by
  cases h <;> rfl

/-- Only with a fault under a head does a reading end like one with such a fault. -/
theorem endsAlike_fault_iff {α : Type} {reason : String} {result : Except Fault α} :
    EndsAlike (.error (head.fault reason)) result ↔
      ∃ other, result = .error (head.fault other) := by
  constructor
  · intro alike
    obtain ⟨fault, hfault, same⟩ := alike.exists_of_error
    cases same with
    | unknownForm _ _ other => exact ⟨other, hfault⟩
  · rintro ⟨other, rfl⟩
    exact .error (.unknownForm _ reason other)

section Halves

variable [Text.Halves]

/-! ### Names -/

/-- A value that is no word names what its tagged text names, and is refused in the same words
where that is refused. -/
theorem nameOf_value_eq (head : Head) (h : t.Tags v) (hv : ∀ word, v ≠ .bareword word) :
    nameOf head (.value v) = nameOf head t := by
  have decoded := Value.decode_of_tags h
  cases h with
  | raw s =>
    rw [nameOf, decoded]
    rfl
  | bare s => exact absurd rfl (hv s)
  | flag s =>
    rw [nameOf, decoded]
    rfl
  | ref s hs =>
    have named : (Datum.mapping [(.text "ref", .text s)]).Names s := .inr (.inr (.inr ⟨hs, rfl⟩))
    exact (nameOf_of_names named).symm

/-! ### Statements -/

namespace Head

/-- A reading of a name and of more takes no more from the name than this: either it is refused
whatever the name is, or it begins with the name. -/
def NamedBy (head : Head) (read : Datum → Except Fault Form) : Prop :=
  (∃ reason, ∀ name, read name = .error (head.fault reason)) ∨
    ∃ after, ∀ name, read name = nameOf head name >>= after

theorem namedBy_of_refused {read : Datum → Except Fault Form} (reason : String)
    (h : ∀ name, read name = .error (head.fault reason)) : head.NamedBy read :=
  .inl ⟨reason, h⟩

theorem namedBy_of_arity {read : Datum → Except Fault Form} (count : Nat)
    (h : ∀ name, read name = .error (head.arityFault count)) : head.NamedBy read :=
  .inl ⟨_, h⟩

theorem namedBy_of_first (after : String → Except Fault Form) :
    head.NamedBy fun name => nameOf head name >>= after :=
  .inr ⟨after, fun _ => rfl⟩

/-- Other arguments may be looked at before the name, if they are refused under the same head. -/
theorem namedBy_of_check {α : Type} {check : Except Fault α}
    {after : α → String → Except Fault Form} (h : FaultsAre (Fault.IsUnder head) check) :
    head.NamedBy fun name => check >>= fun x => nameOf head name >>= after x := by
  cases hcheck : check with
  | ok x => exact namedBy_of_first (after x)
  | error fault =>
    obtain ⟨reason, rfl⟩ := h fault hcheck
    exact namedBy_of_refused reason fun _ => rfl

/-- Of a statement that takes a name no more than the name is taken from its first argument. -/
theorem namedBy_build (hhead : head.TakesName) (arguments : List Datum) :
    head.NamedBy fun name => head.build (name :: arguments) := by
  simp only [TakesName, List.mem_cons, List.not_mem_nil, or_false] at hhead
  -- A wrong number of other arguments is refused before anything is read.
  rcases hhead with rfl | rfl | rfl | rfl | rfl | rfl
  · exact namedBy_of_first _
  · rcases arguments with _ | ⟨_, _⟩
    · exact namedBy_of_first _
    · exact namedBy_of_arity _ fun _ => rfl
  · rcases arguments with _ | ⟨rows, _ | ⟨_, _⟩⟩
    · exact namedBy_of_arity _ fun _ => rfl
    · exact namedBy_of_check (faultsAre_rowsOfArgument rows)
    · exact namedBy_of_arity _ fun _ => rfl
  · exact namedBy_of_check (faultsAre_linesOfArguments arguments)
  · rcases arguments with _ | ⟨parameters, _ | ⟨body, _ | ⟨_, _⟩⟩⟩
    · exact namedBy_of_arity _ fun _ => rfl
    · exact namedBy_of_arity _ fun _ => rfl
    · exact namedBy_of_check (faultsAre_parametersOfArgument parameters)
    · exact namedBy_of_arity _ fun _ => rfl
  · rcases arguments with _ | ⟨body, _ | ⟨_, _⟩⟩
    · exact namedBy_of_arity _ fun _ => rfl
    · exact namedBy_of_first _
    · exact namedBy_of_arity _ fun _ => rfl

/-- Where two data give the same name, or are refused as one in the same words, statements do not
tell them apart. -/
theorem build_congr_name (hhead : head.TakesName) (h : nameOf head name = nameOf head other)
    (arguments : List Datum) :
    head.build (name :: arguments) = head.build (other :: arguments) := by
  rcases namedBy_build hhead arguments with ⟨reason, refused⟩ | ⟨after, first⟩
  · exact (refused name).trans (refused other).symm
  · exact (first name).trans (h ▸ (first other).symm)

/-- Without a name a statement that takes one is refused. -/
theorem build_of_unnamed (hhead : head.TakesName) {reason : String}
    (h : nameOf head name = .error (head.fault reason)) (arguments : List Datum) :
    ∃ reason, head.build (name :: arguments) = .error (head.fault reason) := by
  rcases namedBy_build hhead arguments with ⟨other, refused⟩ | ⟨after, first⟩
  · exact ⟨other, refused name⟩
  · refine ⟨reason, (first name).trans ?_⟩
    rw [h]
    rfl

end Head

/-- An expression with a value for its name ends like the one with the tagged text of the value,
unless the value is a word. With a word it is always refused under its head, and so it ends like
the other only where that is refused under its head as well. -/
theorem named_alike_iff (hhead : head.TakesName) (ht : t.Tags v)
    (he : e.items? = some (.text head.name :: .value v :: arguments))
    (hd : d.items? = some (.text head.name :: t :: arguments)) :
    (EndsAlike (Form.ofExpression e) (Form.ofExpression d) ↔
        (∀ word, v ≠ .bareword word) ∨
          ∃ reason, Form.ofExpression d = .error (head.fault reason)) ∧
      ∀ word, v = .bareword word →
        ∃ reason, Form.ofExpression e = .error (head.fault reason) := by
  have refused : ∀ word, v = .bareword word →
      ∃ reason, Form.ofExpression e = .error (head.fault reason) := by
    rintro word rfl
    rw [Form.ofExpression_of_items? he]
    exact Head.build_of_unnamed hhead rfl arguments
  refine ⟨?_, refused⟩
  by_cases hv : ∃ word, v = .bareword word
  · obtain ⟨word, hword⟩ := hv
    obtain ⟨reason, hreason⟩ := refused word hword
    rw [hreason, endsAlike_fault_iff]
    exact (or_iff_right fun h => h word hword).symm
  · have hne := not_exists.1 hv
    have same : head.build (.value v :: arguments) = head.build (t :: arguments) :=
      Head.build_congr_name hhead (nameOf_value_eq head ht hne) arguments
    rw [Form.ofExpression_of_items? he, Form.ofExpression_of_items? hd, same]
    have construction := (head.faultsAre_build_cons t arguments).mono fun _ h =>
      h.isOfConstruction ht.isWritable
    exact iff_of_true construction.endsAlike (.inl hne)

end Halves

/-- A table whose only cell is a malformed reference is refused in the same way, whether it is
named by a reference or by the tagged text of one, in a tuple or in a list. -/
theorem named_alike_malformedTable :
    EndsAlike
      (Form.ofExpression (.tuple [.text "table", .value (.reference "$points"),
        .list [.tuple [.mapping [(.text "ref", .text "points")]]]]))
      (Form.ofExpression (.list [.text "table", .mapping [(.text "ref", .text "$points")],
        .list [.tuple [.mapping [(.text "ref", .text "points")]]]])) := by
  have takesName : Head.table.TakesName := by simp [Head.TakesName]
  have tagged : (Datum.mapping [(.text "ref", .text "$points")]).Tags (.reference "$points") :=
    .ref "$points" ⟨by decide, by decide⟩
  exact (named_alike_iff takesName tagged rfl rfl).1.2 (.inl nofun)

/-- A word as a value is no name of a setting to be taken back, while its tagged text is one. -/
theorem unset_word_not_alike :
    (Datum.mapping [(.text "bare", .text "key")]).Tags (.bareword "key") ∧
      Form.ofExpression (.list [.text "unset", .value (.bareword "key")]) =
        .error (.unknownForm (.text "unset") "expected a name, got Bareword(name='key')") ∧
      Form.ofExpression (.list [.text "unset", .mapping [(.text "bare", .text "key")]]) =
        .ok (.unset "key") ∧
      ¬ EndsAlike (Form.ofExpression (.list [.text "unset", .value (.bareword "key")]))
        (Form.ofExpression (.list [.text "unset", .mapping [(.text "bare", .text "key")]])) := by
  have refused : Form.ofExpression (.list [.text "unset", .value (.bareword "key")]) =
      .error (.unknownForm (.text "unset") "expected a name, got Bareword(name='key')") := rfl
  have taken : Form.ofExpression (.list [.text "unset", .mapping [(.text "bare", .text "key")]]) =
      .ok (.unset "key") := rfl
  refine ⟨.bare "key", refused, taken, ?_⟩
  rw [refused, taken]
  nofun

end GnuplotScript
