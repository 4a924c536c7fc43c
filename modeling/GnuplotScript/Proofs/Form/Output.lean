import GnuplotScript.Script

/-!
# The output of a script

Of all assignments to the setting `output` the last one decides where the drawing goes: to the
file that its first value names or, if it has no value, back to the terminal.

## Main definitions

* `Form.AssignsOutput` — assignments to the setting `output`
* `DeclaresPath` — the path that the last assignment in a list of forms gives

## Main results

* `lastOutput_eq_some_iff` — the path of a script is the one that its forms declare
-/

namespace GnuplotScript

variable {f : Form} {forms front back : List Form} {values : List Value} {path : String}

/-- An assignment to the setting `output`. -/
def Form.AssignsOutput (f : Form) : Prop :=
  ∃ values, f = .set "output" values

/-- Either there is no assignment to the setting `output`, or there is a last one. -/
theorem assignsOutput_cases (forms : List Form) :
    (∀ f ∈ forms, ¬ f.AssignsOutput) ∨
      ∃ front values back, forms = front ++ .set "output" values :: back ∧
        ∀ f ∈ back, ¬ f.AssignsOutput := by
  induction forms with
  | nil => exact .inl nofun
  | cons f rest ih =>
    rcases ih with silent | ⟨front, values, back, rfl, hback⟩
    · by_cases assigns : f.AssignsOutput
      · obtain ⟨values, rfl⟩ := assigns
        exact .inr ⟨[], values, rest, rfl, silent⟩
      · exact .inl (List.forall_mem_cons.2 ⟨assigns, silent⟩)
    · exact .inr ⟨f :: front, values, back, rfl, hback⟩

section Halves

variable [Text.Halves]

/-- The last assignment to the setting `output` has a first value, which is the path without
quotation. -/
def DeclaresPath (forms : List Form) (path : String) : Prop :=
  ∃ front v values back,
    forms = front ++ .set "output" (v :: values) :: back ∧
      (∀ f ∈ back, ¬ f.AssignsOutput) ∧ path = v.plain

theorem Form.declaredOutput_eq_none_iff : f.declaredOutput = none ↔ ¬ f.AssignsOutput := by
  constructor
  · intro h ⟨values, hf⟩
    rw [hf] at h
    cases h
  · intro h
    cases declares : f.declaredOutput with
    | none => rfl
    | some path =>
      obtain ⟨values, hf, -⟩ := declaredOutput_eq_some_iff.1 declares
      exact absurd ⟨values, hf⟩ h

theorem lastOutput_of_silent (h : ∀ f ∈ forms, ¬ f.AssignsOutput) : lastOutput forms = none :=
  foldl_outputAfter_of_none none fun f hf => Form.declaredOutput_eq_none_iff.2 (h f hf)

/-- The output of two lists of forms is that of the first if the second assigns none. -/
theorem lastOutput_append_of_silent (front : List Form) (h : ∀ f ∈ back, ¬ f.AssignsOutput) :
    lastOutput (front ++ back) = lastOutput front :=
  lastOutput_append_of_none front fun f hf => Form.declaredOutput_eq_none_iff.2 (h f hf)

/-- The output of two lists of forms is that of the second if it assigns any. -/
theorem lastOutput_append_of_assigns (front : List Form) (h : ∃ f ∈ back, f.AssignsOutput) :
    lastOutput (front ++ back) = lastOutput back := by
  obtain ⟨f, hf, assigns⟩ := h
  have declares : f.declaredOutput ≠ none := fun none =>
    Form.declaredOutput_eq_none_iff.1 none assigns
  exact lastOutput_append_of_some front ⟨f, hf, declares⟩

/-- What comes before the last assignment and what is after it do not matter. -/
theorem lastOutput_of_last (front : List Form) (h : ∀ f ∈ back, ¬ f.AssignsOutput) :
    lastOutput (front ++ .set "output" values :: back) = values.head?.map Value.plain := by
  have assigns : ∃ f ∈ [Form.set "output" values], f.AssignsOutput :=
    ⟨_, List.mem_cons_self, values, rfl⟩
  rw [List.append_cons, lastOutput_append_of_silent _ h, lastOutput_append_of_assigns front assigns]
  rfl

theorem lastOutput_eq_some_iff : lastOutput forms = some path ↔ DeclaresPath forms path := by
  constructor
  · intro h
    rcases assignsOutput_cases forms with silent | ⟨front, values, back, rfl, hback⟩
    · rw [lastOutput_of_silent silent] at h
      cases h
    · rw [lastOutput_of_last front hback] at h
      cases values with
      | nil => cases h
      | cons v values =>
        exact ⟨front, v, values, back, rfl, hback, (Option.some.inj h).symm⟩
  · intro declares
    obtain ⟨front, v, values, back, hforms, hback, hpath⟩ := declares
    rw [hforms, lastOutput_of_last front hback, hpath]
    rfl

theorem lastOutput_eq_none_iff : lastOutput forms = none ↔ ∀ path, ¬ DeclaresPath forms path := by
  simp only [Option.eq_none_iff_forall_ne_some, Ne, lastOutput_eq_some_iff]

end Halves

end GnuplotScript
