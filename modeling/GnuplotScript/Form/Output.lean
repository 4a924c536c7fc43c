import GnuplotScript.Form.Basic

/-!
# Declared output

An assignment to the setting `output` says where the drawing goes: to the file that its first
value names, or, without a value, back to the terminal. The name has to be written for that.

## Main definitions

* `Form.declaredOutput` — what a form declares about the output
* `Form.declaration` — the same, if what is declared can be written
* `lastOutput` — what a list of forms declares in the end
-/

namespace GnuplotScript

namespace Form

/-- Whether what a form declares can be written: the path, if there is one. -/
def declaresWritable : Form → Bool
  | set "output" (v :: _) => v.isWritable
  | _ => true

theorem declaresWritable_of_isWritable {f : Form} (h : f.isWritable = true) :
    f.declaresWritable = true := by
  unfold declaresWritable
  split
  next v values =>
    simp only [isWritable, areWritableValues_eq_all, List.all_cons, Bool.and_eq_true] at h
    exact h.1
  next => rfl

end Form

section Halves

variable [Text.Halves]

namespace Form

/-- What a form declares about the output: nothing, or a path, or that there is none. -/
def declaredOutput : Form → Option (Option String)
  | set "output" values => some (values.head?.map Value.plain)
  | _ => none

@[simp] theorem declaredOutput_set_output (values : List Value) :
    (set "output" values).declaredOutput = some (values.head?.map Value.plain) := rfl

/-- What a form declares about the output, if it can be written. -/
def declaration (f : Form) : Except Fault (Option (Option String)) :=
  ifWritable f.declaresWritable f.declaredOutput

/-- Only an assignment to the setting `output` declares anything. -/
theorem declaredOutput_eq_some_iff {f : Form} {path : Option String} :
    f.declaredOutput = some path ↔
      ∃ values, f = set "output" values ∧ path = values.head?.map Value.plain := by
  constructor
  · intro h
    unfold declaredOutput at h
    split at h
    · exact ⟨_, rfl, (Option.some.inj h).symm⟩
    · cases h
  · rintro ⟨values, rfl, rfl⟩
    rfl

end Form

/-- The path after a form, given the path before it. -/
def outputAfter (path : Option String) (f : Form) : Option String :=
  f.declaredOutput.getD path

/-- The path that the last declaration in a list of forms leaves. -/
def lastOutput (forms : List Form) : Option String :=
  forms.foldl outputAfter none

end Halves

end GnuplotScript
