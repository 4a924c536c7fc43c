import GnuplotScript.Form.Fragment
import GnuplotScript.Form.Output

/-!
# Scripts

A script is the fragments of its forms, each from a new line on. Together with the text goes
the path that the last declaration of the output leaves. Forms are taken one by one: each is
rendered, and then it is asked what it declares.

## Main definitions

* `Script` — a text and the path of its output
* `Script.ofForms` — the script of forms that can be written
* `Script.part` — what a form adds to a script in a given rendering
* `Script.assemble` — the script of data that must be forms, in a given rendering

## Main results

* `text_ofForms_append` — the text of two lists of forms
* `lastOutput_append_of_some`, `lastOutput_append_of_none` — the output of two lists of forms
* `assemble_render` — what assembling forms in their own rendering comes to
-/

namespace GnuplotScript

open Text (join)

/-- A script: its text, and the path that its output goes to. -/
structure Script where
  text : String
  outputPath : Option String
  deriving DecidableEq, Repr

section Halves

variable [Text.Halves]

namespace Script

/-- The script of forms, if all of them can be written. -/
def ofForms (forms : List Form) : Script :=
  ⟨join "\n" (forms.map Form.fragment), lastOutput forms⟩

/-- What a form adds to a script in a given rendering: its fragment, and what it declares. -/
def part (render : Form → Except Fault String) (f : Form) :
    Except Fault (String × Option (Option String)) := do
  let fragment ← render f
  let declared ← f.declaration
  return (fragment, declared)

/-- The script of data in a given rendering. That all data are forms is settled before any
of them is rendered. -/
def assemble (render : Form → Except Fault String) (items : List Datum) :
    Except Fault Script := do
  let forms ← items.mapM Form.ofDatum
  let parts ← forms.mapM (part render)
  return ⟨join "\n" (parts.map Prod.fst), parts.foldl (fun path p => p.2.getD path) none⟩

theorem text_ofForms_append {front back : List Form} (hfront : front ≠ []) (hback : back ≠ []) :
    (ofForms (front ++ back)).text = (ofForms front).text ++ "\n" ++ (ofForms back).text := by
  simp only [ofForms, List.map_append]
  exact Text.join_append _ (by simpa using hfront) (by simpa using hback)

end Script

/-- Forms that declare nothing leave the path as it was. -/
theorem foldl_outputAfter_of_none {forms : List Form} (path : Option String)
    (h : ∀ f ∈ forms, f.declaredOutput = none) : forms.foldl outputAfter path = path := by
  induction forms generalizing path with
  | nil => rfl
  | cons f rest ih =>
    rw [List.foldl_cons, ih _ fun g hg => h g (List.mem_cons_of_mem f hg)]
    simp [outputAfter, h f List.mem_cons_self]

/-- After a declaration the path before it no longer matters. -/
theorem foldl_outputAfter_of_some {forms : List Form} (path : Option String)
    (h : ∃ f ∈ forms, f.declaredOutput ≠ none) :
    forms.foldl outputAfter path = lastOutput forms := by
  induction forms generalizing path with
  | nil => simp at h
  | cons f rest ih =>
    rw [lastOutput, List.foldl_cons, List.foldl_cons]
    by_cases later : ∃ g ∈ rest, g.declaredOutput ≠ none
    · rw [ih _ later, ih _ later]
    · have first : f.declaredOutput ≠ none := by
        obtain ⟨g, hg, hdeclares⟩ := h
        rcases List.mem_cons.1 hg with rfl | hrest
        · exact hdeclares
        · exact absurd ⟨g, hrest, hdeclares⟩ later
      obtain ⟨declared, hdeclared⟩ := Option.ne_none_iff_exists'.1 first
      simp [outputAfter, hdeclared]

/-- The output of two lists of forms is that of the second if it declares any. -/
theorem lastOutput_append_of_some (front : List Form) {back : List Form}
    (h : ∃ f ∈ back, f.declaredOutput ≠ none) :
    lastOutput (front ++ back) = lastOutput back := by
  rw [lastOutput, List.foldl_append, foldl_outputAfter_of_some _ h]

/-- The output of two lists of forms is that of the first if the second declares none. -/
theorem lastOutput_append_of_none (front : List Form) {back : List Form}
    (h : ∀ f ∈ back, f.declaredOutput = none) :
    lastOutput (front ++ back) = lastOutput front := by
  rw [lastOutput, List.foldl_append, foldl_outputAfter_of_none _ h, lastOutput]

namespace Script

theorem part_render (f : Form) :
    part Form.render f = ifWritable f.isWritable (f.fragment, f.declaredOutput) := by
  cases h : f.isWritable with
  | true =>
    have declares := Form.declaresWritable_of_isWritable h
    simp [part, Form.render_of_isWritable h, Form.declaration, declares, bind, Except.bind, pure,
      Except.pure]
  | false => simp [part, Form.render, h, bind, Except.bind]

theorem mapM_part_render (forms : List Form) :
    forms.mapM (part Form.render) = ifWritable (forms.all Form.isWritable)
      (forms.map fun f => (f.fragment, f.declaredOutput)) := by
  rw [funext part_render, mapM_ifWritable]

/-- Assembling forms in their own rendering gives their script, if all of them can be written. -/
theorem assemble_render (forms : List Form) :
    assemble Form.render (forms.map .form) =
      ifWritable (forms.all Form.isWritable) (ofForms forms) := by
  rw [assemble, Form.mapM_ofDatum_form]
  simp only [bind, Except.bind, mapM_part_render]
  cases forms.all Form.isWritable with
  | true =>
    simp only [ifWritable_true, List.map_map, List.foldl_map]
    rfl
  | false => rfl

end Script

end Halves

end GnuplotScript
