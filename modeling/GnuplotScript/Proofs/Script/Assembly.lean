import GnuplotScript.Proofs.Datum.Writable
import GnuplotScript.Proofs.Form.Building
import GnuplotScript.Proofs.Form.Output

/-!
# Assembling in parts

A script may be assembled in parts, in whatever rendering: the texts of the parts make up its
text, and the last part that assigns an output decides where the drawing goes. Nothing is
rendered before all data are known to be forms, so that a datum which is none is reported even
where a form before it cannot be rendered. Beside the rendering only one thing can go wrong: the
path of an output may be a value that cannot be written.

## Main definitions

* `Script.Takes` — the forms that a rendering takes into a script
* `Script.AssemblesIn` — what is required of assembling in a rendering

## Main results

* `assemble_of_parts` — forms are assembled from their fragments and from what they declare
* `assembles_in_every_rendering` — assembling meets the requirements in every rendering
-/

namespace GnuplotScript

open Text (join)

variable {render : Form → Except Fault String} {items front back : List Datum}
  {forms a b : List Form} {f : Form} {bad : Datum} {fault : Fault} {s : Script} {text : String}
  {parts others : List (String × Option (Option String))}
  {p : String × Option (Option String)}

namespace Form

theorem mapM_ofDatum_eq_ok_iff : items.mapM ofDatum = .ok forms ↔ items = forms.map .form := by
  rw [mapM_eq_ok_iff]
  simp only [ofDatum_eq_ok_iff]
  rw [← List.forall₂_map_right_iff (R := Eq), List.forall₂_eq_eq_eq]

/-- A datum that is no form is reported by its type. -/
theorem ofDatum_of_ne (h : ∀ f, bad ≠ .form f) :
    ofDatum bad = .error (.unknownForm (.text bad.typeName) "") := by
  unfold ofDatum
  split
  next f => exact absurd rfl (h f)
  next => rfl

end Form

namespace Script

section Halves

variable [Text.Halves]

/-- A rendering takes a form into a script if it gives a text of it, and if the path that the form
may declare can be written. -/
def Takes (render : Form → Except Fault String) (f : Form) : Prop :=
  (∃ text, render f = .ok text) ∧ f.declaresWritable = true

/-- What is required of assembling in a rendering, which may fail. -/
structure AssemblesIn (render : Form → Except Fault String) : Prop where
  /-- The script of a form alone has the text of the form. -/
  alone : ∀ f text, render f = .ok text → f.declaresWritable = true →
    ∃ script, assemble render [.form f] = .ok script ∧ script.text = text
  /-- Where all forms are taken, two lists can be assembled together and each by itself. The texts
  of lists that are not empty are those of two parts, and the path is that of the second list if it
  assigns one or none to the output. -/
  append : ∀ a b : List Form, (∀ f ∈ a ++ b, Takes render f) →
    ∃ first second whole, assemble render (a.map .form) = .ok first ∧
      assemble render (b.map .form) = .ok second ∧
      assemble render (a.map .form ++ b.map .form) = .ok whole ∧
      (a ≠ [] → b ≠ [] → whole.text = first.text ++ "\n" ++ second.text) ∧
      ((∃ f ∈ b, f.AssignsOutput) → whole.outputPath = second.outputPath) ∧
      ((∀ f ∈ b, ¬ f.AssignsOutput) → whole.outputPath = first.outputPath)
  /-- The path is that of the last assignment to the output; without a value this clears it. -/
  last : ∀ front values back script,
    assemble render ((front ++ .set "output" values :: back).map .form) = .ok script →
      (∀ f ∈ back, ¬ f.AssignsOutput) → script.outputPath = values.head?.map Value.plain
  /-- Without such an assignment there is no path. -/
  silent : ∀ (forms : List Form) script, assemble render (forms.map .form) = .ok script →
    (∀ f ∈ forms, ¬ f.AssignsOutput) → script.outputPath = none
  /-- No rendering makes a difference to the path. -/
  path_eq : ∀ other items script script', assemble render items = .ok script →
    assemble other items = .ok script' → script.outputPath = script'.outputPath
  /-- The first datum that is no form is reported by its type, whatever the rendering does. -/
  unknown : ∀ front bad back, (∀ d ∈ front, ∃ f, d = .form f) → (∀ f, bad ≠ .form f) →
    assemble render (front ++ bad :: back) = .error (.unknownForm (.text bad.typeName) "")
  /-- If all data are forms, the first of them that is not rendered is reported. -/
  unrendered : ∀ front f back fault, (∀ g ∈ front, Takes render g) →
    render f = .error fault → assemble render ((front ++ f :: back).map .form) = .error fault
  /-- So is the first of them whose path cannot be written. -/
  undeclared : ∀ front f back text, (∀ g ∈ front, Takes render g) → render f = .ok text →
    f.declaresWritable = false →
      assemble render ((front ++ f :: back).map .form) = .error .unwritable

/-! ### Checking and rendering -/

theorem part_eq_ok_iff : part render f = .ok p ↔
    render f = .ok p.1 ∧ f.declaresWritable = true ∧ f.declaredOutput = p.2 := by
  simp only [part, Form.declaration, bind_eq_ok_iff, pure_eq_ok_iff, ifWritable_eq_ok_iff]
  constructor
  · rintro ⟨text, htext, declared, ⟨hwritable, hdeclared⟩, rfl⟩
    exact ⟨htext, hwritable, hdeclared⟩
  · rintro ⟨htext, hwritable, hdeclared⟩
    exact ⟨p.1, htext, p.2, ⟨hwritable, hdeclared⟩, rfl⟩

theorem exists_part_eq_ok_iff : (∃ p, part render f = .ok p) ↔ Takes render f := by
  simp only [part_eq_ok_iff]
  constructor
  · intro ⟨p, htext, hwritable, _⟩
    exact ⟨⟨p.1, htext⟩, hwritable⟩
  · intro ⟨⟨text, htext⟩, hwritable⟩
    exact ⟨(text, f.declaredOutput), htext, hwritable, rfl⟩

theorem foldl_of_parts (h : List.Forall₂ (fun f p => part render f = .ok p) forms parts)
    (path : Option String) :
    parts.foldl (fun path p => p.2.getD path) path = forms.foldl outputAfter path := by
  induction h generalizing path with
  | nil => rfl
  | cons hpart _ ih =>
    rw [List.foldl_cons, List.foldl_cons, ih, outputAfter, (part_eq_ok_iff.1 hpart).2.2]

/-- Forms are assembled from their fragments and from what they declare. -/
theorem assemble_of_parts (h : forms.mapM (part render) = .ok parts) :
    assemble render (forms.map .form) = .ok ⟨join "\n" (parts.map Prod.fst), lastOutput forms⟩ := by
  rw [assemble, Form.mapM_ofDatum_form]
  simp only [bind, Except.bind, h, foldl_of_parts (mapM_eq_ok_iff.1 h)]
  rfl

theorem assemble_of_error (h : forms.mapM (part render) = .error fault) :
    assemble render (forms.map .form) = .error fault := by
  rw [assemble, Form.mapM_ofDatum_form]
  simp only [bind, Except.bind, h]

/-- What is assembled are forms, and the path is the one that they declare. -/
theorem exists_forms_of_assemble (h : assemble render items = .ok s) :
    ∃ forms, items = forms.map .form ∧ s.outputPath = lastOutput forms := by
  obtain ⟨forms, hforms, -⟩ := bind_eq_ok_iff.1 h
  obtain rfl := Form.mapM_ofDatum_eq_ok_iff.1 hforms
  refine ⟨forms, rfl, ?_⟩
  cases hparts : forms.mapM (part render) with
  | ok parts =>
    rw [assemble_of_parts hparts] at h
    cases h
    rfl
  | error fault => cases (assemble_of_error hparts).symm.trans h

theorem outputPath_of_assemble (h : assemble render (forms.map .form) = .ok s) :
    s.outputPath = lastOutput forms := by
  obtain ⟨others, hothers, hpath⟩ := exists_forms_of_assemble h
  have same : forms = others :=
    List.map_injective_iff.2 (fun _ _ h => Datum.form.inj h) hothers
  rw [same, hpath]

theorem assemble_of_unknown (hfront : ∀ d ∈ front, ∃ f, d = .form f) (hbad : ∀ f, bad ≠ .form f) :
    assemble render (front ++ bad :: back) = .error (.unknownForm (.text bad.typeName) "") := by
  have checked : ∀ d ∈ front, ∃ f, Form.ofDatum d = .ok f := by
    simpa only [Form.ofDatum_eq_ok_iff] using hfront
  obtain ⟨forms, hforms⟩ := exists_mapM_eq_ok_iff.2 checked
  rw [assemble, bind_eq_error_iff]
  exact .inl (mapM_eq_error_iff.2 ⟨front, bad, back, forms, rfl, hforms, Form.ofDatum_of_ne hbad⟩)

theorem part_of_undeclared (hf : render f = .ok text) (hidden : f.declaresWritable = false) :
    part render f = .error .unwritable := by
  have declared : f.declaration = .error .unwritable := ifWritable_eq_error_iff.2 ⟨hidden, rfl⟩
  simp only [part, hf, declared, bind, Except.bind]

/-- The first form that is not taken is reported. -/
theorem assemble_of_untaken {front back : List Form} (hfront : ∀ g ∈ front, Takes render g)
    (hf : part render f = .error fault) :
    assemble render ((front ++ f :: back).map .form) = .error fault := by
  have taken : ∀ g ∈ front, ∃ p, part render g = .ok p := by
    simpa only [exists_part_eq_ok_iff] using hfront
  obtain ⟨parts, hparts⟩ := exists_mapM_eq_ok_iff.2 taken
  exact assemble_of_error (mapM_eq_error_iff.2 ⟨front, f, back, parts, rfl, hparts, hf⟩)

/-! ### Two lists of forms -/

/-- The text of two lists of forms, put together from the texts of both. -/
theorem join_append_of_parts (ha : a.mapM (part render) = .ok parts)
    (hb : b.mapM (part render) = .ok others) (hfront : a ≠ []) (hback : b ≠ []) :
    join "\n" ((parts ++ others).map Prod.fst) =
      join "\n" (parts.map Prod.fst) ++ "\n" ++ join "\n" (others.map Prod.fst) := by
  rw [mapM_eq_ok_iff] at ha hb
  have first : parts.map Prod.fst ≠ [] := List.map_eq_nil_iff.not.2 (ne_nil_of_forall₂ ha hfront)
  have second : others.map Prod.fst ≠ [] := List.map_eq_nil_iff.not.2 (ne_nil_of_forall₂ hb hback)
  rw [List.map_append]
  exact Text.join_append "\n" first second

/-- Assembling meets the requirements in every rendering. -/
theorem assembles_in_every_rendering (render : Form → Except Fault String) :
    AssemblesIn render where
  alone := by
    intro f text htext hwritable
    have taken : part render f = .ok (text, f.declaredOutput) :=
      part_eq_ok_iff.2 ⟨htext, hwritable, rfl⟩
    have parts : [f].mapM (part render) = .ok [(text, f.declaredOutput)] :=
      mapM_eq_ok_iff.2 (.cons taken .nil)
    exact ⟨⟨text, lastOutput [f]⟩, assemble_of_parts parts, rfl⟩
  append := by
    intro a b taken
    simp only [← exists_part_eq_ok_iff] at taken
    rw [List.forall_mem_append] at taken
    obtain ⟨parts, ha⟩ := exists_mapM_eq_ok_iff.2 taken.1
    obtain ⟨others, hb⟩ := exists_mapM_eq_ok_iff.2 taken.2
    rw [← List.map_append]
    refine ⟨_, _, _, assemble_of_parts ha, assemble_of_parts hb,
      assemble_of_parts (mapM_append_of_ok ha hb), ?_, ?_, ?_⟩
    · exact join_append_of_parts ha hb
    · exact lastOutput_append_of_assigns a
    · exact lastOutput_append_of_silent a
  last := by
    intro front values back script h silent
    rw [outputPath_of_assemble h, lastOutput_of_last front silent]
  silent := by
    intro forms script h silent
    rw [outputPath_of_assemble h, lastOutput_of_silent silent]
  path_eq := by
    intro other items script script' h h'
    obtain ⟨forms, rfl, hpath⟩ := exists_forms_of_assemble h
    rw [hpath, outputPath_of_assemble h']
  unknown := fun _ _ _ => assemble_of_unknown
  unrendered := by
    intro front f back fault hfront hf
    exact assemble_of_untaken hfront (bind_eq_error_iff.2 (.inl hf))
  undeclared := by
    intro front f back text hfront hf hidden
    exact assemble_of_untaken hfront (part_of_undeclared hf hidden)

end Halves

/-- A path whose number has too many digits keeps forms from being assembled, although all of them
are rendered. -/
theorem assemble_refuses_overlong :
    assemble (fun _ => .ok "x")
        ([Form.set "output" [.other (.int Decimal.overlong)], .reset].map .form) =
      .error .unwritable := by
  have hidden : (Form.set "output" [.other (.int Decimal.overlong)]).declaresWritable = false := by
    simp [Form.declaresWritable, Value.isWritable, Datum.isWritable,
      Decimal.not_isWritable_overlong]
  have parts : [Form.set "output" [.other (.int Decimal.overlong)], .reset].mapM
      (part fun _ => .ok "x") = .error .unwritable :=
    mapM_cons_of_error (part_of_undeclared rfl hidden) _
  exact assemble_of_error parts

end Script

end GnuplotScript
