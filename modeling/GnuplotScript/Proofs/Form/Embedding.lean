import GnuplotScript.Form.Fragment
import GnuplotScript.Form.Output
import GnuplotScript.Proofs.Datum.Writable
import GnuplotScript.Proofs.Form.Building
import GnuplotScript.Proofs.Value.Untagging

/-!
# Expressions and embedded forms

What an expression says can be said by an embedding program as well, which builds the form from
the same arguments without their tags. The two take different ways: an expression is decoded
when it is read, while an embedded form takes its parts as they are and makes values of some of
them only when it is written. Still both are written alike, if they can be written at all, and
declare the same output.

## Main definitions

* `Datum.EmbedsItem` — an item of a plot in an expression, and the item to embed for it
* `Datum.Embeds` — an expression, and what comes of building its form from data
* `Datum.IsEmbeddable` — expressions whose form an embedding program can build

## Main results

* `embeds_agree` — an expression and its embedded form are written alike and declare the same
-/

namespace GnuplotScript

namespace Datum

/-- What is embedded for an item of a plot: for an expression of a curve the curve of its
untagged parts, for a curve itself, and for anything else the item without its tags. -/
inductive EmbedsItem : Datum → Datum → Prop where
  | expression {item source plainSource plainOptions : Datum} {options : List Datum} :
    item.items? = some (.text "curve" :: source :: options) →
      source.Untags plainSource → (list options).Untags plainOptions →
        EmbedsItem item (.form (.curve (.of plainSource plainOptions)))
  | curve (c : Curve) : EmbedsItem (.form (.curve c)) (.form (.curve c))
  | source {item plain : Datum} :
    (∀ c, item ≠ .form (.curve c)) →
      (∀ arguments, item.items? ≠ some (.text "curve" :: arguments)) →
        item.Untags plain → EmbedsItem item plain

/-- What comes of building the form of an expression from its arguments without their tags. A table
looks at its rows and a function writes its parameters, so that building one can fail. -/
inductive Embeds [Text.Halves] : Datum → Except Fault Form → Prop where
  | set {e plain : Datum} {n : String} {values : List Datum} :
    e.items? = some (.text "set" :: .text n :: values) →
      (list values).Untags plain → Embeds e (.ok (.setOf n plain))
  | curve {e source plainSource plainOptions : Datum} {options : List Datum} :
    e.items? = some (.text "curve" :: source :: options) →
      source.Untags plainSource → (list options).Untags plainOptions →
        Embeds e (.ok (.curve (.of plainSource plainOptions)))
  | table {e rows plain : Datum} {n : String} :
    e.items? = some [.text "table", .text n, rows] →
      rows.Untags plain → Embeds e (Form.tableOf n plain)
  | function {e parameters body plain : Datum} {n : String} :
    e.items? = some [.text "fn", .text n, parameters, body] →
      body.Untags plain → Embeds e (Form.functionOf n parameters plain)
  | constant {e body plain : Datum} {n : String} :
    e.items? = some [.text "const", .text n, body] →
      body.Untags plain → Embeds e (.ok (.constant n plain))
  | plot {e curves : Datum} {items embedded : List Datum} :
    e.items? = some (.text "plot" :: items) →
      List.Forall₂ EmbedsItem items embedded → curves.items? = some embedded →
        Embeds e (.ok (.plotOf curves))

/-- Expressions of curves and plots, and those of the other statements with arguments to decode,
if their name is a text. -/
def IsEmbeddable (e : Datum) : Prop :=
  (∃ head arguments, (head = Head.curve ∨ head = Head.plot) ∧
    e.items? = some (.text head.name :: arguments)) ∨
  ∃ head n arguments,
    (head = Head.set ∨ head = Head.table ∨ head = Head.function ∨ head = Head.constant) ∧
      e.items? = some (.text head.name :: .text n :: arguments)

end Datum

variable {d e plain source plainSource plainOptions body b parameters rows item embedded : Datum}
  {values items others options : List Datum} {cells : List (List Datum)} {n : String} {f : Form}
  {c : Curve} {vs : List Value} {texts : List String} {r : Except Fault Form}

/-! ### Parts of forms -/

theorem Datum.elements?_of_items? (h : d.items? = some items) : d.elements? = some items := by
  cases d with
  | list _ => exact h
  | tuple _ => exact h
  | _ => cases h

/-- Arguments are decoded to the values of what they become without their tags. -/
theorem Datum.values_of_untags (h : values.mapM Value.decode = .ok vs)
    (huntags : (list values).Untags plain) : plain.values = vs := by
  obtain ⟨others, hothers, hall⟩ := huntags.exists_items rfl
  rw [Datum.values, several_of_items? hothers, Value.map_ofDatum_of_untags h hall]

theorem Curve.of_untagged (h : curveOfArguments (source :: options) = .ok c)
    (hsource : source.Untags plainSource) (hoptions : (Datum.list options).Untags plainOptions) :
    Curve.of plainSource plainOptions = c := by
  obtain ⟨v, hv, vs, hvs, rfl⟩ := curveOfArguments_eq_ok_iff.1 h
  rw [Curve.of, Value.ofDatum_of_untags hv hsource, Datum.values_of_untags hvs hoptions]

theorem Curve.ofDatum_of_ne (h : ∀ c, d ≠ .form (.curve c)) :
    Curve.ofDatum d = ⟨Value.ofDatum d, []⟩ := by
  unfold Curve.ofDatum
  split
  next c => exact absurd rfl (h c)
  next => rfl

/-- An item of a plot is read as the curve that its embedded item is. -/
theorem Curve.ofDatum_of_embedsItem (h : plotItem item = .ok c) (hitem : item.EmbedsItem embedded) :
    Curve.ofDatum embedded = c := by
  cases hitem with
  | expression hitems hsource hoptions =>
    rw [plotItem_of_curve hitems] at h
    exact Curve.of_untagged h hsource hoptions
  | curve c => exact Except.ok.inj h
  | source hcurve hitems huntags =>
    rw [plotItem_of_source hcurve hitems, map_eq_ok_iff] at h
    obtain ⟨v, hv, rfl⟩ := h
    have noCurve : ∀ c, embedded ≠ .form (.curve c) := by
      rintro c rfl
      exact hcurve c (huntags.eq_of_ne_value rfl nofun)
    rw [Curve.ofDatum_of_ne noCurve, Value.ofDatum_of_untags hv huntags]

theorem Datum.isWritable_of_untags (h : bodyOfArgument body = .ok b) (huntags : body.Untags plain) :
    plain.isWritable = b.isWritable := by
  rcases bodyOfArgument_eq_ok_iff.1 h with ⟨s, rfl, rfl⟩ | ⟨-, v, hv, rfl⟩
  · rw [Datum.untags_text_iff.1 huntags]
  · rw [← Value.isWritable_ofDatum plain, Value.ofDatum_of_untags hv huntags, isWritable]

theorem Form.isWritable_table_congr {rows others : List (List Datum)}
    (h : rows.map (·.map Value.ofDatum) = others.map (·.map Value.ofDatum)) :
    (table n rows).isWritable = (table n others).isWritable := by
  have written : ∀ cells : List (List Datum),
      (table n cells).isWritable =
        (cells.map (·.map Value.ofDatum)).all (·.all Value.isWritable) := by
    intro cells
    rw [isWritable, areWritableRows_eq_all, List.all_map]
    refine congrArg _ (funext fun row => ?_)
    rw [Function.comp_apply, List.all_map]
    exact congrArg _ (funext fun cell => (Value.isWritable_ofDatum cell).symm)
  rw [written, written, h]

/-- Rows without tags are still rows, of as many cells without their tags. -/
theorem exists_cells_of_untags (h : items.mapM Datum.items? = some cells)
    (huntags : List.Forall₂ Datum.Untags items others) :
    ∃ plainCells, others.mapM Datum.items? = some plainCells ∧
      List.Forall₂ (List.Forall₂ Datum.Untags) cells plainCells := by
  induction huntags generalizing cells with
  | nil =>
    rw [mapM_eq_some_iff] at h
    cases h
    exact ⟨[], rfl, .nil⟩
  | cons hrow _ ih =>
    rw [mapM_eq_some_iff] at h
    cases h with
    | cons hitems hrest =>
      obtain ⟨first, hfirst, huntagged⟩ := hrow.exists_items hitems
      obtain ⟨rest, hread, hall⟩ := ih (mapM_eq_some_iff.2 hrest)
      exact ⟨first :: rest, mapM_eq_some_iff.2 (.cons hfirst (mapM_eq_some_iff.1 hread)),
        .cons huntagged hall⟩

/-- The table of rows without tags has cells that stand for the values which were decoded. -/
theorem Form.exists_tableOf_of_untags {values : List (List Value)}
    (hcells : rowsOfArgument rows = .ok cells)
    (hvalues : cells.mapM (·.mapM Value.decode) = .ok values) (huntags : rows.Untags plain) :
    ∃ plainCells, tableOf n plain = .ok (.table n plainCells) ∧
      plainCells.map (·.map Value.ofDatum) = values := by
  obtain ⟨items, hitems, hread⟩ := Head.rowsOfArgument_eq_ok_iff.1 hcells
  obtain ⟨others, hothers, hall⟩ := huntags.exists_items hitems
  obtain ⟨plainCells, hplain, hplainCells⟩ := exists_cells_of_untags hread hall
  refine ⟨plainCells, ?_, ?_⟩
  · rw [tableOf, rowsOf, Datum.elements?_of_items? hothers]
    simp only [hplain]
    rfl
  · refine map_eq_of_forall₂ ?_ hplainCells (mapM_eq_ok_iff.1 hvalues)
    exact fun _ _ _ _ hrow hvs => Value.map_ofDatum_of_untags hvs hrow

theorem Datum.exists_embedsItem (h : plotItem item = .ok c) : ∃ other, item.EmbedsItem other := by
  rcases plotItem_cases item with ⟨c, rfl⟩ | ⟨arguments, hitems, hread⟩ | ⟨hitems, -⟩
  · exact ⟨_, .curve c⟩
  · rw [hread] at h
    cases arguments with
    | nil => cases h
    | cons source options =>
      obtain ⟨plainSource, hsource⟩ := exists_untags source
      obtain ⟨plainOptions, hoptions⟩ := exists_untags (list options)
      exact ⟨_, .expression hitems hsource hoptions⟩
  · by_cases hcurve : ∃ c, item = .form (.curve c)
    · obtain ⟨c, rfl⟩ := hcurve
      exact ⟨_, .curve c⟩
    · obtain ⟨plain, huntags⟩ := exists_untags item
      exact ⟨plain, .source (not_exists.1 hcurve) hitems huntags⟩

section Halves

variable [Text.Halves]

/-- The text of a body that is no text is that of the value it stands for. -/
theorem Datum.expression_of_ne_text (h : ∀ s, d ≠ .text s) :
    d.expression = (Value.ofDatum d).render := by
  cases d with
  | text s => exact absurd rfl (h s)
  | _ => rfl

/-- A body is written as what is read from it, whether or not it has lost its tags. -/
theorem Datum.expression_of_untags (h : bodyOfArgument body = .ok b) (huntags : body.Untags plain) :
    plain.expression = b.expression := by
  rcases bodyOfArgument_eq_ok_iff.1 h with ⟨s, rfl, rfl⟩ | ⟨noText, v, hv, rfl⟩
  · rw [Datum.untags_text_iff.1 huntags]
  · have stillNoText : ∀ s, plain ≠ .text s := by
      rintro s rfl
      exact noText s (huntags.eq_of_ne_value rfl nofun)
    rw [expression_of_ne_text stillNoText, Value.ofDatum_of_untags hv huntags]
    rfl

/-- The parameters that are read are those that an embedded function is given. -/
theorem Datum.texts_of_parameters (h : parametersOfArgument parameters = .ok texts) :
    parameters.texts = .ok texts := by
  rcases parametersOfArgument_eq_ok_iff.1 h with ⟨s, rfl, rfl⟩ | hitems
  · rfl
  · rw [Datum.texts, several_of_items? hitems]
    exact mapM_map_of_ok fun _ _ => rfl

namespace Form

/-- A table is written by the values that its cells stand for. -/
theorem fragment_table_congr {rows others : List (List Datum)}
    (h : rows.map (·.map Value.ofDatum) = others.map (·.map Value.ofDatum)) :
    (table n rows).fragment = (table n others).fragment := by
  have written : ∀ cells : List (List Datum),
      tableText cells =
        Text.join "\n" ((cells.map (·.map Value.ofDatum)).map
          fun row => Text.join " " (row.map Value.render)) := by
    intro cells
    rw [tableText, List.map_map]
    refine congrArg _ (List.map_congr_left fun row _ => ?_)
    rw [rowText, Function.comp_apply, List.map_map]
    rfl
  rw [fragment, fragment, written, written, h]

/-! ### Statements -/

/-- Building a form without tags gives one that is written like another and declares the same
output. -/
def Matches (f : Form) (r : Except Fault Form) : Prop :=
  ∃ g, r = .ok g ∧ g.fragment = f.fragment ∧ g.render = f.render ∧
    g.declaredOutput = f.declaredOutput ∧ g.declaration = f.declaration

/-- Where the same form is built there is nothing more to show. -/
theorem Matches.of_eq {g : Form} (h : g = f) : f.Matches (.ok g) := by
  subst h
  exact ⟨g, rfl, rfl, rfl, rfl, rfl⟩

/-- Forms that declare nothing need only be written alike. -/
theorem Matches.of_fragment_eq {g : Form} (hfragment : g.fragment = f.fragment)
    (hwritable : g.isWritable = f.isWritable) (hdeclared : g.declaredOutput = f.declaredOutput)
    (hdeclaration : g.declaration = f.declaration) : f.Matches (.ok g) := by
  have hrender : g.render = f.render := by rw [render, render, hfragment, hwritable]
  exact ⟨g, rfl, hfragment, hrender, hdeclared, hdeclaration⟩

end Form

namespace Head

open Form (Matches)

theorem matches_set (h : set.build (.text n :: values) = .ok f)
    (huntags : (Datum.list values).Untags plain) : f.Matches (.ok (.setOf n plain)) := by
  obtain ⟨n, hn, vs, hvs, rfl⟩ := build_set_eq_ok_iff.1 h
  cases hn
  apply Matches.of_eq
  rw [Form.setOf, Datum.values_of_untags hvs huntags]

theorem matches_curve (h : curve.build (source :: options) = .ok f)
    (hsource : source.Untags plainSource) (hoptions : (Datum.list options).Untags plainOptions) :
    f.Matches (.ok (.curve (.of plainSource plainOptions))) := by
  obtain ⟨c, hc, rfl⟩ := build_curve_eq_ok_iff.1 h
  apply Matches.of_eq
  rw [Curve.of_untagged hc hsource hoptions]

theorem matches_table (h : table.build [.text n, rows] = .ok f) (huntags : rows.Untags plain) :
    f.Matches (Form.tableOf n plain) := by
  obtain ⟨cells, hcells, n, hn, decoded, hdecoded, rfl⟩ := build_table_eq_ok_iff.1 h
  cases hn
  obtain ⟨plainCells, hplain, hsame⟩ :=
    Form.exists_tableOf_of_untags (n := n) hcells hdecoded huntags
  have same : plainCells.map (·.map Value.ofDatum) =
      (decoded.map (·.map Datum.value)).map (·.map Value.ofDatum) := by
    rw [hsame, List.map_map]
    exact (List.map_id'' (fun row => by simp [Function.comp_def]) decoded).symm
  rw [hplain]
  exact .of_fragment_eq (Form.fragment_table_congr same) (Form.isWritable_table_congr same) rfl rfl

theorem matches_function (h : function.build [.text n, parameters, body] = .ok f)
    (huntags : body.Untags plain) : f.Matches (Form.functionOf n parameters plain) := by
  obtain ⟨texts, htexts, n, hn, b, hb, rfl⟩ := build_function_eq_ok_iff.1 h
  cases hn
  rw [Form.functionOf, Datum.texts_of_parameters htexts]
  refine .of_fragment_eq ?_ (Datum.isWritable_of_untags hb huntags) rfl rfl
  rw [Form.fragment, Form.fragment, Datum.expression_of_untags hb huntags]

theorem matches_constant (h : constant.build [.text n, body] = .ok f)
    (huntags : body.Untags plain) : f.Matches (.ok (.constant n plain)) := by
  obtain ⟨n, hn, b, hb, rfl⟩ := build_constant_eq_ok_iff.1 h
  cases hn
  refine .of_fragment_eq ?_ (Datum.isWritable_of_untags hb huntags) rfl rfl
  rw [Form.fragment, Form.fragment, Datum.expression_of_untags hb huntags]

/-- A plot has items, and these are read one by one. -/
theorem exists_curves_of_build_plot (h : plot.build items = .ok f) :
    ∃ curves, items.mapM plotItem = .ok curves ∧ f = .plot curves := by
  have filled : items ≠ [] := by
    rintro rfl
    cases h
  exact (build_plot_eq_ok_iff filled).1 h

theorem matches_plot {curves : Datum} (h : plot.build items = .ok f)
    (hall : List.Forall₂ Datum.EmbedsItem items others) (hcurves : curves.items? = some others) :
    f.Matches (.ok (.plotOf curves)) := by
  obtain ⟨read, hread, rfl⟩ := exists_curves_of_build_plot h
  have same : others.map Curve.ofDatum = read := by
    refine map_eq_of_forall₂ ?_ hall (mapM_eq_ok_iff.1 hread)
    exact fun _ _ _ _ hitem hc => Curve.ofDatum_of_embedsItem hc hitem
  apply Matches.of_eq
  rw [Form.plotOf, Datum.several_of_items? hcurves, same]

end Head

namespace Form

theorem build_of_ofExpression {head : Head} (h : ofExpression e = .ok f)
    (hitems : e.items? = some (.text head.name :: items)) : head.build items = .ok f := by
  rw [← ofExpression_of_items? hitems, h]

/-- Whatever comes of an embedding matches the form of the expression. -/
theorem matches_of_embeds (h : ofExpression e = .ok f) (hr : e.Embeds r) : f.Matches r := by
  cases hr with
  | set hitems huntags => exact Head.matches_set (build_of_ofExpression h hitems) huntags
  | curve hitems hsource hoptions =>
    exact Head.matches_curve (build_of_ofExpression h hitems) hsource hoptions
  | table hitems huntags => exact Head.matches_table (build_of_ofExpression h hitems) huntags
  | function hitems huntags => exact Head.matches_function (build_of_ofExpression h hitems) huntags
  | constant hitems huntags => exact Head.matches_constant (build_of_ofExpression h hitems) huntags
  | plot hitems hall hcurves =>
    exact Head.matches_plot (build_of_ofExpression h hitems) hall hcurves

end Form

/-! ### Embedding is possible -/

/-- The form of an expression can be built by an embedding program, if its name is a text. -/
theorem Datum.exists_embeds (h : Form.ofExpression e = .ok f) (he : e.IsEmbeddable) :
    ∃ r, e.Embeds r := by
  rcases he with ⟨head, arguments, hhead, hitems⟩ | ⟨head, n, arguments, hhead, hitems⟩
  · have built := Form.build_of_ofExpression h hitems
    rcases hhead with rfl | rfl
    · cases arguments with
      | nil => cases built
      | cons source options =>
        obtain ⟨plainSource, hsource⟩ := exists_untags source
        obtain ⟨plainOptions, hoptions⟩ := exists_untags (list options)
        exact ⟨_, .curve hitems hsource hoptions⟩
    · obtain ⟨curves, hread, -⟩ := Head.exists_curves_of_build_plot built
      have each : ∀ item ∈ arguments, ∃ other, item.EmbedsItem other := by
        intro item hitem
        obtain ⟨c, hc⟩ := exists_mapM_eq_ok_iff.1 ⟨curves, hread⟩ item hitem
        exact exists_embedsItem hc
      obtain ⟨embedded, hall⟩ := exists_forall₂ each
      exact ⟨_, .plot hitems hall (items?_list embedded)⟩
  · have built := Form.build_of_ofExpression h hitems
    rcases hhead with rfl | rfl | rfl | rfl
    · obtain ⟨plain, huntags⟩ := exists_untags (list arguments)
      exact ⟨_, .set hitems huntags⟩
    · match arguments, built with
      | [rows], _ =>
        obtain ⟨plain, huntags⟩ := exists_untags rows
        exact ⟨_, .table hitems huntags⟩
    · match arguments, built with
      | [parameters, body], _ =>
        obtain ⟨plain, huntags⟩ := exists_untags body
        exact ⟨_, .function hitems huntags⟩
    · match arguments, built with
      | [body], _ =>
        obtain ⟨plain, huntags⟩ := exists_untags body
        exact ⟨_, .constant hitems huntags⟩

/-- An expression can be embedded, and however this is done, the form that is built is written
like that of the expression and declares the same output, or both fail in this alike. -/
theorem embeds_agree (h : Form.ofExpression e = .ok f) (he : e.IsEmbeddable) :
    (∃ r, e.Embeds r) ∧
      ∀ r, e.Embeds r →
        ∃ g, r = .ok g ∧ g.fragment = f.fragment ∧ g.render = f.render ∧
          g.declaredOutput = f.declaredOutput ∧ g.declaration = f.declaration :=
  ⟨Datum.exists_embeds h he, fun _ hr => Form.matches_of_embeds h hr⟩

end Halves

/-- A plot with a tagged reference in a curve, and with a tagged word in a sequence. -/
def taggedPlot : Datum := .list [
  .text "plot",
  .tuple [.text "curve", .mapping [(.text "ref", .text "$d")],
    .mapping [(.text "flag", .text ":with")], .text "lines"],
  .list [.text "x", .mapping [(.text "bare", .text "y")]]]

/-- The form of this plot. -/
def taggedPlotForm : Form := .plot [
  ⟨.reference "$d", [.flag ":with", .text "lines"]⟩,
  ⟨.sequence [.text "x", .bareword "y"], []⟩]

theorem embeds_agree_taggedPlot :
    (∃ r, taggedPlot.Embeds r) ∧
      ∀ r, taggedPlot.Embeds r →
        ∃ g, r = .ok g ∧ g.fragment = taggedPlotForm.fragment ∧
          g.render = taggedPlotForm.render ∧
          g.declaredOutput = taggedPlotForm.declaredOutput ∧
          g.declaration = taggedPlotForm.declaration :=
  embeds_agree rfl (.inl ⟨.plot, _, .inr rfl, rfl⟩)

end GnuplotScript
