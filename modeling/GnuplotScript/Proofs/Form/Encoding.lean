import GnuplotScript.Proofs.Form.Building
import GnuplotScript.Proofs.Json.Document

/-!
# Forms in documents

Which forms a JSON document can express, and how it does so directly: by a head, the name as a
text and the other arguments as a document writes them, each curve of a plot as an expression of
its own. Names, lines, parameters and comments are not limited in any way, and values only as
they are everywhere in documents. Of bodies one kind is missing: a text in their place is an
expression already, so that no quoted text can be a body.

## Main definitions

* `Curve.IsExpressible`, `Datum.IsBody`, `Form.IsExpressible` — the forms of documents
* `Curve.encode`, `Datum.encode`, `Form.encode` — the direct way of writing a form in a document

## Main results

* `ofExpression_encode` — the direct way is read back
* `isExpressible_of_ofExpression` — nothing but these forms is ever read in a document
* `documents_express_exactly` — documents express these forms and no others
-/

namespace GnuplotScript

/-- The curves that documents can express. -/
def Curve.IsExpressible (c : Curve) : Prop :=
  c.source.IsExpressible ∧ ∀ v ∈ c.options, v.IsExpressible

/-- The bodies that documents can express: a text, or a value other than a quoted text. -/
inductive Datum.IsBody : Datum → Prop where
  | text (s : String) : IsBody (.text s)
  | value {v : Value} : v.IsExpressible → (∀ s, v ≠ .text s) → IsBody (.value v)

/-- The forms that documents can express. -/
inductive Form.IsExpressible : Form → Prop where
  | set (n : String) {values : List Value} :
    (∀ v ∈ values, v.IsExpressible) → IsExpressible (.set n values)
  | unset (n : String) : IsExpressible (.unset n)
  | plot {curves : List Curve} :
    curves ≠ [] → (∀ c ∈ curves, c.IsExpressible) → IsExpressible (.plot curves)
  | curve {c : Curve} : c.IsExpressible → IsExpressible (.curve c)
  | table (n : String) {rows : List (List Value)} :
    (∀ row ∈ rows, ∀ v ∈ row, v.IsExpressible) →
      IsExpressible (.table n (rows.map (·.map .value)))
  | data (n : String) (lines : List String) : IsExpressible (.data n lines)
  | function (n : String) (parameters : List String) {body : Datum} :
    body.IsBody → IsExpressible (.function n parameters body)
  | constant (n : String) {body : Datum} : body.IsBody → IsExpressible (.constant n body)
  | comment {parts : List Datum} : (∀ d ∈ parts, d.IsJson) → IsExpressible (.comment parts)
  | raw (text : String) : IsExpressible (.raw text)
  | reset : IsExpressible .reset

/-- The direct way of writing a cell or a body in a document: a value as values are written, and
anything else as it is. -/
def Datum.encode : Datum → Datum
  | .value v => v.encode
  | d => d

/-- The direct way of writing a curve in a document. -/
def Curve.encode (c : Curve) : Datum :=
  .list (.text "curve" :: c.source.encode :: c.options.map Value.encode)

/-- The direct way of writing a form in a document. -/
def Form.encode : Form → Datum
  | .set n values => .list (.text "set" :: .text n :: values.map Value.encode)
  | .unset n => .list [.text "unset", .text n]
  | .plot curves => .list (.text "plot" :: curves.map Curve.encode)
  | .curve c => c.encode
  | .table n rows =>
    .list [.text "table", .text n, .list (rows.map fun row => .list (row.map Datum.encode))]
  | .data n lines => .list (.text "data" :: .text n :: lines.map .text)
  | .function n parameters body =>
    .list [.text "fn", .text n, .list (parameters.map .text), body.encode]
  | .constant n body => .list [.text "const", .text n, body.encode]
  | .comment parts => .list (.text "comment" :: parts)
  | .raw text => .list [.text "raw", .text text]
  | .reset => .list [.text "reset"]

variable {d e body b : Datum} {items arguments : List Datum} {c : Curve} {curves : List Curve}
  {rows : List (List Value)} {n : String} {f : Form} {head : Head} {parameters : List String}
  {values : List Value} {cells : List (List Datum)}

/-! ### Parts of forms are read back -/

theorem curveOfArguments_encode (h : c.IsExpressible) :
    curveOfArguments (c.source.encode :: c.options.map Value.encode) = .ok c := by
  obtain ⟨source, options⟩ := c
  exact curveOfArguments_eq_ok_iff.2
    ⟨source, Value.decode_encode h.1, options, Value.mapM_decode_encode h.2, rfl⟩

theorem plotItem_encode (h : c.IsExpressible) : plotItem c.encode = .ok c := by
  rw [Curve.encode, plotItem_of_curve rfl]
  exact curveOfArguments_encode h

theorem bodyOfArgument_encode (h : body.IsBody) : bodyOfArgument body.encode = .ok body := by
  cases h with
  | text s => rfl
  | @value v hv htext =>
    refine bodyOfArgument_eq_ok_iff.2 (.inr ⟨?_, v, Value.decode_encode hv, rfl⟩)
    intro s hs
    have read := Value.decode_encode hv
    change v.encode = .text s at hs
    rw [hs, Value.decode_text] at read
    exact htext s (Except.ok.inj read).symm

/-- The rows of a table are written as lists of cells, which are read as the values they are. -/
theorem rowsOfArgument_encode (rows : List (List Value)) :
    rowsOfArgument
        (.list ((rows.map (·.map .value)).map fun row => .list (row.map Datum.encode))) =
      .ok (rows.map (·.map Value.encode)) := by
  refine Head.rowsOfArgument_eq_ok_iff.2 ⟨_, rfl, ?_⟩
  rw [mapM_eq_some_iff, List.map_map, List.forall₂_map_left_iff, List.forall₂_map_right_iff,
    List.forall₂_same]
  intro row _
  rw [Function.comp_apply, Datum.items?_list, List.map_map]
  rfl

/-! ### Forms are read back -/

namespace Form

/-- The direct way of writing a form is read back. -/
theorem ofExpression_encode [Text.Halves] (h : f.IsExpressible) :
    ofExpression f.encode = .ok f := by
  cases h with
  | set n hvalues =>
    refine (ofExpression_list .set _).trans (Head.build_set_eq_ok_iff.2 ?_)
    exact ⟨n, rfl, _, Value.mapM_decode_encode hvalues, rfl⟩
  | unset n => rfl
  | @plot curves hne hcurves =>
    have filled : curves.map Curve.encode ≠ [] := by
      rwa [Ne, List.map_eq_nil_iff]
    refine (ofExpression_list .plot _).trans ((Head.build_plot_eq_ok_iff filled).2 ?_)
    exact ⟨curves, mapM_map_of_ok fun c hc => plotItem_encode (hcurves c hc), rfl⟩
  | @curve c hc =>
    refine (ofExpression_list .curve _).trans (Head.build_curve_eq_ok_iff.2 ?_)
    exact ⟨c, curveOfArguments_encode hc, rfl⟩
  | @table n rows hrows =>
    refine (ofExpression_list .table _).trans (Head.build_table_eq_ok_iff.2 ?_)
    have each : (rows.map (·.map Value.encode)).mapM (·.mapM Value.decode) = .ok rows :=
      mapM_map_of_ok fun row hrow => Value.mapM_decode_encode (hrows row hrow)
    exact ⟨_, rowsOfArgument_encode rows, n, rfl, rows, each, rfl⟩
  | data n lines =>
    refine (ofExpression_list .data _).trans (Head.build_data_eq_ok_iff.2 ?_)
    exact ⟨lines, linesOfArguments_eq_ok_iff.2 (.inl rfl), n, rfl, rfl⟩
  | @function n parameters body hbody =>
    refine (ofExpression_list .function _).trans (Head.build_function_eq_ok_iff.2 ?_)
    exact ⟨parameters, parametersOfArgument_eq_ok_iff.2 (.inr rfl), n, rfl, body,
      bodyOfArgument_encode hbody, rfl⟩
  | @constant n body hbody =>
    refine (ofExpression_list .constant _).trans (Head.build_constant_eq_ok_iff.2 ?_)
    exact ⟨n, rfl, body, bodyOfArgument_encode hbody, rfl⟩
  | comment hparts => rfl
  | raw text => rfl
  | reset => rfl

end Form

/-! ### Data of documents -/

theorem Datum.isJson_map {α : Type} {xs : List α} {write : α → Datum}
    (h : ∀ x ∈ xs, (write x).IsJson) : ∀ d ∈ xs.map write, d.IsJson := by
  intro d hd
  obtain ⟨x, hx, rfl⟩ := List.mem_map.1 hd
  exact h x hx

/-- A head with data of documents for its arguments is one itself. -/
theorem Datum.isJson_statement (head : String) (h : ∀ d ∈ arguments, d.IsJson) :
    IsJson (.list (.text head :: arguments)) :=
  .list (List.forall_mem_cons.2 ⟨.text head, h⟩)

theorem Curve.isJson_encode (h : c.IsExpressible) : c.encode.IsJson := by
  apply Datum.isJson_statement
  rw [List.forall_mem_cons]
  exact ⟨Value.isJson_encode h.1, Datum.isJson_map fun v hv => Value.isJson_encode (h.2 v hv)⟩

theorem Datum.IsBody.isJson_encode (h : body.IsBody) : body.encode.IsJson := by
  cases h with
  | text s => exact .text s
  | value hv _ => exact Value.isJson_encode hv

theorem Form.isJson_encode (h : f.IsExpressible) : f.encode.IsJson := by
  cases h with
  | set n hvalues =>
    apply Datum.isJson_statement
    rw [List.forall_mem_cons]
    exact ⟨.text n, Datum.isJson_map fun v hv => Value.isJson_encode (hvalues v hv)⟩
  | unset n =>
    apply Datum.isJson_statement
    simpa using .text n
  | plot _ hcurves =>
    apply Datum.isJson_statement
    exact Datum.isJson_map fun c hc => Curve.isJson_encode (hcurves c hc)
  | curve hc => exact Curve.isJson_encode hc
  | table n hrows =>
    apply Datum.isJson_statement
    rw [List.forall_mem_cons, List.forall_mem_singleton]
    refine ⟨.text n, .list (Datum.isJson_map fun row hrow => .list (Datum.isJson_map ?_))⟩
    obtain ⟨values, hvalues, rfl⟩ := List.mem_map.1 hrow
    intro cell hcell
    obtain ⟨v, hv, rfl⟩ := List.mem_map.1 hcell
    exact Value.isJson_encode (hrows values hvalues v hv)
  | data n lines =>
    apply Datum.isJson_statement
    rw [List.forall_mem_cons]
    exact ⟨.text n, Datum.isJson_map fun line _ => .text line⟩
  | function n parameters hbody =>
    apply Datum.isJson_statement
    rw [List.forall_mem_cons, List.forall_mem_cons, List.forall_mem_singleton]
    exact ⟨.text n, .list (Datum.isJson_map fun p _ => .text p), hbody.isJson_encode⟩
  | constant n hbody =>
    apply Datum.isJson_statement
    rw [List.forall_mem_cons, List.forall_mem_singleton]
    exact ⟨.text n, hbody.isJson_encode⟩
  | comment hparts => exact Datum.isJson_statement _ hparts
  | raw text =>
    apply Datum.isJson_statement
    simpa using .text text
  | reset => exact Datum.isJson_statement _ nofun

/-! ### What is read -/

theorem isExpressible_of_curveOfArguments (h : ∀ d ∈ arguments, d.IsJson)
    (hc : curveOfArguments arguments = .ok c) : c.IsExpressible := by
  cases arguments with
  | nil => cases hc
  | cons source options =>
    obtain ⟨v, hv, vs, hvs, rfl⟩ := curveOfArguments_eq_ok_iff.1 hc
    obtain ⟨hsource, hoptions⟩ := List.forall_mem_cons.1 h
    exact ⟨Value.isExpressible_of_decode hsource hv,
      Value.isExpressible_of_mapM_decode hoptions hvs⟩

theorem isExpressible_of_plotItem (h : d.IsJson) (hc : plotItem d = .ok c) :
    c.IsExpressible := by
  rcases plotItem_cases d with ⟨other, rfl⟩ | ⟨arguments, hitems, hread⟩ | ⟨-, hread⟩
  · cases h
  · have given := List.forall_mem_cons.1 (h.of_items? hitems)
    rw [hread] at hc
    exact isExpressible_of_curveOfArguments given.2 hc
  · rw [hread, map_eq_ok_iff] at hc
    obtain ⟨v, hv, rfl⟩ := hc
    exact ⟨Value.isExpressible_of_decode h hv, nofun⟩

theorem isExpressible_of_plotItems (h : ∀ d ∈ items, d.IsJson)
    (hcurves : items.mapM plotItem = .ok curves) : ∀ c ∈ curves, c.IsExpressible := by
  intro c hc
  obtain ⟨d, hd, hread⟩ := exists_mem_of_forall₂ (mapM_eq_ok_iff.1 hcurves) hc
  exact isExpressible_of_plotItem (h d hd) hread

theorem isExpressible_of_rows (h : d.IsJson) (hcells : rowsOfArgument d = .ok cells)
    (hrows : cells.mapM (·.mapM Value.decode) = .ok rows) :
    ∀ row ∈ rows, ∀ v ∈ row, v.IsExpressible := by
  obtain ⟨items, hitems, hlook⟩ := Head.rowsOfArgument_eq_ok_iff.1 hcells
  rw [mapM_eq_some_iff] at hlook
  intro row hrow
  obtain ⟨ds, hds, hread⟩ := exists_mem_of_forall₂ (mapM_eq_ok_iff.1 hrows) hrow
  obtain ⟨written, hwritten, hcellItems⟩ := exists_mem_of_forall₂ hlook hds
  have json : ∀ cell ∈ ds, cell.IsJson := (h.of_items? hitems written hwritten).of_items? hcellItems
  exact Value.isExpressible_of_mapM_decode json hread

theorem isBody_of_bodyOfArgument (h : d.IsJson) (hb : bodyOfArgument d = .ok b) : b.IsBody := by
  rcases bodyOfArgument_eq_ok_iff.1 hb with ⟨s, -, rfl⟩ | ⟨noText, v, hv, rfl⟩
  · exact .text s
  · refine .value (Value.isExpressible_of_decode h hv) ?_
    rintro s rfl
    exact noText s (Value.eq_text_of_decode h hv)

/-- Forms built of data of documents are among these. -/
theorem Head.isExpressible_of_build [Text.Halves] (h : ∀ d ∈ arguments, d.IsJson)
    (hf : head.build arguments = .ok f) : f.IsExpressible := by
  by_cases taken : head.takes arguments.length = false
  · rw [build_arity taken] at hf
    cases hf
  match head, arguments, taken with
  | .set, name :: values, _ =>
    obtain ⟨n, -, vs, hvs, rfl⟩ := build_set_eq_ok_iff.1 hf
    exact .set n (Value.isExpressible_of_mapM_decode (List.forall_mem_cons.1 h).2 hvs)
  | .unset, [name], _ =>
    obtain ⟨n, -, rfl⟩ := build_unset_eq_ok_iff.1 hf
    exact .unset n
  | .plot, item :: items, _ =>
    have given : item :: items ≠ [] := List.cons_ne_nil item items
    obtain ⟨curves, hcurves, rfl⟩ := (build_plot_eq_ok_iff given).1 hf
    exact .plot (ne_nil_of_forall₂ (mapM_eq_ok_iff.1 hcurves) given)
      (isExpressible_of_plotItems h hcurves)
  | .curve, source :: options, _ =>
    obtain ⟨c, hc, rfl⟩ := build_curve_eq_ok_iff.1 hf
    exact .curve (isExpressible_of_curveOfArguments h hc)
  | .table, [name, rows], _ =>
    obtain ⟨cells, hcells, n, -, values, hvalues, rfl⟩ := build_table_eq_ok_iff.1 hf
    have json : rows.IsJson := h rows (List.mem_cons_of_mem _ List.mem_cons_self)
    exact .table n (isExpressible_of_rows json hcells hvalues)
  | .data, name :: lines, _ =>
    obtain ⟨texts, -, n, -, rfl⟩ := build_data_eq_ok_iff.1 hf
    exact .data n texts
  | .function, [name, parameters, body], _ =>
    obtain ⟨texts, -, n, -, b, hb, rfl⟩ := build_function_eq_ok_iff.1 hf
    have json : body.IsJson := h body (by simp)
    exact .function n texts (isBody_of_bodyOfArgument json hb)
  | .constant, [name, body], _ =>
    obtain ⟨n, -, b, hb, rfl⟩ := build_constant_eq_ok_iff.1 hf
    have json : body.IsJson := h body (List.mem_cons_of_mem _ List.mem_cons_self)
    exact .constant n (isBody_of_bodyOfArgument json hb)
  | .comment, parts, _ =>
    cases hf
    exact .comment h
  | .raw, [text], _ =>
    obtain ⟨-, rfl⟩ := build_raw_eq_ok_iff.1 hf
    exact .raw text.display
  | .reset, [], _ =>
    cases hf
    exact .reset

namespace Form

/-- Nothing but expressible forms is ever read in a document. -/
theorem isExpressible_of_ofExpression [Text.Halves] (h : e.IsJson) (hf : ofExpression e = .ok f) :
    f.IsExpressible := by
  rcases ofExpression_cases e with ⟨other, rfl⟩ | ⟨head, arguments, hitems, hread⟩ |
    ⟨-, -, named, reason, hread, -⟩
  · cases h
  · rw [hread] at hf
    exact Head.isExpressible_of_build (List.forall_mem_cons.1 (h.of_items? hitems)).2 hf
  · cases hread.symm.trans hf

/-- Documents express the expressible forms and no others, and each of these is read back from
the direct way of writing it. So whatever text a document is read from, its form is one of
these. -/
theorem documents_express_exactly [Text.StandIns] (f : Form) :
    ((∃ e : Datum, e.IsJson ∧ ofExpression e = .ok f) ↔ f.IsExpressible) ∧
      (f.IsExpressible → f.encode.IsJson ∧ ofExpression f.encode = .ok f) ∧
      ∀ cs e, Json.read cs = .ok e → ofExpression e = .ok f → f.IsExpressible := by
  have direct : f.IsExpressible → f.encode.IsJson ∧ ofExpression f.encode = .ok f :=
    fun h => ⟨isJson_encode h, ofExpression_encode h⟩
  have only : ∀ e : Datum, e.IsJson → ofExpression e = .ok f → f.IsExpressible :=
    fun _ => isExpressible_of_ofExpression
  refine ⟨⟨?_, fun h => ⟨f.encode, direct h⟩⟩, direct, ?_⟩
  · intro ⟨e, hjson, hread⟩
    exact only e hjson hread
  · intro cs e hdocument hread
    exact only e (Json.isRead_of_read hdocument).isJson hread

end Form

end GnuplotScript
