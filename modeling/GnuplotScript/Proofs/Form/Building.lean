import GnuplotScript.Form.Expression
import GnuplotScript.Proofs.Traversal

/-!
# Forms of statements

For each head the form that its arguments build, said in terms of what is read from each of
them. Whether a statement is accepted, what it is written as and how it can go wrong all
follow from these.

## Main results

* `build_set_eq_ok_iff` and its companions — the form of each statement
* `ofExpression_cases` — a form comes from a form or from a head with arguments
* `plotItem_cases` — the readings of an item of a plot
* `linesOfArguments_eq_ok_iff`, `parametersOfArgument_eq_ok_iff`, `bodyOfArgument_eq_ok_iff` —
  what is read from the other arguments of definitions
-/

namespace GnuplotScript

theorem pure_eq_ok_iff {α ε : Type} {x y : α} : (pure x : Except ε α) = .ok y ↔ y = x := by
  constructor
  · intro h
    exact (Except.ok.inj h).symm
  · rintro rfl
    rfl

theorem curveOfArguments_eq_ok_iff {source : Datum} {options : List Datum} {c : Curve} :
    curveOfArguments (source :: options) = .ok c ↔
      ∃ v, Value.decode source = .ok v ∧
        ∃ vs, options.mapM Value.decode = .ok vs ∧ c = ⟨v, vs⟩ := by
  simp only [curveOfArguments, bind_eq_ok_iff, pure_eq_ok_iff, decodeAll_eq_mapM]

section Items

variable {item : Datum} {arguments : List Datum}

/-- An item of a plot that begins with the head of curves is an expression of one. -/
theorem plotItem_of_curve (h : item.items? = some (.text "curve" :: arguments)) :
    plotItem item = curveOfArguments arguments := by
  cases item with
  | list _ => cases h; rfl
  | tuple _ => cases h; rfl
  | _ => cases h

/-- Any other item that is no curve is a source. -/
theorem plotItem_of_source (hcurve : ∀ c, item ≠ .form (.curve c))
    (hitems : ∀ arguments, item.items? ≠ some (.text "curve" :: arguments)) :
    plotItem item = (Value.decode item).map (⟨·, []⟩) := by
  unfold plotItem
  split
  next c => exact absurd rfl (hcurve c)
  next =>
    split
    next arguments h => exact absurd h (hitems arguments)
    next => rfl

/-- An item of a plot is a curve, an expression of a curve or a source. -/
theorem plotItem_cases (item : Datum) :
    (∃ c, item = .form (.curve c)) ∨
      (∃ arguments, item.items? = some (.text "curve" :: arguments) ∧
        plotItem item = curveOfArguments arguments) ∨
      ((∀ arguments, item.items? ≠ some (.text "curve" :: arguments)) ∧
        plotItem item = (Value.decode item).map (⟨·, []⟩)) := by
  by_cases hcurve : ∃ c, item = .form (.curve c)
  · exact .inl hcurve
  · by_cases hitems : ∃ arguments, item.items? = some (.text "curve" :: arguments)
    · obtain ⟨arguments, h⟩ := hitems
      exact .inr (.inl ⟨arguments, h, plotItem_of_curve h⟩)
    · have none : ∀ arguments, item.items? ≠ some (.text "curve" :: arguments) :=
        fun arguments h => hitems ⟨arguments, h⟩
      exact .inr (.inr ⟨none, plotItem_of_source (fun c h => hcurve ⟨c, h⟩) none⟩)

end Items

section Texts

variable {d parameters body b : Datum} {arguments items : List Datum} {texts : List String}

theorem text?_eq_some_iff {s : String} : d.text? = some s ↔ d = .text s := by
  cases d <;> simp [Datum.text?]

theorem mapM_text?_eq_some_iff : items.mapM Datum.text? = some texts ↔ items = texts.map .text := by
  rw [mapM_eq_some_iff]
  simp only [text?_eq_some_iff]
  constructor
  · intro h
    induction h with
    | nil => rfl
    | cons hx _ ih => rw [hx, ih]; rfl
  · rintro rfl
    rw [List.forall₂_map_left_iff, List.forall₂_same]
    exact fun _ _ => rfl

theorem linesOfArguments_lone {only : Datum} (h : only.items? = some items) :
    linesOfArguments [only] = .ok texts ↔ items = texts.map .text := by
  rw [linesOfArguments, Datum.several_of_items? h, ← mapM_text?_eq_some_iff]
  cases items.mapM Datum.text? <;> simp

theorem linesOfArguments_each (h : ∀ only, arguments = [only] → only.items? = none) :
    linesOfArguments arguments = .ok texts ↔ arguments = texts.map .text := by
  have given : linesOfArguments arguments = .ok texts ↔
      arguments.mapM Datum.text? = some texts := by
    rcases arguments with _ | ⟨only, _ | ⟨next, rest⟩⟩
    · rw [linesOfArguments]
      · cases ([] : List Datum).mapM Datum.text? <;> simp
      · exact nofun
    · have single : only.several = [only] := by
        have none := h only rfl
        cases only with
        | list _ => cases none
        | tuple _ => cases none
        | _ => rfl
      rw [linesOfArguments, single]
      cases [only].mapM Datum.text? <;> simp
    · rw [linesOfArguments]
      · cases (only :: next :: rest).mapM Datum.text? <;> simp
      · exact nofun
  rw [given, mapM_text?_eq_some_iff]

/-- The lines are given one by one, or by a lone list or tuple of them. -/
theorem linesOfArguments_eq_ok_iff :
    linesOfArguments arguments = .ok texts ↔
      arguments = texts.map .text ∨
        ∃ only, arguments = [only] ∧ only.items? = some (texts.map .text) := by
  -- A lone list or tuple is no text, so the two ways of giving lines exclude each other.
  by_cases lone : ∃ only items, arguments = [only] ∧ only.items? = some items
  · obtain ⟨only, items, rfl, hitems⟩ := lone
    have other : [only] ≠ texts.map .text := by
      intro h
      cases texts with
      | nil => cases h
      | cons s _ =>
        obtain ⟨rfl, -⟩ := List.cons.inj h
        cases hitems
    rw [linesOfArguments_lone hitems, or_iff_right other]
    constructor
    · intro h
      exact ⟨only, rfl, h ▸ hitems⟩
    · intro ⟨_, rfl, h⟩
      exact Option.some.inj (hitems.symm.trans h)
  · have none : ∀ only, arguments = [only] → only.items? = none := by
      intro only honly
      cases hitems : only.items? with
      | none => rfl
      | some items => exact absurd ⟨only, items, honly, hitems⟩ lone
    rw [linesOfArguments_each none]
    exact (or_iff_left fun ⟨only, honly, h⟩ => lone ⟨only, _, honly, h⟩).symm

/-- The parameters are a lone text, or a list or tuple of texts. -/
theorem parametersOfArgument_eq_ok_iff :
    parametersOfArgument parameters = .ok texts ↔
      (∃ s, parameters = .text s ∧ texts = [s]) ∨ parameters.items? = some (texts.map .text) := by
  by_cases single : ∃ s, parameters = .text s
  · obtain ⟨s, rfl⟩ := single
    have read : parametersOfArgument (.text s) = .ok [s] := rfl
    rw [read]
    constructor
    · intro h
      exact .inl ⟨s, rfl, (Except.ok.inj h).symm⟩
    · intro h
      rcases h with ⟨t, ht, rfl⟩ | h
      · cases ht
        rfl
      · cases h
  · have read : parametersOfArgument parameters = .ok texts ↔
        parameters.items?.bind (·.mapM Datum.text?) = some texts := by
      rw [parametersOfArgument]
      · cases parameters.items?.bind (·.mapM Datum.text?) <;> simp
      · exact fun s hs => single ⟨s, hs⟩
    rw [read, Option.bind_eq_some_iff, or_iff_right fun ⟨s, hs, _⟩ => single ⟨s, hs⟩]
    simp only [mapM_text?_eq_some_iff]
    constructor
    · intro ⟨items, hitems, h⟩
      exact h ▸ hitems
    · intro h
      exact ⟨_, h, rfl⟩

theorem bodyOfArgument_eq_ok_iff :
    bodyOfArgument body = .ok b ↔
      (∃ s, body = .text s ∧ b = .text s) ∨
        (∀ s, body ≠ .text s) ∧ ∃ v, Value.decode body = .ok v ∧ b = .value v := by
  cases body with
  | text s =>
    constructor
    · intro h
      cases h
      exact .inl ⟨s, rfl, rfl⟩
    · intro h
      rcases h with ⟨t, ht, rfl⟩ | ⟨h, -⟩
      · cases ht
        rfl
      · exact absurd rfl (h s)
  | _ =>
    rw [bodyOfArgument, map_eq_ok_iff]
    · constructor
      · intro ⟨v, hv, hb⟩
        exact .inr ⟨nofun, v, hv, hb.symm⟩
      · intro h
        rcases h with ⟨t, ht, -⟩ | ⟨-, v, hv, hb⟩
        · cases ht
        · exact ⟨v, hv, hb.symm⟩
    · exact nofun

end Texts

namespace Head

variable {name rows parameters body : Datum} {values items lines : List Datum} {f : Form}

theorem ofName?_eq_some_iff {s : String} {head : Head} :
    ofName? s = some head ↔ s = head.name := by
  constructor
  · intro h
    have found := List.find?_some h
    exact (beq_iff_eq.1 found).symm
  · rintro rfl
    exact ofName?_name head

theorem rowsOfArgument_eq_ok_iff {cells : List (List Datum)} :
    rowsOfArgument rows = .ok cells ↔
      ∃ items, rows.items? = some items ∧ items.mapM Datum.items? = some cells := by
  rw [rowsOfArgument, ← Option.bind_eq_some_iff]
  split
  next found h =>
    rw [h]
    exact ⟨fun e => congrArg some (Except.ok.inj e), fun e => congrArg _ (Option.some.inj e)⟩
  next h =>
    rw [h]
    exact iff_of_false (fun e => nomatch e) (fun e => nomatch e)

section Halves

variable [Text.Halves]

theorem build_set_eq_ok_iff :
    set.build (name :: values) = .ok f ↔
      ∃ n, nameOf set name = .ok n ∧
        ∃ vs, values.mapM Value.decode = .ok vs ∧ f = .set n vs := by
  simp only [build, bind_eq_ok_iff, pure_eq_ok_iff, decodeAll_eq_mapM]

theorem build_unset_eq_ok_iff :
    unset.build [name] = .ok f ↔ ∃ n, nameOf unset name = .ok n ∧ f = .unset n := by
  simp only [build, bind_eq_ok_iff, pure_eq_ok_iff]

theorem build_plot_eq_ok_iff (h : items ≠ []) :
    plot.build items = .ok f ↔ ∃ curves, items.mapM plotItem = .ok curves ∧ f = .plot curves := by
  cases items with
  | nil => exact absurd rfl h
  | cons item rest => simp only [build, bind_eq_ok_iff, pure_eq_ok_iff]

theorem build_curve_eq_ok_iff {source : Datum} {options : List Datum} :
    curve.build (source :: options) = .ok f ↔
      ∃ c, curveOfArguments (source :: options) = .ok c ∧ f = .curve c := by
  simp only [build, bind_eq_ok_iff, pure_eq_ok_iff]

theorem build_table_eq_ok_iff :
    table.build [name, rows] = .ok f ↔
      ∃ cells, rowsOfArgument rows = .ok cells ∧ ∃ n, nameOf table name = .ok n ∧
        ∃ values, cells.mapM (·.mapM Value.decode) = .ok values ∧
          f = .table n (values.map (·.map .value)) := by
  have each : decodeAll = (·.mapM Value.decode) := funext decodeAll_eq_mapM
  simp only [build, bind_eq_ok_iff, pure_eq_ok_iff, decodeRows_eq_mapM, each]

theorem build_data_eq_ok_iff :
    data.build (name :: lines) = .ok f ↔
      ∃ texts, linesOfArguments lines = .ok texts ∧
        ∃ n, nameOf data name = .ok n ∧ f = .data n texts := by
  simp only [build, bind_eq_ok_iff, pure_eq_ok_iff]

theorem build_function_eq_ok_iff :
    function.build [name, parameters, body] = .ok f ↔
      ∃ texts, parametersOfArgument parameters = .ok texts ∧
        ∃ n, nameOf function name = .ok n ∧
          ∃ b, bodyOfArgument body = .ok b ∧ f = .function n texts b := by
  simp only [build, bind_eq_ok_iff, pure_eq_ok_iff]

theorem build_raw_eq_ok_iff {text : Datum} :
    raw.build [text] = .ok f ↔ text.isWritable = true ∧ f = .raw text.display := by
  simp only [build, map_eq_ok_iff, Datum.written, ifWritable_eq_ok_iff]
  constructor
  · rintro ⟨s, ⟨writable, rfl⟩, rfl⟩
    exact ⟨writable, rfl⟩
  · rintro ⟨writable, rfl⟩
    exact ⟨_, ⟨writable, rfl⟩, rfl⟩

theorem build_constant_eq_ok_iff :
    constant.build [name, body] = .ok f ↔
      ∃ n, nameOf constant name = .ok n ∧
        ∃ b, bodyOfArgument body = .ok b ∧ f = .constant n b := by
  simp only [build, bind_eq_ok_iff, pure_eq_ok_iff]

end Halves

end Head

namespace Form

variable [Text.Halves]

variable {e : Datum} {arguments : List Datum} {head : Head}

theorem ofExpression_of_items? (h : e.items? = some (.text head.name :: arguments)) :
    ofExpression e = head.build arguments := by
  cases e with
  | list _ => cases h; exact ofExpression_list head arguments
  | tuple _ => cases h; exact ofExpression_tuple head arguments
  | _ => cases h

/-- What expresses a form is a form, or a list or tuple of a head and arguments. Anything else
is reported as no form, by itself or by its first item. -/
theorem ofExpression_cases (e : Datum) :
    (∃ f, e = .form f) ∨
      (∃ (head : Head) (arguments : List Datum),
        e.items? = some (.text head.name :: arguments) ∧
        ofExpression e = head.build arguments) ∨
      ((∀ f, e ≠ .form f) ∧
        (∀ (head : Head) (arguments : List Datum),
          e.items? ≠ some (.text head.name :: arguments)) ∧
        ∃ named reason, ofExpression e = .error (.unknownFormOf named reason) ∧
          (named = e ∨ ∃ arguments, e.items? = some (named :: arguments))) := by
  by_cases hform : ∃ f, e = .form f
  · exact .inl hform
  by_cases hhead : ∃ (head : Head) (arguments : List Datum),
      e.items? = some (.text head.name :: arguments)
  · obtain ⟨head, arguments, h⟩ := hhead
    exact .inr (.inl ⟨head, arguments, h, ofExpression_of_items? h⟩)
  · refine .inr (.inr ⟨fun f h => hform ⟨f, h⟩, fun head arguments h => hhead ⟨head, arguments, h⟩,
      ?_⟩)
    unfold ofExpression
    split
    next f => exact absurd ⟨f, rfl⟩ hform
    next =>
      split
      next named arguments hitems =>
        split
        next head hname =>
          obtain ⟨s, htext, hs⟩ := Option.bind_eq_some_iff.1 hname
          have hnamed : named = .text head.name := by
            cases named with
            | text _ =>
              cases htext
              rw [Head.ofName?_eq_some_iff.1 hs]
            | _ => cases htext
          exact absurd ⟨head, arguments, hnamed ▸ hitems⟩ hhead
        next => exact ⟨named, "", rfl, .inr ⟨arguments, hitems⟩⟩
      next => exact ⟨e, "a form expression is a non-empty list", rfl, .inl rfl⟩

end Form

end GnuplotScript
