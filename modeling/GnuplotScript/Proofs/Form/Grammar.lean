import GnuplotScript.Proofs.Datum.Writable
import GnuplotScript.Proofs.Form.Building

/-!
# The grammar of form expressions

Which data are form expressions, said by their shape: a form, or a list or tuple of a head and
as many arguments as the head takes, each of the kind that the head asks for. The grammar does
not mention how expressions are read. What is in it is accepted, except for a raw statement whose
argument cannot be written.

## Main definitions

* `Datum.IsText`, `Datum.IsName`, `Datum.HoldsTexts` — kinds of arguments
* `Head.Accepts` — the arguments that a head takes
* `Datum.IsExpression` — the grammar
* `Datum.IsUnwritableRaw` — raw statements whose argument cannot be written
* `Fault.IsOfConstruction` — the faults of data that are no expressions
* `Fault.IsOfReading` — such a fault, or that a datum could not be shown
* `FaultsAre` — readings whose faults are all of a kind
* `Fault.SameKind`, `EndsAlike` — faults of construction of one kind, and readings that end alike

## Main results

* `ofExpression_accepts_exactly` — a datum expresses a form exactly if it is in the grammar and no
  raw statement that cannot be written, and no other faults arise than those of construction
-/

namespace GnuplotScript

namespace Datum

/-- A text. -/
def IsText (d : Datum) : Prop :=
  ∃ s, d = .text s

/-- A datum gives a name if it is the text or the reference of it, or a mapping that is tagged
as a word or as a well-formed reference. -/
def Names (d : Datum) (n : String) : Prop :=
  d = .text n ∨ d = .value (.reference n) ∨ d = .mapping [(.text "bare", .text n)] ∨
    IsBlockName n ∧ d = .mapping [(.text "ref", .text n)]

/-- Data that give a name. -/
def IsName (d : Datum) : Prop :=
  ∃ n, d.Names n

/-- A list or tuple of texts. -/
def HoldsTexts (d : Datum) : Prop :=
  ∃ items, d.items? = some items ∧ ∀ item ∈ items, item.IsText

/-- A list or tuple of rows, each a list or tuple of cells in which no malformed reference is
reached. -/
def HoldsRows (d : Datum) : Prop :=
  ∃ rows, d.items? = some rows ∧
    ∀ row ∈ rows, ∃ cells, row.items? = some cells ∧ ∀ cell ∈ cells, cell.WellReferenced

/-- A list or tuple of the head of curves alone. -/
def IsLoneCurveHead (d : Datum) : Prop :=
  d.items? = some [.text "curve"]

end Datum

/-- The arguments that a head takes. -/
def Head.Accepts : Head → List Datum → Prop
  | .set, name :: values => name.IsName ∧ ∀ v ∈ values, v.WellReferenced
  | .unset, [name] => name.IsName
  | .plot, item :: items =>
    ∀ i ∈ item :: items, ¬ i.IsLoneCurveHead ∧ i.WellReferenced
  | .curve, source :: options => ∀ d ∈ source :: options, d.WellReferenced
  | .table, [name, rows] => name.IsName ∧ rows.HoldsRows
  | .data, name :: lines =>
    name.IsName ∧
      ((∀ line ∈ lines, line.IsText) ∨ ∃ only, lines = [only] ∧ only.HoldsTexts)
  | .function, [name, parameters, body] =>
    name.IsName ∧ (parameters.IsText ∨ parameters.HoldsTexts) ∧ body.WellReferenced
  | .constant, [name, body] => name.IsName ∧ body.WellReferenced
  | .comment, _ => True
  | .raw, [_] => True
  | .reset, [] => True
  | _, _ => False

/-- Data that express a form: a form itself, or a head with arguments that it takes. -/
def Datum.IsExpression (d : Datum) : Prop :=
  (∃ f, d = .form f) ∨
    ∃ (head : Head) (arguments : List Datum),
      d.items? = some (.text head.name :: arguments) ∧ head.Accepts arguments

/-- A raw statement whose argument cannot be written, as it has to be when it is read. -/
def Datum.IsUnwritableRaw (d : Datum) : Prop :=
  ∃ argument, d.items? = some [.text "raw", argument] ∧ argument.isWritable = false

/-- The faults of data that are no expressions: a form that is not known, and a reference
whose text is no name of a data block. -/
def Fault.IsOfConstruction (fault : Fault) : Prop :=
  (∃ head reason, fault = .unknownForm head reason) ∨
    ∃ name, ¬ IsBlockName name ∧ fault = .malformedReference name

/-- The faults that are reported under a head. -/
def Fault.IsUnder (head : Head) (fault : Fault) : Prop :=
  ∃ reason, fault = head.fault reason

/-- The faults that arise where a datum is read and shown if it is refused: those of construction,
and that the datum cannot be written. -/
def Fault.IsOfReading (d : Datum) (fault : Fault) : Prop :=
  fault.IsOfConstruction ∨ d.isWritable = false ∧ fault = .unwritable

/-- Readings all faults of which are of a kind. -/
def FaultsAre {α : Type} (kind : Fault → Prop) (result : Except Fault α) : Prop :=
  ∀ fault, result = .error fault → kind fault

/-- Faults of construction of one kind: forms that are not known under one head, whatever the
reasons are, or malformed references. -/
inductive Fault.SameKind : Fault → Fault → Prop where
  | unknownForm (head : Datum) (reason other : String) :
    SameKind (.unknownForm head reason) (.unknownForm head other)
  | malformedReference (name other : String) :
    SameKind (.malformedReference name) (.malformedReference other)

/-- Readings that end alike: in the same result, or in faults of one kind. -/
inductive EndsAlike {α : Type} : Except Fault α → Except Fault α → Prop where
  | ok (x : α) : EndsAlike (.ok x) (.ok x)
  | error {fault other : Fault} : fault.SameKind other → EndsAlike (.error fault) (.error other)

variable {d name : Datum} {items values arguments : List Datum} {head : Head} {n : String}
  {fault : Fault}

theorem Head.isOfConstruction_fault (head : Head) (reason : String) :
    (head.fault reason).IsOfConstruction :=
  .inl ⟨_, _, rfl⟩

theorem Head.isUnder_fault (head : Head) (reason : String) : (head.fault reason).IsUnder head :=
  ⟨reason, rfl⟩

namespace Fault

theorem IsUnder.isOfConstruction (h : fault.IsUnder head) : fault.IsOfConstruction := by
  obtain ⟨reason, rfl⟩ := h
  exact head.isOfConstruction_fault reason

theorem IsOfConstruction.sameKind (h : fault.IsOfConstruction) : fault.SameKind fault := by
  rcases h with ⟨named, reason, rfl⟩ | ⟨name, -, rfl⟩
  · exact .unknownForm named reason reason
  · exact .malformedReference name name

/-- What can be shown is refused by a fault of construction. -/
theorem IsOfReading.isOfConstruction (h : fault.IsOfReading d) (hd : d.isWritable = true) :
    fault.IsOfConstruction := by
  rcases h with h | ⟨unwritable, -⟩
  · exact h
  · cases hd.symm.trans unwritable

/-- What cannot be shown makes everything that holds it impossible to show. -/
theorem IsOfReading.of_mem (h : fault.IsOfReading name) (hitems : d.items? = some items)
    (hname : name ∈ items) : fault.IsOfReading d := by
  rcases h with h | ⟨hidden, hfault⟩
  · exact .inl h
  · refine .inr ⟨Bool.eq_false_iff.2 fun hd => ?_, hfault⟩
    cases hidden.symm.trans (Datum.isWritable_of_mem hitems hd hname)

theorem isOfReading_unknownFormOf (d : Datum) (reason : String) :
    (unknownFormOf d reason).IsOfReading d := by
  unfold unknownFormOf
  split
  next => exact .inl (.inl ⟨d, reason, rfl⟩)
  next h => exact .inr ⟨Bool.eq_false_iff.2 h, rfl⟩

end Fault

namespace EndsAlike

variable {α : Type} {result after : Except Fault α}

theorem eq_ok_iff {x : α} (h : EndsAlike result after) : result = .ok x ↔ after = .ok x := by
  cases h with
  | ok y => exact Iff.rfl
  | error _ => exact iff_of_false nofun nofun

theorem exists_of_error (h : EndsAlike (.error fault) after) :
    ∃ other, after = .error other ∧ fault.SameKind other := by
  cases h with
  | error same => exact ⟨_, rfl, same⟩

end EndsAlike

namespace FaultsAre

variable {α β : Type} {kind wider : Fault → Prop}

theorem of_ok (x : α) : FaultsAre kind (.ok x) :=
  nofun

theorem of_error (h : kind fault) : FaultsAre kind (.error fault : Except Fault α) := by
  intro other hother
  exact Except.error.inj hother ▸ h

theorem bind {result : Except Fault α} {next : α → Except Fault β}
    (first : FaultsAre kind result) (second : ∀ x, FaultsAre kind (next x)) :
    FaultsAre kind (result >>= next) := by
  intro fault h
  rcases bind_eq_error_iff.1 h with h | ⟨x, -, h⟩
  · exact first fault h
  · exact second x fault h

theorem map {result : Except Fault α} {g : α → β} (h : FaultsAre kind result) :
    FaultsAre kind (result.map g) :=
  fun fault hfault => h fault (map_eq_error_iff.1 hfault)

theorem mapM {read : α → Except Fault β} (h : ∀ x, FaultsAre kind (read x))
    (xs : List α) : FaultsAre kind (xs.mapM read) := by
  intro fault hfault
  obtain ⟨_, bad, _, _, -, -, hbad⟩ := mapM_eq_error_iff.1 hfault
  exact h bad fault hbad

theorem mono {result : Except Fault α} (h : FaultsAre kind result)
    (hkind : ∀ fault, kind fault → wider fault) : FaultsAre wider result :=
  fun fault hfault => hkind fault (h fault hfault)

/-- A reading ends like itself. -/
theorem endsAlike {result : Except Fault α} (h : FaultsAre Fault.IsOfConstruction result) :
    EndsAlike result result := by
  cases hresult : result with
  | ok x => exact .ok x
  | error fault => exact .error (h fault hresult).sameKind

/-- A fault of construction may also arise where a datum is shown. -/
theorem ofReading {result : Except Fault α} (h : FaultsAre Fault.IsOfConstruction result)
    (d : Datum) : FaultsAre (Fault.IsOfReading d) result :=
  h.mono fun _ => .inl

end FaultsAre

/-! ### Names, values and texts -/

theorem Value.faultsAre_decode (d : Datum) :
    FaultsAre Fault.IsOfConstruction (Value.decode d) := by
  intro fault h
  obtain ⟨name, hname, hfault, -⟩ := Value.malformed_of_decode_eq_error h
  exact .inr ⟨name, hname, hfault⟩

theorem exists_decodes_iff :
    (∃ vs, values.mapM Value.decode = .ok vs) ↔ ∀ v ∈ values, v.WellReferenced := by
  rw [exists_mapM_eq_ok_iff]
  exact forall₂_congr fun _ _ => Value.exists_decode_eq_ok_iff

theorem faultsAre_decodeAll (values : List Datum) :
    FaultsAre Fault.IsOfConstruction (decodeAll values) := by
  rw [decodeAll_eq_mapM]
  exact .mapM Value.faultsAre_decode values

section Names

variable [Text.Halves]

theorem Head.isOfReading_noName (head : Head) {shown : Datum}
    (h : d.isWritable = true → shown.isWritable = true) : (head.noName shown).IsOfReading d := by
  unfold Head.noName
  split
  next => exact .inl (head.isOfConstruction_fault _)
  next unwritable => exact .inr ⟨Bool.eq_false_iff.2 fun hd => unwritable (h hd), rfl⟩

/-- What a tagged mapping gives as a name is decided by its tag. -/
theorem nameOf_tagged (head : Head) (tag : Tag) (s : String) :
    ((Datum.mapping [(.text tag.name, .text s)]).Names s ∧
        nameOf head (.mapping [(.text tag.name, .text s)]) = .ok s) ∨
      ∃ fault, nameOf head (.mapping [(.text tag.name, .text s)]) = .error fault ∧
        fault.IsOfConstruction := by
  rw [nameOf, Value.decode_tagged]
  cases tag with
  | raw => exact .inr ⟨_, rfl, head.isOfConstruction_fault _⟩
  | flag => exact .inr ⟨_, rfl, head.isOfConstruction_fault _⟩
  | bare => exact .inl ⟨.inr (.inr (.inl rfl)), rfl⟩
  | ref =>
    rw [Tag.value]
    by_cases hs : IsBlockName s
    · rw [Value.referenceNamed_of_isBlockName hs]
      exact .inl ⟨.inr (.inr (.inr ⟨hs, rfl⟩)), rfl⟩
    · rw [Value.referenceNamed_of_not_isBlockName hs]
      exact .inr ⟨_, rfl, .inr ⟨s, hs, rfl⟩⟩

/-- A datum gives the name that is read from it, or it is refused and shown. -/
theorem nameOf_cases (head : Head) (d : Datum) :
    (∃ n, d.Names n ∧ nameOf head d = .ok n) ∨
      ∃ fault, nameOf head d = .error fault ∧ fault.IsOfReading d := by
  cases d with
  | text s => exact .inl ⟨s, .inl rfl, rfl⟩
  | mapping entries =>
    cases htagged : (Datum.mapping entries).tagged? with
    | none =>
      rw [nameOf, Value.decode_of_untagged rfl htagged]
      exact .inr ⟨_, rfl, head.isOfReading_noName (Value.isWritable_ofDatum _).trans⟩
    | some tagged =>
      obtain ⟨tag, s⟩ := tagged
      rw [Datum.tagged?_eq_some_iff.1 htagged]
      rcases nameOf_tagged head tag s with h | ⟨fault, hread, hfault⟩
      · exact .inl ⟨s, h⟩
      · exact .inr ⟨fault, hread, .inl hfault⟩
  | value v =>
    cases v with
    | reference n => exact .inl ⟨n, .inr (.inl rfl), rfl⟩
    | _ => exact .inr ⟨_, rfl, head.isOfReading_noName id⟩
  | _ => exact .inr ⟨_, rfl, head.isOfReading_noName id⟩

theorem nameOf_of_names (h : d.Names n) : nameOf head d = .ok n := by
  rcases h with rfl | rfl | rfl | ⟨hn, rfl⟩
  · rfl
  · rfl
  · rw [nameOf, ← Tag.name, Value.decode_tagged]
    rfl
  · rw [nameOf, Value.decode_reference, Value.referenceNamed_of_isBlockName hn]

/-- The name that is read is the one that the datum gives. -/
theorem nameOf_eq_ok_iff : nameOf head d = .ok n ↔ d.Names n := by
  constructor
  · intro h
    rcases nameOf_cases head d with ⟨m, hm, hok⟩ | ⟨fault, hbad, -⟩
    · exact Except.ok.inj (hok.symm.trans h) ▸ hm
    · cases hbad.symm.trans h
  · exact nameOf_of_names

theorem faultsAre_nameOf (head : Head) (d : Datum) :
    FaultsAre (Fault.IsOfReading d) (nameOf head d) := by
  rcases nameOf_cases head d with ⟨n, -, hn⟩ | ⟨fault, hbad, hfault⟩
  · exact hn ▸ .of_ok n
  · exact hbad ▸ .of_error hfault

end Names

/-- Data are texts one and all if they are the data of some texts. -/
theorem exists_eq_map_text_iff :
    (∃ texts : List String, items = texts.map .text) ↔ ∀ item ∈ items, item.IsText := by
  simp only [← mapM_text?_eq_some_iff]
  rw [exists_mapM_eq_some_iff]
  exact forall₂_congr fun _ _ => exists_congr fun _ => text?_eq_some_iff

/-! ### Arguments of single statements -/

theorem exists_curveOfArguments_iff {source : Datum} {options : List Datum} :
    (∃ c, curveOfArguments (source :: options) = .ok c) ↔
      ∀ d ∈ source :: options, d.WellReferenced := by
  rw [List.forall_mem_cons, ← Value.exists_decode_eq_ok_iff, ← exists_decodes_iff]
  simp only [curveOfArguments_eq_ok_iff]
  constructor
  · intro ⟨c, v, hv, vs, hvs, hc⟩
    exact ⟨⟨v, hv⟩, vs, hvs⟩
  · intro ⟨⟨v, hv⟩, vs, hvs⟩
    exact ⟨⟨v, vs⟩, v, hv, vs, hvs, rfl⟩

theorem faultsAre_curveOfArguments (arguments : List Datum) :
    FaultsAre Fault.IsOfConstruction (curveOfArguments arguments) := by
  cases arguments with
  | nil => exact .of_error (Head.curve.isOfConstruction_fault _)
  | cons source options =>
    apply FaultsAre.bind (Value.faultsAre_decode source)
    intro v
    exact .bind (faultsAre_decodeAll options) fun vs => .of_ok _

theorem exists_plotItem_iff :
    (∃ c, plotItem d = .ok c) ↔ ¬ d.IsLoneCurveHead ∧ d.WellReferenced := by
  rcases plotItem_cases d with ⟨c, rfl⟩ | ⟨arguments, hitems, hread⟩ | ⟨hitems, hread⟩
  · refine iff_of_true ⟨c, rfl⟩ ⟨nofun, fun e he => ?_⟩
    rw [← (Datum.reaches_iff_eq rfl).1 he]
    intro ⟨name, _, h⟩
    cases h
  · rw [hread, Datum.wellReferenced_iff_items hitems, List.forall_mem_cons,
      and_iff_right (Datum.wellReferenced_text "curve"), Datum.IsLoneCurveHead, hitems]
    cases arguments with
    | nil =>
      have noCurve : ¬ ∃ c, curveOfArguments [] = .ok c := nofun
      exact iff_of_false noCurve fun h => h.1 rfl
    | cons source options =>
      rw [exists_curveOfArguments_iff]
      have more : ¬ some (Datum.text "curve" :: source :: options) = some [.text "curve"] :=
        nofun
      exact (and_iff_right more).symm
  · have lone : ¬ d.IsLoneCurveHead := hitems []
    rw [hread, ← Value.exists_decode_eq_ok_iff, and_iff_right lone]
    exact exists_map_eq_ok_iff

theorem faultsAre_plotItem (d : Datum) : FaultsAre Fault.IsOfConstruction (plotItem d) := by
  rcases plotItem_cases d with ⟨c, rfl⟩ | ⟨arguments, -, hread⟩ | ⟨-, hread⟩
  · exact .of_ok c
  · exact hread ▸ faultsAre_curveOfArguments arguments
  · exact hread ▸ .map (Value.faultsAre_decode d)

theorem exists_linesOfArguments_iff :
    (∃ texts, linesOfArguments arguments = .ok texts) ↔
      (∀ line ∈ arguments, line.IsText) ∨ ∃ only, arguments = [only] ∧ only.HoldsTexts := by
  simp only [linesOfArguments_eq_ok_iff, exists_or]
  apply or_congr exists_eq_map_text_iff
  constructor
  · intro ⟨texts, only, honly, hitems⟩
    have htexts : ∀ item ∈ texts.map Datum.text, item.IsText :=
      exists_eq_map_text_iff.1 ⟨texts, rfl⟩
    exact ⟨only, honly, _, hitems, htexts⟩
  · intro ⟨only, honly, items, hitems, htexts⟩
    obtain ⟨texts, rfl⟩ := exists_eq_map_text_iff.2 htexts
    exact ⟨texts, only, honly, hitems⟩

theorem faultsAre_linesOfArguments (arguments : List Datum) :
    FaultsAre (Fault.IsUnder .data) (linesOfArguments arguments) := by
  unfold linesOfArguments
  dsimp only
  split
  · exact .of_ok _
  · exact .of_error (Head.data.isUnder_fault _)

theorem exists_parametersOfArgument_iff :
    (∃ texts, parametersOfArgument d = .ok texts) ↔ d.IsText ∨ d.HoldsTexts := by
  simp only [parametersOfArgument_eq_ok_iff, exists_or]
  apply or_congr
  · constructor
    · intro ⟨_, s, hs, _⟩
      exact ⟨s, hs⟩
    · intro ⟨s, hs⟩
      exact ⟨[s], s, hs, rfl⟩
  · constructor
    · intro ⟨texts, hitems⟩
      have htexts : ∀ item ∈ texts.map Datum.text, item.IsText :=
        exists_eq_map_text_iff.1 ⟨texts, rfl⟩
      exact ⟨_, hitems, htexts⟩
    · intro ⟨items, hitems, htexts⟩
      obtain ⟨texts, rfl⟩ := exists_eq_map_text_iff.2 htexts
      exact ⟨texts, hitems⟩

theorem faultsAre_parametersOfArgument (d : Datum) :
    FaultsAre (Fault.IsUnder .function) (parametersOfArgument d) := by
  unfold parametersOfArgument
  dsimp only
  split
  · exact .of_ok _
  · exact .of_error (Head.function.isUnder_fault _)

theorem exists_bodyOfArgument_iff :
    (∃ b, bodyOfArgument d = .ok b) ↔ d.WellReferenced := by
  simp only [bodyOfArgument_eq_ok_iff]
  by_cases text : ∃ s, d = .text s
  · obtain ⟨s, rfl⟩ := text
    exact iff_of_true ⟨.text s, .inl ⟨s, rfl, rfl⟩⟩ (Datum.wellReferenced_text s)
  · rw [← Value.exists_decode_eq_ok_iff]
    constructor
    · intro ⟨b, h⟩
      rcases h with ⟨s, hs, -⟩ | ⟨-, v, hv, -⟩
      · exact absurd ⟨s, hs⟩ text
      · exact ⟨v, hv⟩
    · intro ⟨v, hv⟩
      exact ⟨.value v, .inr ⟨fun s hs => text ⟨s, hs⟩, v, hv, rfl⟩⟩

theorem faultsAre_bodyOfArgument (d : Datum) :
    FaultsAre Fault.IsOfConstruction (bodyOfArgument d) := by
  unfold bodyOfArgument
  split
  · exact .of_ok _
  · exact .map (Value.faultsAre_decode _)

theorem exists_rowsOfArgument_iff :
    (∃ cells, rowsOfArgument d = .ok cells ∧
      ∃ rows, cells.mapM (·.mapM Value.decode) = .ok rows) ↔ d.HoldsRows := by
  simp only [Head.rowsOfArgument_eq_ok_iff, exists_mapM_eq_ok_iff, Value.exists_decode_eq_ok_iff]
  constructor
  · intro ⟨cells, ⟨rows, hrows, hcells⟩, hall⟩
    have each := exists_mapM_eq_some_and_iff.1 ⟨cells, hcells, hall⟩
    exact ⟨rows, hrows, each⟩
  · intro ⟨rows, hrows, hall⟩
    obtain ⟨cells, hcells, hread⟩ := exists_mapM_eq_some_and_iff.2 hall
    exact ⟨cells, ⟨rows, hrows, hcells⟩, hread⟩

theorem faultsAre_rowsOfArgument (d : Datum) :
    FaultsAre (Fault.IsUnder .table) (rowsOfArgument d) := by
  unfold rowsOfArgument
  split
  · exact .of_ok _
  · exact .of_error (Head.table.isUnder_fault _)

/-! ### Statements -/

namespace Head

theorem not_accepts_of_takes_eq_false (h : head.takes arguments.length = false) :
    ¬ head.Accepts arguments := by
  rcases arguments with _ | ⟨a, _ | ⟨b, _ | ⟨c, _ | ⟨d, rest⟩⟩⟩⟩ <;>
    cases head <;> simp_all [takes, arity, Accepts]

theorem name_injective {head other : Head} (h : head.name = other.name) : head = other := by
  rw [← Option.some_inj, ← ofName?_name head, ← ofName?_name other, h]

section Halves

variable [Text.Halves]

/-- With a number of arguments that it does not take, a head neither accepts nor builds. -/
theorem exists_build_iff_of_takes_eq_false (h : head.takes arguments.length = false) :
    (∃ f, head.build arguments = .ok f) ↔ head.Accepts arguments := by
  rw [build_arity h]
  exact iff_of_false nofun (not_accepts_of_takes_eq_false h)

theorem exists_build_set_iff :
    (∃ f, set.build (name :: values) = .ok f) ↔
      name.IsName ∧ ∀ v ∈ values, v.WellReferenced := by
  rw [← exists_decodes_iff]
  simp only [build_set_eq_ok_iff, nameOf_eq_ok_iff]
  constructor
  · intro ⟨f, n, hn, vs, hvs, _⟩
    exact ⟨⟨n, hn⟩, vs, hvs⟩
  · intro ⟨⟨n, hn⟩, vs, hvs⟩
    exact ⟨_, n, hn, vs, hvs, rfl⟩

theorem exists_build_unset_iff : (∃ f, unset.build [name] = .ok f) ↔ name.IsName := by
  simp only [build_unset_eq_ok_iff, nameOf_eq_ok_iff]
  constructor
  · intro ⟨f, n, hn, _⟩
    exact ⟨n, hn⟩
  · intro ⟨n, hn⟩
    exact ⟨_, n, hn, rfl⟩

theorem exists_build_plot_iff (h : items ≠ []) :
    (∃ f, plot.build items = .ok f) ↔
      ∀ i ∈ items, ¬ i.IsLoneCurveHead ∧ i.WellReferenced := by
  simp only [build_plot_eq_ok_iff h, ← exists_plotItem_iff]
  rw [← exists_mapM_eq_ok_iff]
  constructor
  · intro ⟨f, curves, hcurves, _⟩
    exact ⟨curves, hcurves⟩
  · intro ⟨curves, hcurves⟩
    exact ⟨_, curves, hcurves, rfl⟩

theorem exists_build_curve_iff {source : Datum} {options : List Datum} :
    (∃ f, curve.build (source :: options) = .ok f) ↔
      ∀ d ∈ source :: options, d.WellReferenced := by
  simp only [build_curve_eq_ok_iff, ← exists_curveOfArguments_iff]
  constructor
  · intro ⟨f, c, hc, _⟩
    exact ⟨c, hc⟩
  · intro ⟨c, hc⟩
    exact ⟨_, c, hc, rfl⟩

theorem exists_build_table_iff {rows : Datum} :
    (∃ f, table.build [name, rows] = .ok f) ↔ name.IsName ∧ rows.HoldsRows := by
  rw [← exists_rowsOfArgument_iff]
  simp only [build_table_eq_ok_iff, nameOf_eq_ok_iff]
  constructor
  · intro ⟨f, cells, hcells, n, hn, values, hvalues, _⟩
    exact ⟨⟨n, hn⟩, cells, hcells, values, hvalues⟩
  · intro ⟨⟨n, hn⟩, cells, hcells, values, hvalues⟩
    exact ⟨_, cells, hcells, n, hn, values, hvalues, rfl⟩

theorem exists_build_data_iff {lines : List Datum} :
    (∃ f, data.build (name :: lines) = .ok f) ↔
      name.IsName ∧
        ((∀ line ∈ lines, line.IsText) ∨ ∃ only, lines = [only] ∧ only.HoldsTexts) := by
  rw [← exists_linesOfArguments_iff]
  simp only [build_data_eq_ok_iff, nameOf_eq_ok_iff]
  constructor
  · intro ⟨f, texts, htexts, n, hn, _⟩
    exact ⟨⟨n, hn⟩, texts, htexts⟩
  · intro ⟨⟨n, hn⟩, texts, htexts⟩
    exact ⟨_, texts, htexts, n, hn, rfl⟩

theorem exists_build_function_iff {parameters body : Datum} :
    (∃ f, function.build [name, parameters, body] = .ok f) ↔
      name.IsName ∧ (parameters.IsText ∨ parameters.HoldsTexts) ∧ body.WellReferenced := by
  rw [← exists_parametersOfArgument_iff, ← exists_bodyOfArgument_iff]
  simp only [build_function_eq_ok_iff, nameOf_eq_ok_iff]
  constructor
  · intro ⟨f, texts, htexts, n, hn, b, hb, _⟩
    exact ⟨⟨n, hn⟩, ⟨texts, htexts⟩, b, hb⟩
  · intro ⟨⟨n, hn⟩, ⟨texts, htexts⟩, b, hb⟩
    exact ⟨_, texts, htexts, n, hn, b, hb, rfl⟩

theorem exists_build_constant_iff {body : Datum} :
    (∃ f, constant.build [name, body] = .ok f) ↔ name.IsName ∧ body.WellReferenced := by
  rw [← exists_bodyOfArgument_iff]
  simp only [build_constant_eq_ok_iff, nameOf_eq_ok_iff]
  constructor
  · intro ⟨f, n, hn, b, hb, _⟩
    exact ⟨⟨n, hn⟩, b, hb⟩
  · intro ⟨⟨n, hn⟩, b, hb⟩
    exact ⟨_, n, hn, b, hb, rfl⟩

theorem exists_build_raw_iff {text : Datum} :
    (∃ f, raw.build [text] = .ok f) ↔ text.isWritable = true := by
  simp only [build_raw_eq_ok_iff, exists_and_left, exists_eq, and_true]

/-- A head builds a form of exactly the arguments that it accepts, except for a raw statement whose
argument cannot be written. -/
theorem exists_build_iff :
    (∃ f, head.build arguments = .ok f) ↔
      head.Accepts arguments ∧
        ¬ (head = raw ∧ ∃ text, arguments = [text] ∧ text.isWritable = false) := by
  by_cases taken : head.takes arguments.length = false
  · have refused := not_accepts_of_takes_eq_false taken
    rw [exists_build_iff_of_takes_eq_false taken]
    exact iff_of_false refused fun h => refused h.1
  by_cases hraw : head = raw
  · subst hraw
    match arguments, taken with
    | [text], _ =>
      rw [exists_build_raw_iff]
      simp [Accepts]
  · rw [and_iff_left fun h => hraw h.1]
    match head, arguments, taken with
    | set, name :: values, _ => exact exists_build_set_iff
    | unset, [name], _ => exact exists_build_unset_iff
    | plot, item :: items, _ => exact exists_build_plot_iff nofun
    | curve, source :: options, _ => exact exists_build_curve_iff
    | table, [name, rows], _ => exact exists_build_table_iff
    | data, name :: lines, _ => exact exists_build_data_iff
    | function, [name, parameters, body], _ => exact exists_build_function_iff
    | constant, [name, body], _ => exact exists_build_constant_iff
    | comment, parts, _ => exact iff_of_true ⟨_, rfl⟩ trivial
    | reset, [], _ => exact iff_of_true ⟨_, rfl⟩ trivial

theorem faultsAre_build_nil (head : Head) :
    FaultsAre Fault.IsOfConstruction (head.build []) := by
  by_cases taken : head.takes 0 = false
  · rw [build_arity taken]
    exact .of_error (head.isOfConstruction_fault _)
  match head, taken with
  | comment, _ => exact .of_ok _
  | reset, _ => exact .of_ok _

/-- Nothing goes wrong in building a form but construction, except that the first argument may have
to be shown. -/
theorem faultsAre_build_cons (head : Head) (first : Datum) (others : List Datum) :
    FaultsAre (Fault.IsOfReading first) (head.build (first :: others)) := by
  by_cases taken : head.takes (first :: others).length = false
  · rw [build_arity taken]
    exact .of_error (.inl (head.isOfConstruction_fault _))
  -- What remains are the statements proper, each a sequence of readings.
  match head, others, taken with
  | set, values, _ =>
    apply FaultsAre.bind (faultsAre_nameOf set first)
    intro n
    exact ((faultsAre_decodeAll values).ofReading first).bind fun vs => .of_ok _
  | unset, [], _ =>
    exact (faultsAre_nameOf unset first).bind fun n => .of_ok _
  | plot, items, _ =>
    have read := FaultsAre.mapM faultsAre_plotItem (first :: items)
    exact (read.ofReading first).bind fun curves => .of_ok _
  | curve, options, _ =>
    have read := faultsAre_curveOfArguments (first :: options)
    exact (read.ofReading first).bind fun c => .of_ok _
  | table, [rows], _ =>
    have read := (faultsAre_rowsOfArgument rows).mono fun _ => Fault.IsUnder.isOfConstruction
    apply FaultsAre.bind (read.ofReading first)
    intro cells
    apply FaultsAre.bind (faultsAre_nameOf table first)
    intro n
    rw [decodeRows_eq_mapM]
    exact ((FaultsAre.mapM faultsAre_decodeAll cells).ofReading first).bind fun values => .of_ok _
  | data, lines, _ =>
    have read := (faultsAre_linesOfArguments lines).mono fun _ => Fault.IsUnder.isOfConstruction
    apply FaultsAre.bind (read.ofReading first)
    intro texts
    exact (faultsAre_nameOf data first).bind fun n => .of_ok _
  | function, [parameters, body], _ =>
    have read :=
      (faultsAre_parametersOfArgument parameters).mono fun _ => Fault.IsUnder.isOfConstruction
    apply FaultsAre.bind (read.ofReading first)
    intro texts
    apply FaultsAre.bind (faultsAre_nameOf function first)
    intro n
    exact ((faultsAre_bodyOfArgument body).ofReading first).bind fun b => .of_ok _
  | constant, [body], _ =>
    apply FaultsAre.bind (faultsAre_nameOf constant first)
    intro n
    exact ((faultsAre_bodyOfArgument body).ofReading first).bind fun b => .of_ok _
  | comment, parts, _ => exact .of_ok _
  | raw, [], _ =>
    intro fault h
    obtain ⟨unwritable, hfault⟩ := ifWritable_eq_error_iff.1 (map_eq_error_iff.1 h)
    exact .inr ⟨unwritable, hfault⟩

end Halves

end Head

namespace Datum

theorem isUnwritableRaw_iff (h : d.items? = some (.text head.name :: arguments)) :
    d.IsUnwritableRaw ↔
      head = .raw ∧ ∃ argument, arguments = [argument] ∧ argument.isWritable = false := by
  unfold IsUnwritableRaw
  simp only [h, Option.some.injEq, List.cons.injEq, Datum.text.injEq]
  constructor
  · intro ⟨argument, ⟨hname, harguments⟩, hwritable⟩
    exact ⟨Head.name_injective hname, argument, harguments, hwritable⟩
  · intro ⟨hhead, argument, harguments, hwritable⟩
    exact ⟨argument, ⟨congrArg Head.name hhead, harguments⟩, hwritable⟩

/-- Behind a head a datum is an expression if its arguments are accepted. -/
theorem isExpression_iff (h : d.items? = some (.text head.name :: arguments)) :
    d.IsExpression ↔ head.Accepts arguments := by
  constructor
  · rintro (⟨f, rfl⟩ | ⟨other, others, hothers, accepts⟩)
    · cases h
    · obtain ⟨hname, rfl⟩ := List.cons.inj (Option.some.inj (h.symm.trans hothers))
      obtain rfl := Head.name_injective (text.inj hname)
      exact accepts
  · intro accepts
    exact .inr ⟨head, arguments, h, accepts⟩

end Datum

namespace Form

section Halves

variable [Text.Halves] {e : Datum}

/-- A datum expresses a form exactly if it is in the grammar and no raw statement that cannot be
written. -/
theorem exists_ofExpression_iff :
    (∃ f, ofExpression e = .ok f) ↔ e.IsExpression ∧ ¬ e.IsUnwritableRaw := by
  rcases ofExpression_cases e with ⟨f, rfl⟩ | ⟨head, arguments, hitems, hread⟩ |
    ⟨noForm, noHead, named, reason, hread, -⟩
  · exact iff_of_true ⟨f, rfl⟩ ⟨.inl ⟨f, rfl⟩, nofun⟩
  · rw [hread, Head.exists_build_iff, Datum.isExpression_iff hitems,
      Datum.isUnwritableRaw_iff hitems]
  · rw [hread]
    apply iff_of_false nofun
    rintro ⟨⟨f, hf⟩ | ⟨head, arguments, hitems, -⟩, -⟩
    · exact noForm f hf
    · exact noHead head arguments hitems

theorem ofExpression_of_isUnwritableRaw (h : e.IsUnwritableRaw) :
    ofExpression e = .error .unwritable := by
  obtain ⟨text, hitems, hidden⟩ := h
  have raw : e.items? = some (.text Head.raw.name :: [text]) := hitems
  rw [ofExpression_of_items? raw, Head.build, Datum.written, hidden]
  rfl

/-- Nothing goes wrong in reading an expression but construction, except that it may have to be
shown. -/
theorem faultsAre_ofExpression (e : Datum) : FaultsAre (Fault.IsOfReading e) (ofExpression e) := by
  rcases ofExpression_cases e with ⟨f, rfl⟩ | ⟨head, arguments, hitems, hread⟩ |
    ⟨-, -, named, reason, hread, hnamed⟩
  · exact .of_ok f
  · rw [hread]
    cases arguments with
    | nil => exact head.faultsAre_build_nil.ofReading e
    | cons first others =>
      exact (head.faultsAre_build_cons first others).mono fun fault h =>
        h.of_mem hitems (.tail _ (.head _))
  · rw [hread]
    have shown := Fault.isOfReading_unknownFormOf named reason
    rcases hnamed with rfl | ⟨arguments, hitems⟩
    · exact .of_error shown
    · exact .of_error (shown.of_mem hitems (.head _))

/-- A form comes of exactly the data in the grammar that are no raw statements with an argument that
cannot be written. Such a statement is refused for that, and any other datum by a fault of
construction or because it cannot be shown. -/
theorem ofExpression_accepts_exactly (e : Datum) :
    ((∃ f, ofExpression e = .ok f) ↔ e.IsExpression ∧ ¬ e.IsUnwritableRaw) ∧
      (e.IsUnwritableRaw → ofExpression e = .error .unwritable) ∧
      (¬ e.IsExpression → ∃ fault, ofExpression e = .error fault ∧
        (fault.IsOfConstruction ∨ e.isWritable = false ∧ fault = .unwritable)) := by
  refine ⟨exists_ofExpression_iff, ofExpression_of_isUnwritableRaw, fun outside => ?_⟩
  cases hread : ofExpression e with
  | ok f => exact absurd (exists_ofExpression_iff.1 ⟨f, hread⟩).1 outside
  | error fault => exact ⟨fault, rfl, faultsAre_ofExpression e fault hread⟩

end Halves

/-- A raw statement is refused although it is in the grammar. -/
theorem ofExpression_refuses_overlong :
    (Datum.list [.text "raw", .int Decimal.overlong]).IsExpression ∧
      ofExpression (.list [.text "raw", .int Decimal.overlong]) = .error .unwritable :=
  ⟨.inr ⟨.raw, [.int Decimal.overlong], rfl, trivial⟩,
    ofExpression_of_isUnwritableRaw ⟨_, rfl, Decimal.not_isWritable_overlong⟩⟩

end Form

end GnuplotScript
