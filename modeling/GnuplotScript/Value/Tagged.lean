import GnuplotScript.Value.Basic

/-!
# Tagged values

JSON has no words and no references, so a document writes them as mappings of one entry whose
key is a tag. A mapping with any other key, with several entries or with an entry that is no
text is an ordinary datum.

## Main definitions

* `Tag` — the tags
* `Value.decode` — the value that a datum of a document stands for
-/

namespace GnuplotScript

/-- The tags of values that JSON cannot express otherwise. -/
inductive Tag where
  | raw
  | bare
  | flag
  | ref
  deriving DecidableEq, Repr

namespace Tag

/-- How a tag is written. -/
def name : Tag → String
  | raw => "raw"
  | bare => "bare"
  | flag => "flag"
  | ref => "ref"

/-- The tag that a text names. -/
def ofName? (s : String) : Option Tag :=
  [raw, bare, flag, ref].find? fun tag => tag.name == s

@[simp] theorem ofName?_name (tag : Tag) : ofName? tag.name = some tag := by
  cases tag <;> decide

/-- The value of a tagged text. -/
def value (tag : Tag) (s : String) : Except Fault Value :=
  match tag with
  | raw => .ok (.literal s)
  | bare => .ok (.bareword s)
  | flag => .ok (.flag s)
  | ref => Value.referenceNamed s

end Tag

/-- The tag and the text of a tagged datum. -/
def Datum.tagged? : Datum → Option (Tag × String)
  | mapping [(text key, text s)] => (Tag.ofName? key).map (·, s)
  | _ => none

mutual

/-- The value that a datum of a document stands for: a tagged one for what its tag says, a
list or tuple for the sequence of what its items stand for, and any other as it is. -/
def Value.decode : Datum → Except Fault Value
  | .list items => (decodeAll items).map .sequence
  | .tuple items => (decodeAll items).map .sequence
  | d =>
    match d.tagged? with
    | some (tag, s) => tag.value s
    | none => .ok (Value.ofDatum d)

/-- What several data of a document stand for; the first fault is reported. -/
def decodeAll : List Datum → Except Fault (List Value)
  | [] => .ok []
  | d :: rest =>
    match Value.decode d with
    | .error fault => .error fault
    | .ok v => (decodeAll rest).map (v :: ·)

end

/-- What the rows of a table in a document stand for, row by row. -/
def decodeRows : List (List Datum) → Except Fault (List (List Value))
  | [] => .ok []
  | row :: rest =>
    match decodeAll row with
    | .error fault => .error fault
    | .ok values => (decodeRows rest).map (values :: ·)

namespace Value

@[simp] theorem decode_value (v : Value) : decode (.value v) = .ok v := by
  simp [decode, Datum.tagged?]

@[simp] theorem decode_text (s : String) : decode (.text s) = .ok (.text s) := by
  simp [decode, Datum.tagged?]

/-- A tagged text stands for the value of its tag. -/
theorem decode_tagged (tag : Tag) (s : String) :
    decode (.mapping [(.text tag.name, .text s)]) = tag.value s := by
  simp [decode, Datum.tagged?]

end Value

end GnuplotScript
