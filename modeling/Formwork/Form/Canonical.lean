import Formwork.Digest.Sha256
import Formwork.Form.Basic
import Formwork.Value.Json

/-!
# Canonical forms

The JSON document of a form with every key spelled out, and the digest of its canonical text.
-/

namespace Formwork

namespace Condition

mutual

def toValue : Condition → Value
  | leaf field operator value =>
    .object [("fieldId", .text field), ("operator", .text operator.word), ("value", value.toJson)]
  | group combinator children =>
    .object [("op", .text combinator.word), ("children", .list (toValueAll children))]
termination_by structural c => c

def toValueAll : List Condition → List Value
  | [] => []
  | c :: cs => toValue c :: toValueAll cs
termination_by structural cs => cs

end

end Condition

namespace Condition

mutual

/-- Why a condition inside so many groups has no JSON form, if it has none. The groups and the test
itself are levels above the value of the test. -/
def noJson? (groups : Nat) : Condition → Option Value.NoJson
  | leaf _ _ value =>
    (value.noJson? (Value.mostLevels - 1 - groups)).map fun e =>
      if groups = 0 && e == .tooDeep true then .repeated else e
  | group _ children => noJsonAmong? (groups + 1) children
termination_by structural c => c

def noJsonAmong? (groups : Nat) : List Condition → Option Value.NoJson
  | [] => none
  | c :: cs => (noJson? groups c).or (noJsonAmong? groups cs)
termination_by structural cs => cs

end

end Condition

def Choice.toValue (c : Choice) : Value :=
  .object [("label", .text c.label), ("value", c.value.toJson)]

/-- The JSON document of a field. A default value shows only where one was given. -/
def Field.toValue (f : Field) : Value :=
  .object ([
    ("id", .text f.id),
    ("name", .text f.name),
    ("type", .text f.kindName),
    ("label", .text f.label),
    ("required", .bool f.required),
    ("placeholder", (f.placeholder.map Value.text).getD .null),
    ("options", (f.options.map fun cs => Value.list (cs.map Choice.toValue)).getD .null),
    ("condition", (f.condition.map Condition.toValue).getD .null)]
    ++ ((f.fallback.map fun v => [("defaultValue", v.toJson)]).getD [])
    ++ [("multiple", .bool f.multiple)])

/-- Why a field has no JSON document, if it has none. Its integers may have any length. -/
def Field.noJson? (f : Field) : Option Value.NoJson :=
  (f.choices.findSome? (·.noJson? Value.mostLevels)).or <|
    (f.condition.bind (·.noJson? 0)).or (f.fallback.bind (·.noJson? Value.mostLevels))

/-- The canonical document of a field, if it has one. -/
def Field.document (f : Field) : Except Value.NoJson Value :=
  match f.noJson? with
  | some e => .error e
  | none => .ok f.toValue

/-- The JSON document of a form. -/
def Form.toValue (form : Form) : Value :=
  .object [("version", .text form.version), ("fields", .list (form.fields.map Field.toValue))]

/-- The text that the digest is taken of. -/
def Form.encoding (form : Form) : String := form.toValue.canonical

/-- Why the JSON document of a form has no text, if it has none: all fields need a document first,
and then every integer has to be written. -/
def Form.noJson? (form : Form) : Option Value.NoJson :=
  (form.fields.findSome? Field.noJson?).or
    (if form.toValue.hasShortIntegers then none else some .longInteger)

/-- The name of a form by its content. -/
def Form.contentHash (form : Form) : Except Value.NoJson String :=
  match form.noJson? with
  | some e => .error e
  | none => .ok (Sha256.digest form.encoding.toUTF8.toList)

end Formwork
