import Formwork.Document.Reading
import Formwork.Form.Basic

/-!
# Reading forms

The document of a form is an object. Keys that mean nothing to a form are passed over.
-/

namespace Formwork

namespace Condition

/-- A test of one field. -/
def readLeaf (es : List (String × Value)) : Reading Condition :=
  leaf <$> Document.entry ["fieldId", "field_id"] Document.nonEmptyText es
    <*> Document.entry ["operator"] (Document.oneOf Operator.words) es
    <*> Document.entryOr .null ["value"] .ok es

/-- How many levels of groups and tests are read. -/
def mostLevels : Nat := 255

mutual

/-- A condition of so many levels. An object with a combinator is a group, all else is a test. -/
def read (levels : Nat) : Value → Reading Condition
  | .object es =>
    let isGroup := (es.lookup "op").isSome
    Reading.inside (.key (if isGroup then "group" else "leaf")) <|
      if levels = 0 then .fail .endless (.object es)
      else if isGroup then group
        <$> Document.entry ["op"] (Document.oneOf Combinator.words) es
        <*> ((readChildren (levels - 1) es).getD (.ok [])).inside (.key "children")
      else readLeaf es
  | v => Reading.inside (.key "leaf") <|
      .fail (if levels = 0 then .endless else .notRecord "ConditionLeaf") v
termination_by structural v => v

/-- The conditions under the key of a group's children, if there is one. -/
def readChildren (levels : Nat) : List (String × Value) → Option (Reading (List Condition))
  | [] => none
  | (k, v) :: es =>
    if k == "children" then some (readList levels v) else readChildren levels es
termination_by structural es => es

def readList (levels : Nat) : Value → Reading (List Condition)
  | .list xs => Document.inOrder 0 (readAll levels xs)
  | .tuple xs => Document.inOrder 0 (readAll levels xs)
  | .set xs => Document.inOrder 0 (readAll levels xs)
  | v => .fail .notList v
termination_by structural v => v

def readAll (levels : Nat) : List Value → List (Reading Condition)
  | [] => []
  | v :: vs => read levels v :: readAll levels vs
termination_by structural vs => vs

end

end Condition

def Choice.read : Value → Reading Choice :=
  Document.record "FieldOption" fun es =>
    Choice.mk <$> Document.entry ["label"] Document.text es <*> Document.entry ["value"] .ok es

/-- A field with a condition of so many levels. -/
def Field.readWithin (levels : Nat) : Value → Reading Field :=
  Document.record "FormField" fun es =>
    Field.mk <$> Document.entry ["id"] Document.nonEmptyText es
      <*> Document.entry ["name"] Document.nonEmptyText es
      <*> Document.entry ["type"] Document.text es
      <*> Document.entry ["label"] Document.text es
      <*> Document.entryOr false ["required"] Document.bool es
      <*> Document.entryOr none ["placeholder"] (Document.nullable Document.text) es
      <*> Document.entryOr none ["options"] (Document.nullable (Document.list Choice.read)) es
      <*> Document.entryOr none ["condition"] (Document.nullable (Condition.read levels)) es
      <*> Document.optionalEntry ["defaultValue", "default_value"] .ok es
      <*> Document.entryOr false ["multiple"] Document.bool es

def Field.read : Value → Reading Field := Field.readWithin Condition.mostLevels

/-- A form whose conditions have so many levels. -/
def Form.readWithin (levels : Nat) : Value → Reading Form :=
  Document.record "FormMetadata" fun es =>
    Form.mk <$> Document.entry ["version"] Document.text es
      <*> Document.entryOr [] ["fields"] (Document.list (Field.readWithin levels)) es

def Form.read : Value → Reading Form := Form.readWithin Condition.mostLevels

end Formwork
