import Formwork.Value.Basic

/-!
# Forms

A form is a version and a list of fields. A field has a kind of input, may offer choices, and may
be shown only while a condition on other fields holds.
-/

namespace Formwork

/-- How a condition tests the value of a field. -/
inductive Operator where
  | equals
  | notEquals
  | contains
  | greaterThan
  | lessThan
  | isEmpty
  | isNotEmpty
deriving DecidableEq

/-- How a group joins its conditions. -/
inductive Combinator where
  | all
  | any
deriving DecidableEq

/-- A test of one field's value, or a group of conditions. -/
inductive Condition where
  | leaf (field : String) (operator : Operator) (value : Value)
  | group (combinator : Combinator) (children : List Condition)

/-- A choice that a field offers. -/
structure Choice where
  label : String
  value : Value

/-- The kinds of input. -/
inductive FieldKind where
  | text
  | number
  | select
  | date
  | checkbox
  | textarea
deriving DecidableEq

/-- A field of a form. Its kind is kept as written, known or not. -/
structure Field where
  id : String
  /-- The key of the field's value in a submission. -/
  name : String
  kindName : String
  label : String
  required : Bool
  placeholder : Option String
  options : Option (List Choice)
  condition : Option Condition
  /-- The value for a submission without the field, where one was given. -/
  fallback : Option Value
  multiple : Bool

structure Form where
  version : String
  fields : List Field

namespace Operator

def words : List (String × Operator) :=
  [("equals", equals), ("notEquals", notEquals), ("contains", contains),
    ("greaterThan", greaterThan), ("lessThan", lessThan), ("isEmpty", isEmpty),
    ("isNotEmpty", isNotEmpty)]

def word : Operator → String
  | equals => "equals"
  | notEquals => "notEquals"
  | contains => "contains"
  | greaterThan => "greaterThan"
  | lessThan => "lessThan"
  | isEmpty => "isEmpty"
  | isNotEmpty => "isNotEmpty"

end Operator

namespace Combinator

def words : List (String × Combinator) := [("and", all), ("or", any)]

def word : Combinator → String
  | all => "and"
  | any => "or"

end Combinator

namespace FieldKind

def words : List (String × FieldKind) :=
  [("text", text), ("number", number), ("select", select), ("date", date),
    ("checkbox", checkbox), ("textarea", textarea)]

def ofName? (name : String) : Option FieldKind := words.lookup name

end FieldKind

namespace Condition

mutual

/-- Every test in a condition, from left to right. -/
def leaves : Condition → List (String × Operator × Value)
  | leaf field operator value => [(field, operator, value)]
  | group _ children => leavesAll children
termination_by structural c => c

def leavesAll : List Condition → List (String × Operator × Value)
  | [] => []
  | c :: cs => leaves c ++ leavesAll cs
termination_by structural cs => cs

end

end Condition

namespace Field

def kind? (f : Field) : Option FieldKind := FieldKind.ofName? f.kindName

/-- The values of the choices. -/
def choices (f : Field) : List Value := (f.options.getD []).map Choice.value

/-- A checkbox with more than one choice collects a list. -/
def isCheckboxGroup (f : Field) : Bool := f.kindName == "checkbox" && 1 < f.choices.length

/-- Whether the field collects a list of choices. -/
def isMulti (f : Field) : Bool :=
  if f.kindName == "select" then f.multiple else f.isCheckboxGroup

/-- The ids that the condition refers to, in its order. -/
def references (f : Field) : List String :=
  match f.condition with
  | some c => c.leaves.map (·.1)
  | none => []

end Field

/-- The first field with an id. -/
def Form.field? (form : Form) (id : String) : Option Field := form.fields.find? (·.id == id)

end Formwork
