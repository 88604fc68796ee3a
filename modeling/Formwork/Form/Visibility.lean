import Formwork.Form.Basic
import Formwork.Text.Search
import Formwork.Value.Entries
import Formwork.Value.Equality

/-!
# Visibility

Which fields are shown for the values entered so far. A field without a condition is always shown,
and a field without a value has the value null.
-/

namespace Formwork

/-- Values entered so far, by the id of their field. -/
abbrev Answers : Type := List (String × Value)

namespace Value

/-- A text contains its parts, a list or tuple its members; nothing else contains anything. -/
def containsValue (v needle : Value) : Bool :=
  match v with
  | text s =>
    match needle with
    | text part => Text.occursIn part.toList s.toList
    | _ => false
  | list xs => xs.any fun x => x.strictEq needle
  | tuple xs => xs.any fun x => x.strictEq needle
  | _ => false

/-- Greater as numbers. What is no number is not greater than anything. -/
def greater (v w : Value) : Bool :=
  match v.toNumber?, w.toNumber? with
  | some a, some b => b.lt a
  | _, _ => false

/-- Less as numbers. -/
def less (v w : Value) : Bool :=
  match v.toNumber?, w.toNumber? with
  | some a, some b => a.lt b
  | _, _ => false

/-- Null, the empty text, and a list or tuple without members. -/
def isEmptyValue : Value → Bool
  | null => true
  | text s => s.isEmpty
  | list xs => xs.isEmpty
  | tuple xs => xs.isEmpty
  | _ => false

end Value

/-- Whether a value passes a test. -/
def Operator.holds (op : Operator) (value comparison : Value) : Bool :=
  match op with
  | equals => value.strictEq comparison
  | notEquals => !value.strictEq comparison
  | contains => value.containsValue comparison
  | greaterThan => value.greater comparison
  | lessThan => value.less comparison
  | isEmpty => value.isEmptyValue
  | isNotEmpty => !value.isEmptyValue

/-- The value entered for a field. -/
def Answers.get (answers : Answers) (id : String) : Value := (answers.lookup id).getD .null

namespace Condition

mutual

/-- Whether a condition holds. A group without children holds iff it asks for all of them. -/
def holds (answers : Answers) : Condition → Bool
  | leaf field operator value => operator.holds (answers.get field) value
  | group .all children => allHold answers children
  | group .any children => anyHolds answers children
termination_by structural c => c

def allHold (answers : Answers) : List Condition → Bool
  | [] => true
  | c :: cs => holds answers c && allHold answers cs
termination_by structural cs => cs

def anyHolds (answers : Answers) : List Condition → Bool
  | [] => false
  | c :: cs => holds answers c || anyHolds answers cs
termination_by structural cs => cs

end

end Condition

/-- Whether a field is shown. -/
def Field.isVisible (f : Field) (answers : Answers) : Bool :=
  match f.condition with
  | some c => c.holds answers
  | none => true

/-- For every id whether its field is shown. -/
def visibility (fields : List Field) (answers : Answers) : List (String × Bool) :=
  fields.foldl (fun shown f => putEntry shown f.id (f.isVisible answers)) []

end Formwork
