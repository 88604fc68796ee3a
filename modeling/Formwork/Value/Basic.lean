import Formwork.Calendar.DateTime
import Formwork.Number.Literal

/-!
# Values

What a form compares, submits and keeps: JSON values, with integers apart from binary64 numbers,
and tuples, sets, dates and times besides. A mark stands where there is no value.
-/

namespace Formwork

inductive Value where
  | null
  | bool (b : Bool)
  | int (n : Int)
  | float (x : Binary64)
  | text (s : String)
  | date (d : Date)
  | dateTime (t : DateTime)
  | list (items : List Value)
  | tuple (items : List Value)
  | set (items : List Value)
  | missing
  | object (entries : List (String × Value))

namespace Value

/-- The number that a value is. Booleans, infinities and NaN are none. -/
def number? : Value → Option Number
  | int n => some (.whole n)
  | float (.finite x) => some (.real x)
  | _ => none

/-- The number that a value is or writes. -/
def toNumber? : Value → Option Number
  | text s => Number.read? s
  | v => v.number?

/-- A number as a value. -/
def ofNumber : Number → Value
  | .whole n => int n
  | .real x => float (.finite x)

/-- The members of a list or a tuple. -/
def items? : Value → Option (List Value)
  | list xs => some xs
  | tuple xs => some xs
  | _ => none

/-- The members of a list, a tuple or a set. -/
def elements? : Value → Option (List Value)
  | set xs => some xs
  | v => v.items?

/-- Whether a value holds others. -/
def isContainer : Value → Bool
  | list _ | tuple _ | set _ | object _ => true
  | _ => false

/-- The word that a message uses for the kind of a value. -/
def kindName : Value → String
  | null => "null"
  | bool _ => "bool"
  | int _ => "int"
  | float _ => "float"
  | text _ => "str"
  | date _ => "date"
  | dateTime _ => "datetime"
  | list _ | tuple _ | set _ => "array"
  | missing => "_Missing"
  | object _ => "object"

end Value

end Formwork
