import Formwork.Message.Catalog
import Formwork.Value.Text

/-!
# Violations

How a submitted value can violate the rules of its field. A violation knows its reason and what
there is to tell about it.
-/

namespace Formwork

inductive Violation where
  /-- There is no value, and there has to be one. -/
  | absent
  | notText
  | notBoolean (received : String)
  | notNumber (received : String)
  | notDate (received : String)
  | notOffered (choices : List Value)
  | notList
  | nothingSelected
  | selectedTwice (choice : Value)
  | notEmail
  | notUrl
  | notPhone
  | below (least : Int)
  | above (greatest : Int)

namespace Violation

def reason : Violation → Reason
  | absent => .required
  | notText => .invalidType
  | notBoolean _ => .invalidBoolean
  | notNumber _ => .invalidNumber
  | notDate _ => .invalidDate
  | notOffered _ => .invalidOption
  | notList => .invalidType
  | nothingSelected => .emptySelection
  | selectedTwice _ => .duplicateSelection
  | notEmail => .invalidEmail
  | notUrl => .invalidUrl
  | notPhone => .invalidPhone
  | below _ => .tooSmall
  | above _ => .tooBig

/-- The values whose texts are told. -/
def shown : Violation → List Value
  | notOffered choices => choices
  | selectedTwice choice => [choice]
  | _ => []

/-- Whether everything that is told can be written. -/
def canBeTold (v : Violation) : Bool := v.shown.all Value.hasShortIntegers

/-- What there is to tell, besides the label of the field. -/
def details : Violation → List (Slot × Value)
  | notText => [(.expected, .text "text")]
  | notList => [(.expected, .text "a list of options")]
  | notBoolean received | notNumber received | notDate received => [(.received, .text received)]
  | notOffered choices => [(.allowed, .text (", ".intercalate (choices.map Value.display)))]
  | selectedTwice choice => [(.value, choice)]
  | below least => [(.minimum, .int least)]
  | above greatest => [(.maximum, .int greatest)]
  | absent | nothingSelected | notEmail | notUrl | notPhone => []

/-- The text for a slot of the message. -/
def slotText (v : Violation) (label : String) (s : Slot) : Option String :=
  if s = .label then some label else (v.details.lookup s).map Value.display

/-- The message about a field with a label. -/
def message (v : Violation) (locale : Locale) (label : String) : String :=
  (v.reason.template locale).fill (v.slotText label)

end Violation

end Formwork
