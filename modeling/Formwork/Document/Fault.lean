import Formwork.Value.Basic

/-!
# Faults of a document

Why a document does not describe what it should, and where. All faults of a document are told.
-/

namespace Formwork

/-- What is wrong with a part of a document. -/
inductive FaultKind where
  | missing
  | notText
  | emptyText
  | notBool
  | unclearBool
  | notInt
  | fractionalInt
  | unclearInt
  | oversizedInt
  | notFinite
  | below (least : Int)
  | above (greatest : Int)
  | notList
  | notObject
  | notRecord (model : String)
  | notOneOf (allowed : List String)
  /-- The document seems to contain itself. -/
  | endless
deriving DecidableEq

/-- One step from a document into a part of it. -/
inductive PathStep where
  | key (name : String)
  | index (i : Nat)
deriving DecidableEq

/-- A fault, its place, and the value found there; for a missing entry the object without it. -/
structure Fault where
  path : List PathStep
  kind : FaultKind
  found : Value

/-- Words in quotes, with commas between and the last set off by "or". -/
def alternatives : List String → String
  | [] => ""
  | [w] => s!"'{w}'"
  | [w, z] => s!"'{w}' or '{z}'"
  | w :: ws => s!"'{w}', " ++ alternatives ws

namespace FaultKind

/-- The word for the kind of a fault. -/
def tag : FaultKind → String
  | missing => "missing"
  | notText => "string_type"
  | emptyText => "string_too_short"
  | notBool => "bool_type"
  | unclearBool => "bool_parsing"
  | notInt => "int_type"
  | fractionalInt => "int_from_float"
  | unclearInt => "int_parsing"
  | oversizedInt => "int_parsing_size"
  | notFinite => "finite_number"
  | below _ => "greater_than_equal"
  | above _ => "less_than_equal"
  | notList => "list_type"
  | notObject => "dict_type"
  | notRecord _ => "model_type"
  | notOneOf _ => "enum"
  | endless => "recursion_loop"

/-- The message of a fault. -/
def message : FaultKind → String
  | missing => "Field required"
  | notText => "Input should be a valid string"
  | emptyText => "String should have at least 1 character"
  | notBool => "Input should be a valid boolean"
  | unclearBool => "Input should be a valid boolean, unable to interpret input"
  | notInt => "Input should be a valid integer"
  | fractionalInt => "Input should be a valid integer, got a number with a fractional part"
  | unclearInt => "Input should be a valid integer, unable to parse string as an integer"
  | oversizedInt => "Unable to parse input string as an integer, exceeded maximum size"
  | notFinite => "Input should be a finite number"
  | below n => s!"Input should be greater than or equal to {n}"
  | above n => s!"Input should be less than or equal to {n}"
  | notList => "Input should be a valid list"
  | notObject => "Input should be a valid dictionary"
  | notRecord model => s!"Input should be a valid dictionary or instance of {model}"
  | notOneOf allowed => s!"Input should be {alternatives allowed}"
  | endless => "Recursion error - cyclic reference detected"

end FaultKind

/-- A step as a word. -/
def PathStep.word : PathStep → String
  | key name => name
  | index i => toString i

/-- The steps of a path with points between. -/
def Fault.dottedPath (f : Fault) : String := ".".intercalate (f.path.map PathStep.word)

end Formwork
