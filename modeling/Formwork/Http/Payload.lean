import Formwork.Form.Reader
import Formwork.Http.Basic
import Formwork.Value.Json

/-!
# Payloads

What the body of a request has to be for each endpoint, and how its faults are told.
-/

namespace Formwork.Http

structure FormPayload where
  form : Value

structure SubmissionPayload where
  form : Value
  data : Value

structure VisibilityPayload where
  fields : Option (List Field)
  form : Option Form
  values : List (String × Value)

structure SchemaPayload where
  form : Value
  title : Option String
  strict : Bool

structure BenchmarkPayload where
  form : Value
  rounds : Option Count

/-- An entry that has to be an object. -/
def objectEntry (key : String) (es : List (String × Value)) : Reading Value :=
  (Document.entry [key] Document.object es).map .object

def FormPayload.read (es : List (String × Value)) : Reading FormPayload :=
  FormPayload.mk <$> objectEntry "metadata" es

def SubmissionPayload.read (es : List (String × Value)) : Reading SubmissionPayload :=
  SubmissionPayload.mk <$> objectEntry "metadata" es <*> objectEntry "data" es

/-- A field is a level above its condition here. -/
def VisibilityPayload.read (es : List (String × Value)) : Reading VisibilityPayload :=
  let levels := Condition.mostLevels - 1
  VisibilityPayload.mk
    <$> Document.entryOr none ["fields"]
      (Document.nullable (Document.list (Field.readWithin levels))) es
    <*> Document.entryOr none ["metadata"] (Document.nullable (Form.readWithin levels)) es
    <*> Document.entryOr [] ["values"] Document.object es

def SchemaPayload.read (es : List (String × Value)) : Reading SchemaPayload :=
  SchemaPayload.mk <$> objectEntry "metadata" es
    <*> Document.entryOr none ["title"] (Document.nullable Document.text) es
    <*> Document.entryOr false ["strict"] Document.bool es

/-- The most rounds that a client may ask for. -/
def maxRounds : Nat := 100000

def BenchmarkPayload.read (es : List (String × Value)) : Reading BenchmarkPayload :=
  BenchmarkPayload.mk <$> objectEntry "metadata" es
    <*> Document.entryOr none ["iterations"]
      (Document.nullable (Document.countUpTo maxRounds)) es

/-- The body of a request as a payload. It lies under a key of its own when faults are told. -/
def readBody {α : Type} (read : List (String × Value) → Reading α) (body : Option Value) :
    Reading α :=
  Reading.inside (.key "body") <|
    match body with
    | some v => Document.record "payload" read v
    | none => .fail .missing .null

/-! ## Telling faults -/

/-- The tag of a fault. For a client no record is an instance of a model. -/
def faultTag : FaultKind → String
  | .notRecord _ => "model_attributes_type"
  | kind => kind.tag

def faultMessage : FaultKind → String
  | .notRecord _ => "Input should be a valid dictionary or object to extract fields from"
  | kind => kind.message

/-- What would have been right, where that is a matter of words or bounds. -/
def faultContext : FaultKind → List (String × Value)
  | .notOneOf words => [("ctx", entry "expected" (.text (alternatives words)))]
  | .below n => [("ctx", entry "ge" (.int n))]
  | .above n => [("ctx", entry "le" (.int n))]
  | .emptyText => [("ctx", entry "min_length" (.int 1))]
  | _ => []

def stepValue : PathStep → Value
  | .key name => .text name
  | .index i => .int i

def faultValue (f : Fault) : Value :=
  .object ([
    ("type", .text (faultTag f.kind)),
    ("loc", .list (f.path.map stepValue)),
    ("msg", .text (faultMessage f.kind)),
    ("input", f.found)] ++ faultContext f.kind)

/-- The response to a request whose body has faults. What was found is told as it is, and a number
that is not finite cannot be told. -/
def faultsResponse (fs : List Fault) : Response :=
  if fs.all (·.found.hasFiniteFloats) then .detail 422 (.list (fs.map faultValue)) else .failure

end Formwork.Http
