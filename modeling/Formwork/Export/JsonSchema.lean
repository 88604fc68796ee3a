import Formwork.Submission.Item
import Formwork.Value.Entries

/-!
# JSON Schema

The JSON Schema of what a form keeps of its submissions. Each field says what it keeps in keywords;
what it accepts in other shapes and reads is not told.
-/

namespace Formwork

/-- A keyword of a schema with its argument. -/
inductive Keyword where
  | title (s : String)
  | type (name : String)
  | choices (values : List Value)
  /-- Each member is one of some values. -/
  | members (values : List Value)
  | uniqueMembers
  | minMembers (n : Nat)
  | minLength (n : Nat)
  | format (name : String)
  | examples (texts : List String)
  | default (v : Value)

namespace Keyword

/-- The entry of the schema that a keyword makes. -/
def entry : Keyword → String × Value
  | title s => ("title", .text s)
  | type name => ("type", .text name)
  | choices values => ("enum", .list values)
  | members values => ("items", .object [("enum", .list values)])
  | uniqueMembers => ("uniqueItems", .bool true)
  | minMembers n => ("minItems", .int n)
  | minLength n => ("minLength", .int n)
  | format name => ("format", .text name)
  | examples texts => ("examples", .list (texts.map .text))
  | default v => ("default", v)

end Keyword

/-- The schema of a submission. -/
structure JsonSchema where
  id : String
  title : String
  /-- The keywords for the value under each key. -/
  properties : List (String × List Keyword)
  /-- Whether other keys are allowed. -/
  isOpen : Bool
  required : List String

namespace JsonSchema

def draft : String := "http://json-schema.org/draft-07/schema#"

/-- The document of the schema. Without required keys it does not speak of them. -/
def toValue (s : JsonSchema) : Value :=
  .object ([
    ("$schema", .text draft),
    ("$id", .text s.id),
    ("title", .text s.title),
    ("type", .text "object"),
    ("properties", .object (s.properties.map fun (k, ks) => (k, .object (ks.map Keyword.entry)))),
    ("additionalProperties", .bool s.isOpen)]
    ++ if s.required.isEmpty then [] else [("required", .list (s.required.map .text))])

end JsonSchema

/-- The name of the format of texts that a schema tells: one of an email address or a URL. -/
def formatKeywords (formats : List TextFormat) : List Keyword :=
  if formats.contains .email then [.format "email"]
  else if formats.contains .url then [.format "uri"]
  else []

/-- The placeholder, unless it is empty, is an example. -/
def exampleKeywords : Option String → List Keyword
  | some s => if s.isEmpty then [] else [.examples [s]]
  | none => []

namespace Field

/-- What the field keeps, in keywords. A field that collects a list tells so whatever its kind. -/
def valueKeywords (f : Field) (kind : FieldKind) : List Keyword :=
  if f.isMulti then
    [.type "array", .members f.choices, .uniqueMembers]
      ++ if f.required then [.minMembers 1] else []
  else match kind with
    | .text | .textarea =>
      [.type "string"] ++ (if f.required then [.minLength 1] else []) ++ formatKeywords f.formats
        ++ exampleKeywords f.placeholder
    | .number => [.type "number"]
    | .date => [.type "string", .format "date-time"]
    | .checkbox => [.type "boolean"]
    | .select => [.choices f.choices]

def keywords (f : Field) (kind : FieldKind) : List Keyword :=
  .title f.label :: f.valueKeywords kind
    ++ match f.fallback with
      | some v => [.default v]
      | none => []

/-- The key of the field with its keywords, for a field of a known kind. -/
def property (f : Field) : Except UnknownKind (String × List Keyword) :=
  f.knownKind.map fun kind => (f.name, f.keywords kind)

end Field

/-- The schema of a form under a title, or else under its version. -/
def Form.jsonSchema (form : Form) (title : Option String) (strict : Bool) :
    Except UnknownKind JsonSchema :=
  (form.fields.mapM Field.property).map fun properties => {
    id := "#/schemas/form/" ++ form.version.map fun c => if c == '.' then '-' else c
    title := match title with
      | some t => if t.isEmpty then s!"Form Schema - {form.version}" else t
      | none => s!"Form Schema - {form.version}"
    properties := properties.foldl (fun ps (key, keywords) => putEntry ps key keywords) []
    isOpen := !strict
    required := (form.fields.filter (·.required)).map Field.name }

end Formwork
