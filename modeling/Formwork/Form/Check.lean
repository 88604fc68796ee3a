import Formwork.Document.Fault
import Formwork.Form.Cycles
import Formwork.Value.Equality
import Formwork.Value.Text

/-!
# Checking forms

What a form must satisfy beyond being well written: unique ids and names, known kinds, choices where
they are needed and none twice, references to fields of the form, and no circular references. Every
issue of a form is told, unless the message of one cannot be written.
-/

namespace Formwork

/-- Something wrong with a form. Fields are told by their position. -/
inductive Issue where
  | malformed (fault : Fault)
  | invalidVersion
  | duplicateId (i : Nat) (id : String)
  | duplicateName (i : Nat) (name : String)
  | unknownKind (i : Nat) (id kindName : String)
  | missingOptions (i : Nat) (id : String)
  | duplicateOption (i : Nat) (id : String) (value : Value)
  | danglingReference (i : Nat) (id reference : String)
  | circularReference (i : Nat) (cycle : List String)

namespace Issue

/-- A part of the field at a position. -/
def partOf (i : Nat) (part : String) : String := s!"fields[{i}].{part}"

/-- Where the issue is. -/
def place : Issue → String
  | malformed fault => if fault.path.isEmpty then "metadata" else fault.dottedPath
  | invalidVersion => "version"
  | duplicateId i _ => partOf i "id"
  | duplicateName i _ => partOf i "name"
  | unknownKind i _ _ => partOf i "type"
  | missingOptions i _ => partOf i "options"
  | duplicateOption i _ _ => partOf i "options"
  | danglingReference i _ _ => partOf i "condition"
  | circularReference i _ => partOf i "condition"

def code : Issue → String
  | malformed _ => "MALFORMED"
  | invalidVersion => "INVALID_VERSION"
  | duplicateId .. => "DUPLICATE_ID"
  | duplicateName .. => "DUPLICATE_NAME"
  | unknownKind .. => "UNKNOWN_TYPE"
  | missingOptions .. => "MISSING_OPTIONS"
  | duplicateOption .. => "DUPLICATE_OPTION"
  | danglingReference .. => "DANGLING_REFERENCE"
  | circularReference .. => "CIRCULAR_REFERENCE"

def message : Issue → String
  | malformed fault => fault.kind.message
  | invalidVersion => "Version must be a non-empty string"
  | duplicateId _ id => s!"Duplicate field ID: '{id}'"
  | duplicateName _ name => s!"Duplicate field name: '{name}'"
  | unknownKind _ id kindName => s!"Field '{id}' has unknown type '{kindName}'"
  | missingOptions _ id => s!"Field '{id}' of type 'select' must have non-empty 'options'"
  | duplicateOption _ id value => s!"Field '{id}' has duplicate option value {value.detail}"
  | danglingReference _ id reference =>
    s!"Field '{id}' has a condition referencing non-existent field '{reference}'"
  | circularReference _ cycle => "Circular condition reference: " ++ " -> ".intercalate cycle

/-- Whether the message can be written: it may show a value. -/
def canBeTold : Issue → Bool
  | duplicateOption _ _ value => value.hasShortIntegers
  | _ => true

end Issue

/-- Why a form is refused. Circular references are told apart by the first of the cycles. -/
inductive FormError where
  | invalid (issues : List Issue)
  | circular (cycle : List String) (issues : List Issue)

namespace FormError

def issues : FormError → List Issue
  | invalid issues => issues
  | circular _ issues => issues

def message (e : FormError) : String :=
  "; ".intercalate (e.issues.map fun issue => s!"{issue.place}: {issue.message}")

end FormError

/-- Why a check does not accept a form. -/
inductive CheckError where
  | refused (e : FormError)
  /-- The message of an issue would show an integer that is too long to be written. -/
  | longInteger

namespace Form

/-! ## The checks -/

def versionIssues (version : String) : List Issue :=
  if Text.isBlankText version then [.invalidVersion] else []

/-- The values that strictly equal one kept before, and so are not kept themselves. -/
def repeatedValues (kept : List Value) : List Value → List Value
  | [] => []
  | v :: vs =>
    if v.isAmong kept then v :: repeatedValues kept vs else repeatedValues (kept ++ [v]) vs

/-- A select needs choices, and neither a select nor a checkbox has one twice. -/
def optionIssues (i : Nat) (f : Field) : List Issue :=
  match f.kind? with
  | some .select =>
    if f.choices.isEmpty then [.missingOptions i f.id]
    else (repeatedValues [] f.choices).map (.duplicateOption i f.id)
  | some .checkbox => (repeatedValues [] f.choices).map (.duplicateOption i f.id)
  | some _ => []
  | none => [.unknownKind i f.id f.kindName]

/-- The issues of each field, given the fields before it. -/
def fieldIssues (before : List Field) : List Field → List Issue
  | [] => []
  | f :: fs =>
    let i := before.length
    (if before.any (·.id == f.id) then [.duplicateId i f.id] else [])
      ++ (if before.any (·.name == f.name) then [.duplicateName i f.name] else [])
      ++ optionIssues i f
      ++ fieldIssues (before ++ [f]) fs

/-- References to ids that no field has, field by field. -/
def danglingIssues (fields : List Field) : List Issue :=
  fields.zipIdx.flatMap fun (f, i) =>
    (f.references.filter fun r => !fields.any (·.id == r)).map (.danglingReference i f.id)

/-- Each cycle, at the first field with its first id. -/
def cycleIssues (fields : List Field) (cycles : List (List String)) : List Issue :=
  cycles.map fun cycle =>
    .circularReference (fields.findIdx fun f => cycle.head? == some f.id) cycle

/-- Every issue of a form, whether it can be told or not. -/
def allIssues (form : Form) : List Issue :=
  versionIssues form.version ++ fieldIssues [] form.fields ++ danglingIssues form.fields
    ++ cycleIssues form.fields (findCycles form.fields)

/-- Every issue of a form, if all of them can be told. -/
def issues (form : Form) : Except Value.LongInteger (List Issue) :=
  if form.allIssues.all Issue.canBeTold then .ok form.allIssues else .error ⟨⟩

/-- Refuses a form with an issue. -/
def check (form : Form) : Except CheckError Unit := do
  let issues ← form.issues.mapError fun _ => .longInteger
  match findCycles form.fields with
  | cycle :: _ => .error (.refused (.circular cycle issues))
  | [] => if issues.isEmpty then .ok () else .error (.refused (.invalid issues))

end Form

end Formwork
