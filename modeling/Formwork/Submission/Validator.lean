import Formwork.Form.Canonical
import Formwork.Submission.Item
import Formwork.Value.Entries

/-!
# Validators

A validator is a form made ready to take submissions. It looks at every item, and either keeps a
value for each or tells a complaint for each that was violated.
-/

namespace Formwork

structure Validator where
  /-- The name of the form by its content. -/
  hash : String
  items : List Item

/-- Why there is no validator of a form. -/
inductive BuildError where
  | unknownKind (e : UnknownKind)
  /-- The form has no document and so no name. -/
  | noJson (e : Value.NoJson)
deriving DecidableEq

/-- A violation with its message. -/
structure Complaint where
  field : String
  code : String
  message : String
deriving DecidableEq

/-- What becomes of a submission: the values that are kept, or the complaints. -/
inductive Outcome where
  | accepted (data : List (String × Value))
  | rejected (complaints : List Complaint)

namespace Validator

/-- The validator of a form under a name, if the form has one. -/
def named (form : Form) (name : Except Value.NoJson String) : Except BuildError Validator := do
  let items ← (form.fields.mapM Item.ofField).mapError .unknownKind
  let hash ← name.mapError .noJson
  return ⟨hash, items⟩

/-- The validator of a form under a name of its own, or else under that of its content. -/
def build (form : Form) (hash : Option String) : Except BuildError Validator :=
  named form <| match hash with
    | some h => if h.isEmpty then form.contentHash else .ok h
    | none => form.contentHash

def fieldNames (v : Validator) : List String := v.items.map Item.key

/-- The first characters of the name. -/
def shortHash (hash : String) : String := String.ofList (hash.toList.take 12)

/-- A line about the validator. -/
def summary (v : Validator) : String :=
  s!"CompiledSchema(hash={shortHash v.hash}, fields={v.items.length})"

/-- The complaint about something that is no submission. -/
def notASubmission (locale : Locale) : Complaint :=
  ⟨"_root", Reason.invalidPayload.code, (Reason.invalidPayload.template locale).unfilled⟩

def complaint (locale : Locale) (item : Item) (v : Violation) : Complaint :=
  ⟨item.key, v.reason.code, v.message locale item.label⟩

/-- An item with what it makes of its entry: a value, if any is kept, or a violation. -/
abbrev Finding := Item × Except Violation (Option Value)

/-- What an item makes of its entry in a submission. The message of a violation has to be written. -/
def finding (today : Date) (entries : List (String × Value)) (item : Item) :
    Except Breakdown Finding := do
  match ← item.accept today (entries.lookup item.key) with
  | .error v => if v.canBeTold then .ok (item, .error v) else .error .longInteger
  | .ok kept => .ok (item, .ok kept)

/-- The values that are kept, in the order of the items. -/
def kept (findings : List Finding) : List (String × Value) :=
  findings.foldl (fun data (item, r) =>
    match r with
    | .ok (some v) => putEntry data item.key v
    | _ => data) []

/-- The complaints, in the order of the items. -/
def complaints (locale : Locale) (findings : List Finding) : List Complaint :=
  findings.filterMap fun (item, r) =>
    match r with
    | .ok _ => none
    | .error v => some (complaint locale item v)

/-- Takes or refuses a submission, by what the items make of it. -/
def outcome (locale : Locale) (findings : List Finding) : Outcome :=
  match complaints locale findings with
  | [] => .accepted (kept findings)
  | cs => .rejected cs

/-- Takes or refuses a submission, unless some entry ends in neither. -/
def validate (v : Validator) (locale : Locale) (today : Date) :
    Value → Except Breakdown Outcome
  | .object entries => (v.items.mapM (finding today entries)).map (outcome locale)
  | _ => .ok (.rejected [notASubmission locale])

end Validator

end Formwork
