import Formwork.Submission.Item
import Formwork.Value.Entries

/-!
# Samples

A sample is a submission that a form takes, with a typical value for every field.
-/

namespace Formwork

/-- Why there is no sample of a form. -/
inductive NoSample where
  | unknownKind (e : UnknownKind)
  /-- A field offers no choice that could be taken. -/
  | noChoice
deriving DecidableEq

/-- A text in a format. -/
def sampleText (formats : List TextFormat) : String :=
  if formats.contains .email then "user@example.com"
  else if formats.contains .url then "https://example.com"
  else if formats.contains .phone then "+1 555 0100"
  else "test value"

/-- A typical value for what an item expects. -/
def Content.sample (now : DateTime) : Content → Except NoSample Value
  | text formats => .ok (.text (sampleText formats))
  | number _ => .ok (.int 42)
  | date => .ok (.text now.iso)
  | choice [] => .error .noChoice
  | choice (c :: _) => .ok c
  | selection choices => .ok (.list (choices.take 1))
  | flag => .ok (.bool true)

def Field.sample (now : DateTime) (f : Field) : Except NoSample Value :=
  match Item.ofField f with
  | .ok item => item.content.sample now
  | .error e => .error (.unknownKind e)

/-- A sample of a form. Fields of the same name share one value. -/
def Form.sample (now : DateTime) (form : Form) : Except NoSample (List (String × Value)) :=
  form.fields.foldlM (fun es f => (f.sample now).map (putEntry es f.name ·)) []

end Formwork
