import Formwork.Submission.Entry

/-!
# Items

An item is a field made ready to take values: it knows what the kind, the words and the choices of
the field lead it to expect.
-/

namespace Formwork

/-- What an item expects. -/
inductive Content where
  | text (formats : List TextFormat)
  | number (bounds : Bounds)
  | date
  | choice (choices : List Value)
  | selection (choices : List Value)
  | flag

namespace Content

/-- What a field of a kind expects. -/
def ofKind (f : Field) : FieldKind → Content
  | .text | .textarea => text f.formats
  | .number => number f.bounds
  | .date => date
  | .select => if f.isMulti then selection f.choices else choice f.choices
  | .checkbox => if f.isCheckboxGroup then selection f.choices else flag

/-- A number within bounds. -/
def readNumber (bounds : Bounds) (v : Value) : Except Violation Value := do
  let n ← Entry.number v
  bounds.check n
  return Value.ofNumber n

/-- A selection. One that is required has a member. -/
def readSelection (required : Bool) (choices : List Value) (v : Value) :
    Except Violation Value := do
  let selected ← Entry.selection choices v
  if required && selected.isEmpty then .error .nothingSelected else .ok (.list selected)

/-- The value to keep of what was entered. Only a date may be impossible to tell. -/
def read (today : Date) (required : Bool) (content : Content) (v : Value) :
    Except DateText.Overlong (Except Violation Value) :=
  match content with
  | text formats => .ok ((Entry.text formats v).map .text)
  | number bounds => .ok (readNumber bounds v)
  | date => Entry.date today v
  | choice choices => .ok (Entry.choice choices v)
  | selection choices => .ok (readSelection required choices v)
  | flag => .ok ((Entry.flag v).map .bool)

/-- Whether what was entered counts as nothing: null and blank texts do, but not to a flag. -/
def isNothing (content : Content) (v : Value) : Bool :=
  match content, v with
  | flag, _ => false
  | _, .null => true
  | _, .text s => Text.isBlankText s
  | _, _ => false

/-- The value that stands for none. -/
def ifAbsent : Content → Option Value
  | flag => some (.bool false)
  | _ => none

end Content

/-- Why something that was entered is neither taken nor refused. -/
inductive Breakdown where
  /-- The text of a date has a number that is too long to be worked with. -/
  | overlong
  /-- An integer that is to be told is too long to be written. -/
  | longInteger
deriving DecidableEq

/-- A field with what it expects. -/
structure Item where
  field : Field
  content : Content

/-- A field of an unknown kind. -/
structure UnknownKind where
  kindName : String
deriving DecidableEq

namespace UnknownKind

def message (e : UnknownKind) : String := Text.quoted e.kindName ++ " is not a valid FieldType"

end UnknownKind

/-- The kind of a field, which has to be known. -/
def Field.knownKind (f : Field) : Except UnknownKind FieldKind :=
  match f.kind? with
  | some kind => .ok kind
  | none => .error ⟨f.kindName⟩

namespace Item

def ofField (f : Field) : Except UnknownKind Item :=
  f.knownKind.map fun kind => ⟨f, Content.ofKind f kind⟩

/-- The key of the item's value in a submission. -/
def key (item : Item) : String := item.field.name

/-- What messages call the item. -/
def label (item : Item) : String :=
  if item.field.label.isEmpty then item.field.name else item.field.label

/-- What is kept where nothing was entered, if anything has to be. -/
def acceptNothing (item : Item) : Except Violation (Option Value) :=
  if item.field.required then .error .absent else .ok item.content.ifAbsent

/-- The value to keep, if any, of what a submission has for the item, if anything. The mark for no
value counts as nothing there. -/
def judge (today : Date) (item : Item) (entered : Option Value) :
    Except DateText.Overlong (Except Violation (Option Value)) :=
  match entered.getD .missing with
  | .missing =>
    match item.field.fallback with
    | some .missing => .ok (.ok none)
    | some v => .ok (.ok (some v))
    | none => .ok item.acceptNothing
  | v =>
    if item.content.isNothing v then .ok item.acceptNothing
    else (item.content.read today item.field.required v).map (·.map some)

/-- What becomes of what a submission has for the item. The choices that were offered are told as
one text, which a refusal needs at once; other values are left for the message. -/
def accept (today : Date) (item : Item) (entered : Option Value) :
    Except Breakdown (Except Violation (Option Value)) := do
  match ← (item.judge today entered).mapError fun _ => .overlong with
  | .error (.notOffered choices) =>
    let refusal := Violation.notOffered choices
    if refusal.canBeTold then .ok (.error refusal) else .error .longInteger
  | r => .ok r

end Item

end Formwork
