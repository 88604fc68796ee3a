import Formwork.Calendar.Epoch
import Formwork.DateText.Reader
import Formwork.Submission.Format
import Formwork.Submission.Violation
import Formwork.Value.Equality

/-!
# Reading what was entered

What a field expects of a value, and the value that the field keeps of what was entered. Booleans,
numbers and dates come in many shapes and are kept in one.
-/

namespace Formwork

namespace Entry

/-- A text as a Boolean: the usual words for yes are true, every other text is false. -/
def isYes (s : String) : Bool :=
  ["true", "1", "yes", "on"].contains (Text.lowerAscii (Text.trim s))

/-- A Boolean, a number, of which only one is true, or a text. -/
def flag : Value → Except Violation Bool
  | .bool b => .ok b
  | .text s => .ok (isYes s)
  | .int n => .ok (n == 1)
  | .float x => .ok ((Value.float x).strictEq (.int 1))
  | v => .error (.notBoolean v.kindName)

/-- A number or the text of one. -/
def number (v : Value) : Except Violation Number :=
  match v.toNumber? with
  | some n => .ok n
  | none => .error (.notNumber v.kindName)

/-- A date, a date and time, a text that names one, or milliseconds since the epoch. -/
def date (today : Date) (v : Value) : Except DateText.Overlong (Except Violation Value) := do
  let found ← match v with
    | .date d => pure (some (.date d))
    | .dateTime t => pure (some (.dateTime t))
    | .text s => (·.map Value.dateTime) <$> DateText.read today (Text.trim s)
    | v => pure ((v.number?.bind DateTime.ofEpochMilliseconds?).map .dateTime)
  return match found with
    | some d => .ok d
    | none => .error (.notDate v.kindName)

/-- A text in some formats. The first format that it does not have is told. -/
def text (formats : List TextFormat) : Value → Except Violation String
  | .text s =>
    match formats.find? fun format => !format.accepts s with
    | some .email => .error .notEmail
    | some .url => .error .notUrl
    | some .phone => .error .notPhone
    | none => .ok s
  | _ => .error .notText

/-- The choice that strictly equals a value. -/
def choice (choices : List Value) (v : Value) : Except Violation Value :=
  match choices.find? (v.strictEq ·) with
  | some c => .ok c
  | none => .error (.notOffered choices)

/-- Choices for the members of a list, none of them twice. -/
def choicesFrom (choices selected : List Value) : List Value → Except Violation (List Value)
  | [] => .ok selected
  | v :: vs => do
    let c ← choice choices v
    if c.isAmong selected then .error (.selectedTwice c)
    else choicesFrom choices (selected ++ [c]) vs

/-- A list of choices. -/
def selection (choices : List Value) (v : Value) : Except Violation (List Value) :=
  match v.items? with
  | some vs => choicesFrom choices [] vs
  | none => .error .notList

end Entry

/-- Refuses a number beyond its bounds. -/
def Bounds.check (b : Bounds) (n : Number) : Except Violation Unit :=
  match b.least.filter fun least => n.lt (.whole least),
    b.greatest.filter fun greatest => Number.lt (.whole greatest) n with
  | some least, _ => .error (.below least)
  | none, some greatest => .error (.above greatest)
  | none, none => .ok ()

end Formwork
