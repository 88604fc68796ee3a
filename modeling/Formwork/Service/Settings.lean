import Formwork.Document.Reading
import Formwork.Message.Catalog

/-!
# Settings

How a service works: whether it checks forms and keeps validators, how many of them, in which
language it complains, and how long it measures.
-/

namespace Formwork

structure Settings where
  keepsValidators : Bool
  /-- How many validators are kept at most. -/
  capacity : Count
  checksForms : Bool
  /-- The tag of the language of complaints, known or not. -/
  localeTag : String
  /-- How many rounds a measurement takes unless told. -/
  rounds : Count
deriving DecidableEq

namespace Settings

def standard : Settings := ⟨true, ⟨50, by decide⟩, true, Locale.english.tag, ⟨100, by decide⟩⟩

/-- The settings of a document; what it leaves out is as usual. -/
def read (es : List (String × Value)) : Reading Settings :=
  Settings.mk
    <$> Document.entryOr standard.keepsValidators ["enable_cache"] Document.bool es
    <*> Document.entryOr standard.capacity ["cache_max_size"] Document.count es
    <*> Document.entryOr standard.checksForms ["validate_metadata"] Document.bool es
    <*> Document.entryOr standard.localeTag ["error_locale"] Document.text es
    <*> Document.entryOr standard.rounds ["benchmark_iterations"] Document.count es

end Settings

/-- Why variables give no settings. -/
inductive SettingsError where
  | notInteger (text : String)
  | tooManyDigits (count : Nat)
  | faults (faults : List Fault)

/-- Texts of variables by their names. -/
abbrev Variables : Type := String → Option String

namespace Variables

/-- A switch is on where the variable says so, or is not set. -/
def switch (vars : Variables) (name : String) : Bool :=
  match vars name with
  | some s => ["1", "true", "yes", "on"].contains (Text.lowerAscii (Text.trim s))
  | none => true

/-- An integer; a variable that is blank or not set leaves the usual one. -/
def integer (vars : Variables) (name : String) (usual : Count) : Except SettingsError Int :=
  match vars name with
  | none => .ok usual.1
  | some s =>
    if Text.isBlankText s then .ok usual.1
    else
      match Literal.leadingDigits? s.toList with
      | none => .error (.notInteger s)
      | some (negative, ds, rest) =>
        if Literal.maxIntegerDigits < ds.length then .error (.tooManyDigits ds.length)
        else if rest.isEmpty then .ok (Literal.signed negative ds)
        else .error (.notInteger s)

/-- The settings that the variables ask for. -/
def settings (vars : Variables) : Except SettingsError Settings := do
  let usual := Settings.standard
  let capacity ← vars.integer "CACHE_MAX_SIZE" usual.capacity
  let rounds ← vars.integer "BENCHMARK_ITERATIONS" usual.rounds
  let document : List (String × Value) := [
    ("enable_cache", .bool (vars.switch "ENABLE_CACHE")),
    ("cache_max_size", .int capacity),
    ("validate_metadata", .bool (vars.switch "VALIDATE_METADATA")),
    ("error_locale", .text ((vars "ERROR_LOCALE").getD usual.localeTag)),
    ("benchmark_iterations", .int rounds)]
  match (Settings.read document).toExcept with
  | .ok s => .ok s
  | .error fs => .error (.faults fs)

end Variables

end Formwork
