import Formwork.Value.Text

/-!
# JSON

The JSON form of a value, and the canonical text of JSON: no blanks, and the keys of every object
in the order of their code points.
-/

namespace Formwork.Value

mutual

/-- The JSON form, for a value that has one: an infinity or NaN is null, every sequence a list, and
a date or time its ISO text. -/
def toJson : Value → Value
  | float (.finite x) => float (.finite x)
  | float _ => null
  | date d => text d.iso
  | dateTime t => text t.shortIso
  | missing => null
  | list xs => list (toJsonAll xs)
  | tuple xs => list (toJsonAll xs)
  | set xs => list (toJsonAll xs)
  | object es => object (toJsonEntries es)
  | v => v
termination_by structural v => v

def toJsonAll : List Value → List Value
  | [] => []
  | x :: xs => toJson x :: toJsonAll xs
termination_by structural xs => xs

def toJsonEntries : List (String × Value) → List (String × Value)
  | [] => []
  | (k, x) :: es => (k, toJson x) :: toJsonEntries es
termination_by structural es => es

end

mutual

/-- Whether every date and time inside has a text. -/
def hasText : Value → Bool
  | dateTime t => t.hasText
  | list xs => hasTextAll xs
  | tuple xs => hasTextAll xs
  | set xs => hasTextAll xs
  | object es => hasTextEntries es
  | _ => true
termination_by structural v => v

def hasTextAll : List Value → Bool
  | [] => true
  | x :: xs => hasText x && hasTextAll xs
termination_by structural xs => xs

def hasTextEntries : List (String × Value) → Bool
  | [] => true
  | (_, x) :: es => hasText x && hasTextEntries es
termination_by structural es => es

end

mutual

/-- Whether every float inside is a finite number. -/
def hasFiniteFloats : Value → Bool
  | float x => x.isFinite
  | list xs => hasFiniteFloatsAll xs
  | tuple xs => hasFiniteFloatsAll xs
  | set xs => hasFiniteFloatsAll xs
  | object es => hasFiniteFloatsEntries es
  | _ => true
termination_by structural v => v

def hasFiniteFloatsAll : List Value → Bool
  | [] => true
  | x :: xs => hasFiniteFloats x && hasFiniteFloatsAll xs
termination_by structural xs => xs

def hasFiniteFloatsEntries : List (String × Value) → Bool
  | [] => true
  | (_, x) :: es => hasFiniteFloats x && hasFiniteFloatsEntries es
termination_by structural es => es

end

/-! ## Values without a JSON form -/

/-- Why a value has no JSON form. -/
inductive NoJson where
  /-- There are too many levels; the first value too deep may hold others or not. -/
  | tooDeep (atContainer : Bool)
  /-- A value seems to hold itself. -/
  | repeated
  /-- There is a mark for no value. -/
  | missing
  /-- There is an offset too far to be written. -/
  | tooFar
  /-- There is an integer too long to be written. -/
  | longInteger
deriving DecidableEq

mutual

/-- Why a value has no JSON form of so many levels, if it has none. A container is a level above its
members. A long integer has a JSON form, but no text. -/
def noJson? (levels : Nat) : Value → Option NoJson
  | list xs => if levels = 0 then some (.tooDeep true) else noJsonAmong? (levels - 1) xs
  | tuple xs => if levels = 0 then some (.tooDeep true) else noJsonAmong? (levels - 1) xs
  | set xs => if levels = 0 then some (.tooDeep true) else noJsonAmong? (levels - 1) xs
  | object es => if levels = 0 then some (.tooDeep true) else noJsonUnder? (levels - 1) es
  | missing => if levels = 0 then some (.tooDeep false) else some .missing
  | dateTime t =>
    if levels = 0 then some (.tooDeep false) else if t.hasShortText then none else some .tooFar
  | _ => if levels = 0 then some (.tooDeep false) else none
termination_by structural v => v

def noJsonAmong? (levels : Nat) : List Value → Option NoJson
  | [] => none
  | x :: xs => (noJson? levels x).or (noJsonAmong? levels xs)
termination_by structural xs => xs

def noJsonUnder? (levels : Nat) : List (String × Value) → Option NoJson
  | [] => none
  | (_, x) :: es => (noJson? levels x).or (noJsonUnder? levels es)
termination_by structural es => es

end

/-- How many levels the JSON form of a value may have. -/
def mostLevels : Nat := 255

/-! ## Canonical text -/

/-- One character between double quotes: controls, the quote and the backslash are escaped. -/
def jsonEscape (c : Char) : List Char :=
  if c == '\x22' then ['\\', '\x22']
  else if c == '\\' then ['\\', '\\']
  else if c == '\n' then ['\\', 'n']
  else if c == '\r' then ['\\', 'r']
  else if c == '\t' then ['\\', 't']
  else if c == '\x08' then ['\\', 'b']
  else if c == '\x0c' then ['\\', 'f']
  else if c.toNat < 32 then '\\' :: 'u' :: Text.hex 4 c.toNat
  else [c]

def jsonQuoted (s : String) : List Char :=
  '\x22' :: (s.toList.flatMap jsonEscape ++ ['\x22'])

/-- Entries in the order of the code points of their keys. -/
def sortByKey {α : Type} (es : List (String × α)) : List (String × α) :=
  es.mergeSort fun a b => decide (a.1 ≤ b.1)

mutual

/-- The canonical text of the JSON form of a value. -/
def canonicalChars : Value → List Char
  | null => "null".toList
  | bool true => "true".toList
  | bool false => "false".toList
  | int n => numberChars n
  | float (.finite x) => x.text.toList
  | float _ => "null".toList
  | text s => jsonQuoted s
  | date d => jsonQuoted d.iso
  | dateTime t => jsonQuoted t.shortIso
  | missing => "null".toList
  | list xs => '[' :: Text.joinChars [','] (canonicalAll xs) ++ [']']
  | tuple xs => '[' :: Text.joinChars [','] (canonicalAll xs) ++ [']']
  | set xs => '[' :: Text.joinChars [','] (canonicalAll xs) ++ [']']
  | object es =>
    let entries := (sortByKey (canonicalEntries es)).map fun (k, cs) => jsonQuoted k ++ ':' :: cs
    '\x7b' :: Text.joinChars [','] entries ++ ['\x7d']
termination_by structural v => v

def canonicalAll : List Value → List (List Char)
  | [] => []
  | x :: xs => canonicalChars x :: canonicalAll xs
termination_by structural xs => xs

def canonicalEntries : List (String × Value) → List (String × List Char)
  | [] => []
  | (k, x) :: es => (k, canonicalChars x) :: canonicalEntries es
termination_by structural es => es

end

/-- The canonical text of the JSON form of a value. There is one for a value with short integers. -/
def canonical (v : Value) : String := String.ofList v.canonicalChars

end Formwork.Value
