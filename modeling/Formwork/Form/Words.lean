import Formwork.Form.Basic

/-!
# Words of a field

The words in the name and the label of a field: runs of ASCII letters and digits in lower case. A
capital behind a small letter or a digit starts a new word.
-/

namespace Formwork

namespace Words

def isSmall (c : Char) : Bool := c.isLower || c.isDigit

/-- A blank between a small letter or a digit and a capital behind it. The next such place is looked
for behind the capital. -/
def breakUp : List Char → List Char
  | c :: d :: rest =>
    if isSmall c && d.isUpper then c :: ' ' :: d :: breakUp rest else c :: breakUp (d :: rest)
  | cs => cs

/-- Lower case, as far as it is ASCII: of the other letters only the sign for kelvin and the capital
with a dot have an ASCII one. -/
def lower (c : Char) : List Char :=
  if c == '\u212a' then ['k']
  else if c == '\u0130' then ['i', '\u0307']
  else [c.toLower]

/-- The longest runs of characters of a class. -/
def runs (keep : Char → Bool) : List Char → List (List Char)
  | [] => []
  | c :: cs =>
    if keep c then
      match cs, runs keep cs with
      | d :: _, run :: more => if keep d then (c :: run) :: more else [c] :: run :: more
      | _, more => [c] :: more
    else runs keep cs

/-- The words of a text. -/
def ofText (s : String) : List String :=
  (runs isSmall ((breakUp s.toList).flatMap lower)).map String.ofList

end Words

/-- The words in the name and the label of a field. -/
def Field.words (f : Field) : List String := Words.ofText (f.name ++ " " ++ f.label)

/-- Whether one of some words is a word of the field. -/
def Field.mentions (f : Field) (words : List String) : Bool := words.any f.words.contains

end Formwork
