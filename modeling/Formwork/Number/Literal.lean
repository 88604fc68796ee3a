import Formwork.Number.Binary64
import Formwork.Text.Blank
import Formwork.Text.Digit

/-!
# Number literals

Numbers as people type them: digits of any script, a sign, single underscores between digits, and
for decimals a point and an exponent. Blanks around a literal do not count.
-/

namespace Formwork

/-- A number of a form: an integer of any size or a finite binary64 number. -/
inductive Number where
  | whole (n : Int)
  | real (x : Finite64)
deriving DecidableEq

namespace Number

/-- The exact value in units of `2^-1074`. -/
def scaled : Number → Int
  | whole n => n * unitsPerOne
  | real x => x.scaled

/-- Equal by value, whichever the kind. -/
def eqv (a b : Number) : Bool := a.scaled == b.scaled

/-- Less by value, whichever the kind. -/
def lt (a b : Number) : Bool := a.scaled < b.scaled

end Number

namespace Literal

/-- Digits with at most one underscore between neighbours. -/
def digitGroup? : List Char → Option (List Nat)
  | [] => none
  | c :: rest =>
    match Text.digitValue? c, rest with
    | none, _ => none
    | some d, [] => some [d]
    | some d, '_' :: more => (digitGroup? more).map (d :: ·)
    | some d, more => (digitGroup? more).map (d :: ·)

/-- The sign in front of a literal, and the rest. -/
def sign : List Char → Bool × List Char
  | '-' :: rest => (true, rest)
  | '+' :: rest => (false, rest)
  | rest => (false, rest)

/-- Longer integers are neither read as integers nor written. -/
def maxIntegerDigits : Nat := 4300

/-- What a digit group is made of. -/
def isGroupChar (c : Char) : Bool := c == '_' || (Text.digitValue? c).isSome

/-- The sign and the digits that a literal starts with, and what is left of it. -/
def leadingDigits? (cs : List Char) : Option (Bool × List Nat × List Char) :=
  let (negative, body) := sign (Text.trimEnds Text.isBlank cs)
  (digitGroup? (body.takeWhile isGroupChar)).map (negative, ·, body.dropWhile isGroupChar)

/-- The integer with a sign and digits. -/
def signed (negative : Bool) (ds : List Nat) : Int :=
  if negative then -(Text.digitsValue ds : Int) else Text.digitsValue ds

/-- An integer literal of at most `maxIntegerDigits` digits. -/
def integer? (cs : List Char) : Option Int :=
  match leadingDigits? cs with
  | some (negative, ds, []) =>
    if ds.length ≤ maxIntegerDigits then some (signed negative ds) else none
  | _ => none

/-- A decimal in scientific form as a binary64 number. A leading digit above `10^400` or below
`10^-400` decides without forming the power. -/
def ofScientific (negative : Bool) (digits : List Nat) (exponent : Int) : Binary64 :=
  let significant := digits.dropWhile (· == 0)
  if significant.isEmpty then Binary64.ofUnits negative 0
  else
    let lead := exponent + significant.length
    if 400 < lead then .infinite negative
    else if lead < -400 then Binary64.ofUnits negative 0
    else
      Binary64.ofRatio negative
        (Text.digitsValue significant * tenPow exponent.toNat * unitsPerOne) (tenPow (-exponent).toNat)

/-- A part of a decimal that may be empty. -/
def digitPart? (cs : List Char) : Option (List Nat) :=
  if cs.isEmpty then some [] else digitGroup? cs

/-- The digits and the exponent of an unsigned decimal literal. -/
def decimal? (cs : List Char) : Option (List Nat × Int) := do
  let isMark (c : Char) : Bool := c == 'e' || c == 'E'
  let mantissa := cs.takeWhile (!isMark ·)
  let whole ← digitPart? (mantissa.takeWhile (· != '.'))
  let fraction ← digitPart? ((mantissa.dropWhile (· != '.')).drop 1)
  guard (!(whole ++ fraction).isEmpty)
  let power ← match cs.dropWhile (!isMark ·) with
    | [] => some 0
    | _ :: rest =>
      let (negative, digits) := sign rest
      (digitGroup? digits).map (signed negative)
  some (whole ++ fraction, power - fraction.length)

/-- A decimal literal, or one of the words for infinity and NaN in any case. -/
def binary64? (cs : List Char) : Option Binary64 :=
  let (negative, body) := sign (Text.trimEnds Text.isBlank cs)
  let word := String.ofList (body.map Char.toLower)
  if word == "inf" || word == "infinity" then some (.infinite negative)
  else if word == "nan" then some (.nan 0)
  else (decimal? body).map fun (ds, e) => ofScientific negative ds e

end Literal

/-- The number that a text writes: an integer where it is one, else a finite decimal. -/
def Number.read? (s : String) : Option Number :=
  match Literal.integer? s.toList with
  | some n => some (.whole n)
  | none =>
    match Literal.binary64? s.toList with
    | some (.finite x) => some (.real x)
    | _ => none

end Formwork
