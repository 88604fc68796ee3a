import Formwork.Number.Literal

/-!
# Integers in documents

A document may write an integer as a text. The plain form has ASCII digits, no zero in front and
perhaps a minus. Other forms are brought to the plain one: white space around it, a plus, zeros in
front, single underscores between digits, and a point with zeros behind it.
-/

namespace Formwork.Document

/-- What a text is as an integer. -/
inductive IntegerText where
  | integer (n : Int)
  /-- It has more digits than are read. -/
  | oversized
  | unclear

/-- A text in the plain form. Too many digits are told whatever follows them. -/
def plainInteger (cs : List Char) : IntegerText :=
  let negative := cs.head? == some '-'
  let body := if negative then cs.tail else cs
  let digits := if body.head? == some '0' then body.take 1 else body.takeWhile Char.isDigit
  if Literal.maxIntegerDigits < digits.length then .oversized
  else if digits.isEmpty || digits.length < body.length then .unclear
  else .integer (Literal.signed negative (digits.map fun c => c.toNat - 48))

/-- White space of any script, without the information separators. -/
def isWhiteSpace (c : Char) : Bool := Text.isBlank c && !(28 ≤ c.toNat && c.toNat ≤ 31)

/-- The text without a plus in front, behind which there is no minus. -/
def withoutPlus? : List Char → Option (List Char)
  | '+' :: '-' :: _ => none
  | '+' :: rest => some rest
  | cs => some cs

/-- What begins an integer after its zeros. -/
def isFirstDigit (c : Char) : Bool := c == '-' || ('1' ≤ c && c ≤ '9')

/-- The text without zeros in front, among which may be underscores; the last character before a
point or the end stays. -/
def withoutZeros? : List Char → Option (List Char)
  | [] => none
  | c :: rest =>
    if isFirstDigit c then some (c :: rest)
    else if c != '0' then none
    else
      let zeros := c :: rest.takeWhile fun d => d == '0' || d == '_'
      match rest.dropWhile fun d => d == '0' || d == '_' with
      | [] => some zeros.getLast?.toList
      | d :: more =>
        if isFirstDigit d then some (d :: more)
        else if d == '.' then some (zeros.getLast?.toList ++ d :: more)
        else none

/-- The text without a point and the zeros behind it, of which there is at least one. -/
def withoutDecimals (cs : List Char) : List Char :=
  let decimals := (cs.dropWhile (· != '.')).drop 1
  if decimals.isEmpty || decimals.any (· != '0') then cs else cs.takeWhile (· != '.')

/-- Whether two neighbours are underscores. -/
def hasDoubleUnderscore : List Char → Bool
  | c :: d :: rest => (c == '_' && d == '_') || hasDoubleUnderscore (d :: rest)
  | _ => false

/-- The text without underscores, if they are single and at neither end. -/
def withoutUnderscores (cs : List Char) : List Char :=
  if cs.head? == some '_' || cs.getLast? == some '_' || hasDoubleUnderscore cs then cs
  else cs.filter (· != '_')

/-- The text in the plain form, if it is not too far from it. -/
def plainForm? (cs : List Char) : Option (List Char) := do
  let cs ← withoutPlus? (Text.trimEnds isWhiteSpace cs)
  let cs ← withoutZeros? cs
  return withoutUnderscores (withoutDecimals cs)

/-- The integer that a text writes. -/
def IntegerText.read (s : String) : IntegerText :=
  match plainInteger s.toList with
  | .unclear =>
    match plainForm? s.toList with
    | some cs => plainInteger cs
    | none => .unclear
  | r => r

end Formwork.Document
