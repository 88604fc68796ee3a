import Formwork.Number.Shortest
import Formwork.Text.Quoted
import Formwork.Value.Basic

/-!
# Texts of values

A value has two texts: the one that a message shows, which for a text is the text itself, and the
one that shows what the value is made of, which puts texts in quotes. A value has neither if an
integer inside is too long to be written.
-/

namespace Formwork

namespace Text

/-- Texts with a separator between them. -/
def joinChars (separator : List Char) (parts : List (List Char)) : List Char :=
  (parts.intersperse separator).flatten

end Text

namespace Value

/-! ## Integers that are written -/

/-- The error of writing an integer that is too long. -/
structure LongInteger where
deriving DecidableEq

/-- Whether an integer has at most `Literal.maxIntegerDigits` digits. -/
def isShortInteger (n : Int) : Bool := n.natAbs < tenPow Literal.maxIntegerDigits

mutual

/-- Whether every integer inside is short enough to be written. -/
def hasShortIntegers : Value → Bool
  | int n => isShortInteger n
  | list xs => hasShortIntegersAll xs
  | tuple xs => hasShortIntegersAll xs
  | set xs => hasShortIntegersAll xs
  | object es => hasShortIntegersEntries es
  | _ => true
termination_by structural v => v

def hasShortIntegersAll : List Value → Bool
  | [] => true
  | x :: xs => hasShortIntegers x && hasShortIntegersAll xs
termination_by structural xs => xs

def hasShortIntegersEntries : List (String × Value) → Bool
  | [] => true
  | (_, x) :: es => hasShortIntegers x && hasShortIntegersEntries es
termination_by structural es => es

end

/-! ## The characters of a value -/

def numberChars (n : Int) : List Char :=
  if n < 0 then '-' :: Text.decimalDigits n.natAbs else Text.decimalDigits n.natAbs

/-- Numbers in brackets behind a name. -/
def callChars (name : String) (arguments : List (List Char)) : List Char :=
  name.toList ++ '(' :: Text.joinChars [',', ' '] arguments ++ [')']

def dateParts (d : Date) : List (List Char) :=
  [d.year, d.month, d.day].map Text.decimalDigits

/-- An offset as whole days, which may be negative, and seconds and microseconds, which are not. -/
def offsetChars (offset : Int) : List Char :=
  if offset = 0 then "datetime.timezone.utc".toList
  else
    let days := offset.fdiv microsecondsPerDay
    let rest := offset.fmod microsecondsPerDay
    let named (name : String) (n : Int) : List (List Char) :=
      if n = 0 then [] else [name.toList ++ '=' :: numberChars n]
    callChars "datetime.timezone"
      [callChars "datetime.timedelta" (named "days" days
        ++ named "seconds" (rest / microsecondsPerSecond)
        ++ named "microseconds" (rest % microsecondsPerSecond))]

/-- The parts of a date and time; seconds and microseconds are left out from the end while zero. -/
def dateTimeChars (t : DateTime) : List Char :=
  let parts :=
    if t.time.microsecond ≠ 0 then [t.time.second, t.time.microsecond]
    else if t.time.second ≠ 0 then [t.time.second] else []
  let zone := match t.offset with
    | some offset => ["tzinfo=".toList ++ offsetChars offset]
    | none => []
  callChars "datetime.datetime"
    (dateParts t.date ++ ([t.time.hour, t.time.minute] ++ parts).map Text.decimalDigits ++ zone)

mutual

/-- The text that shows what a value is made of. -/
def detailChars : Value → List Char
  | null => "None".toList
  | bool true => "True".toList
  | bool false => "False".toList
  | int n => numberChars n
  | float x => x.text.toList
  | text s => (Text.quoted s).toList
  | missing => "MISSING".toList
  | date d => callChars "datetime.date" (dateParts d)
  | dateTime t => dateTimeChars t
  | list xs => '[' :: Text.joinChars [',', ' '] (detailAll xs) ++ [']']
  | tuple [x] => '(' :: (detailChars x ++ [',', ')'])
  | tuple xs => '(' :: Text.joinChars [',', ' '] (detailAll xs) ++ [')']
  | set [] => "set()".toList
  | set xs => '\x7b' :: Text.joinChars [',', ' '] (detailAll xs) ++ ['\x7d']
  | object es => '\x7b' :: Text.joinChars [',', ' '] (detailEntries es) ++ ['\x7d']
termination_by structural v => v

def detailAll : List Value → List (List Char)
  | [] => []
  | x :: xs => detailChars x :: detailAll xs
termination_by structural xs => xs

def detailEntries : List (String × Value) → List (List Char)
  | [] => []
  | (k, x) :: es => ((Text.quoted k).toList ++ ':' :: ' ' :: detailChars x) :: detailEntries es
termination_by structural es => es

end

/-- The text that shows what a value is made of. There is one for a value with short integers. -/
def detail (v : Value) : String := String.ofList v.detailChars

/-- The text of a value inside a message. There is one for a value with short integers, and for a date
and time with an offset of less than a day. -/
def display : Value → String
  | text s => s
  | date d => d.iso
  | dateTime t => String.ofList (DateTime.isoChars ' ' t)
  | v => v.detail

end Value

end Formwork
