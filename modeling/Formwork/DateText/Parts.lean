import Formwork.Number.Literal
import Formwork.DateText.Words
import Formwork.Calendar.Date

/-!
# Years, months and days among numbers

The numbers of a date in the order in which they were read. A word tells a month, and more than two
digits tell a year; what the others are is decided by how large they are and where they stand.
-/

namespace Formwork.DateText

/-- Why no date is read. -/
inductive Trouble where
  /-- The text names no date. -/
  | unreadable
  /-- Of a number with so many digits the fraction cannot be told. -/
  | overlong
deriving DecidableEq

/-- What is not found makes the text unreadable. -/
instance : MonadLift Option (Except Trouble) where
  monadLift
    | some a => .ok a
    | none => .error .unreadable

/-- The number that a token of digits writes. -/
def digits? (t : Token) : Option Nat := do
  let ds ← t.mapM Text.digitValue?
  guard (!ds.isEmpty)
  some (Text.digitsValue ds)

/-- The number that a token of digits writes, if they are not too many for an integer. -/
def natural? (t : Token) : Option Nat :=
  if t.length ≤ Literal.maxIntegerDigits then digits? t else none

/-- A decimal: the whole part and the digits after the point. -/
structure Amount where
  whole : Nat
  fraction : List Nat

namespace Amount

def ofToken? (t : Token) : Option Amount := do
  let whole ← digits? (t.takeWhile (· != '.'))
  match t.dropWhile (· != '.') with
  | [] => some ⟨whole, []⟩
  | _ :: digits =>
    let ds ← digits.mapM Text.digitValue?
    some ⟨whole, ds⟩

def isWhole (a : Amount) : Bool := a.fraction.all (· == 0)

/-- At most a natural number. -/
def atMost (a : Amount) (n : Nat) : Bool := a.whole < n || (a.whole == n && a.isWhole)

/-- How many digits of a number count in its arithmetic. -/
def precision : Nat := 28

/-- The decimal `n / 10 ^ places` with the digits that count, and its places. A half goes to the
even neighbour. -/
def rounded (n places : Nat) : Nat × Nat :=
  let excess := (Text.decimalDigits n).length - precision
  (roundHalfEven n (tenPow excess), places - excess)

/-- Whole sixtieths in the fraction, where there is one. -/
def sixtieths (a : Amount) : Except Trouble (Option Nat) :=
  if tenPow precision ≤ a.whole then .error .overlong
  else if a.isWhole then .ok none
  else
    let (fraction, places) := rounded (Text.digitsValue a.fraction) a.fraction.length
    let (sixties, places) := rounded (60 * fraction) places
    .ok (some (sixties / tenPow places))

end Amount

/-- The numbers read so far, and which of them are known to be the year and the month. -/
structure Parts where
  values : List Nat
  yearAt : Option Nat
  monthAt : Option Nat
  /-- Whether some year was written with its century. -/
  century : Bool

/-- A calendar date with parts left open. -/
structure Resolved where
  year : Option Nat
  month : Option Nat
  day : Option Nat

namespace Parts

def empty : Parts := ⟨[], none, none, false⟩

def addPlain (p : Parts) (n : Nat) : Parts := { p with values := p.values ++ [n] }

/-- A number known to be the year; there is only one. -/
def addYear? (p : Parts) (n : Nat) (century : Bool) : Option Parts := do
  guard p.yearAt.isNone
  some { p.addPlain n with yearAt := some p.values.length, century := p.century || century }

/-- A number known to be the month; there is only one. -/
def addMonth? (p : Parts) (n : Nat) : Option Parts := do
  guard p.monthAt.isNone
  some { p.addPlain n with monthAt := some p.values.length }

/-- A token of digits: three or more are a year with its century. -/
def addToken? (p : Parts) (t : Token) : Option Parts := do
  let n ← natural? t
  if 2 < t.length then p.addYear? n true else some (p.addPlain n)

/-- A decimal without its fraction: more than a hundred is a year with its century. -/
def addAmount? (p : Parts) (a : Amount) : Option Parts :=
  if a.atMost 100 then some (p.addPlain a.whole) else p.addYear? a.whole true

/-- Whether a decimal can be the day of the month, in a leap year while no year is known. -/
def couldBeDay (p : Parts) (a : Amount) : Bool :=
  let month := p.monthAt.bind fun i => p.values[i]?
  let year := p.yearAt.bind fun i => p.values[i]?
  let last := match month with
    | none => 31
    | some m => daysInMonth (year.getD 2000) m
  1 ≤ a.whole && a.atMost last

/-- The only number, or the one beside a month. -/
def resolveOne (month : Option Nat) (n : Nat) : Resolved :=
  if 31 < n then ⟨some n, month, none⟩ else ⟨none, month, some n⟩

def resolveTwo (a b : Nat) : Resolved :=
  if 31 < a then ⟨some a, some b, none⟩
  else if 31 < b then ⟨some b, some a, none⟩
  else ⟨none, some a, some b⟩

/-- Three numbers, by where the month's word and the year stand. -/
def resolveThree (p : Parts) (a b c : Nat) : Resolved :=
  let ymd (y m d : Nat) : Resolved := ⟨some y, some m, some d⟩
  match p.yearAt, p.monthAt with
  | some 0, some 1 => ymd a b c
  | some 0, some _ => ymd a c b
  | some 1, some 0 => ymd b a c
  | some 1, some _ => ymd b c a
  | some _, some 0 => ymd c a b
  | some _, some _ => ymd c b a
  | none, some 0 => if 31 < b then ymd b a c else ymd c a b
  | none, some 1 => if 31 < a then ymd a b c else ymd c b a
  | none, some _ => if 31 < b then ymd b c a else ymd a c b
  | year, none =>
    if 31 < a || year == some 0 then ymd a b c
    else if 12 < a then ymd c b a
    else ymd c a b

/-- Which number is the year, which the month and which the day. -/
def resolve? (p : Parts) : Option Resolved :=
  match p.values, p.yearAt, p.monthAt with
  | [], _, _ => some ⟨none, none, none⟩
  | [a], some _, _ => some ⟨some a, none, none⟩
  | [a], none, some _ => some ⟨none, some a, none⟩
  | [a], none, none => some (resolveOne none a)
  | [a, b], some 0, some _ => some ⟨some a, some b, none⟩
  | [a, b], some _, some _ => some ⟨some b, some a, none⟩
  | [a, b], none, some 0 => some (resolveOne (some a) b)
  | [a, b], none, some _ => some (resolveOne (some b) a)
  | [a, b], _, none => some (resolveTwo a b)
  | [a, b, c], _, _ => some (p.resolveThree a b c)
  | _, _, _ => none

end Parts

/-- A year of two digits without a century is the one less than fifty years ahead. -/
def fullYear (thisYear year : Nat) (century : Bool) : Nat :=
  if year < 100 && !century then
    let y := year + thisYear / 100 * 100
    if thisYear + 50 ≤ y then y - 100 else if y + 50 < thisYear then y + 100 else y
  else year

end Formwork.DateText
