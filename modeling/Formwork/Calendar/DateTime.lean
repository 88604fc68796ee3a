import Formwork.Calendar.Date
import Formwork.Number.Power
import Formwork.Text.Digit

/-!
# Dates with a time of day

A time of day counts microseconds. An offset from UTC is optional: with it a date and time names
an instant, without it only what a calendar and a clock show.
-/

namespace Formwork

def IsTime (hour minute second microsecond : Nat) : Prop :=
  hour < 24 ∧ minute < 60 ∧ second < 60 ∧ microsecond < 1000000

instance (h m s u : Nat) : Decidable (IsTime h m s u) := by
  unfold IsTime; infer_instance

structure TimeOfDay where
  hour : Nat
  minute : Nat
  second : Nat
  microsecond : Nat
  valid : IsTime hour minute second microsecond
deriving DecidableEq

namespace TimeOfDay

def ofParts? (hour minute second microsecond : Nat) : Option TimeOfDay :=
  if h : IsTime hour minute second microsecond then some ⟨hour, minute, second, microsecond, h⟩
  else none

def microseconds (t : TimeOfDay) : Nat :=
  ((t.hour * 60 + t.minute) * 60 + t.second) * 1000000 + t.microsecond

end TimeOfDay

/-- What is entered or stands in a form has an offset of less than a day (`ofIso?`). What is made of
the text of a date can have any: it can be kept, but has no text and is not compared. -/
structure DateTime where
  date : Date
  time : TimeOfDay
  /-- Microseconds ahead of UTC. -/
  offset : Option Int
deriving DecidableEq

def secondsPerDay : Nat := 86400

def microsecondsPerSecond : Nat := 1000000

def microsecondsPerDay : Nat := secondsPerDay * microsecondsPerSecond

namespace DateTime

/-- Microseconds on the wall clock since the start of the day before the first. -/
def wallClock (t : DateTime) : Nat :=
  t.date.dayNumber * microsecondsPerDay + t.time.microseconds

/-- The instant in microseconds, for a date and time with an offset. -/
def instant (t : DateTime) (offset : Int) : Int := t.wallClock - offset

/-- With offsets the same instant, without offsets the same clock; never one of each. Only offsets of
less than a day are compared. -/
def eqv (a b : DateTime) : Bool :=
  match a.offset, b.offset with
  | some x, some y => a.instant x == b.instant y
  | none, none => a.wallClock == b.wallClock
  | _, _ => false

/-- Whether the offset is less than a day, without which the date and time has no text. -/
def hasText (t : DateTime) : Bool :=
  match t.offset with
  | some x => x.natAbs < microsecondsPerDay
  | none => true

end DateTime

namespace Text

/-- A number padded with zeros to a width. -/
def padded (width n : Nat) : List Char :=
  let ds := decimalDigits n
  List.replicate (width - ds.length) '0' ++ ds

end Text

/-- Year, month and day with hyphens between. -/
def Date.isoChars (d : Date) : List Char :=
  Text.padded 4 d.year ++ '-' :: Text.padded 2 d.month ++ '-' :: Text.padded 2 d.day

def Date.iso (d : Date) : String := String.ofList d.isoChars

namespace DateTime

/-- Hours and minutes with a sign, seconds where there are some or their fraction, and six places
where the second is not whole. -/
def offsetChars (offset : Int) : List Char :=
  let s := offset.natAbs / microsecondsPerSecond
  let micro := offset.natAbs % microsecondsPerSecond
  let sign := if offset < 0 then '-' else '+'
  let hm := sign :: (Text.padded 2 (s / 3600) ++ ':' :: Text.padded 2 (s / 60 % 60))
  let hms := hm ++ ':' :: Text.padded 2 (s % 60)
  if micro != 0 then hms ++ '.' :: Text.padded 6 micro
  else if s % 60 != 0 then hms
  else hm

/-- Hours, minutes and seconds, and six places where the second is not whole. -/
def timeChars (t : TimeOfDay) : List Char :=
  let hms := Text.padded 2 t.hour ++ ':' :: Text.padded 2 t.minute ++ ':' :: Text.padded 2 t.second
  if t.microsecond = 0 then hms else hms ++ '.' :: Text.padded 6 t.microsecond

/-- Date, separator, time of day, and the offset where there is one. -/
def isoChars (separator : Char) (t : DateTime) : List Char :=
  t.date.isoChars ++ separator :: timeChars t.time ++ ((t.offset.map offsetChars).getD [])

def iso (t : DateTime) : String := String.ofList (isoChars 'T' t)

/-! ## The short text -/

/-- An offset in whole seconds, a half rounded away from zero. It has 32 bits. -/
def shortOffset (offset : Int) : Int :=
  let s : Int := (offset.natAbs + microsecondsPerSecond / 2) / microsecondsPerSecond
  if offset < 0 then max (-s) (-(twoPow 31 : Int)) else min s (twoPow 31 - 1 : Int)

/-- The byte for the tens of the hours: there is only one, also where a digit does not suffice. -/
def tensByte (hours : Nat) : Nat := (48 + hours / 10) % 256

/-- The letter Z for a zero offset, or else hours and minutes with a sign. -/
def shortOffsetChars (seconds : Int) : List Char :=
  if seconds = 0 then ['Z']
  else
    let sign := if seconds < 0 then '-' else '+'
    let minutes := seconds.natAbs / 60
    sign :: Char.ofNat (tensByte (minutes / 60)) :: Text.padded 1 (minutes / 60 % 10)
      ++ ':' :: Text.padded 2 (minutes % 60)

/-- As `iso`, with the short text of the offset. -/
def shortIso (t : DateTime) : String :=
  String.ofList (isoChars 'T' { t with offset := none }
    ++ ((t.offset.map fun x => shortOffsetChars (shortOffset x)).getD []))

/-- Whether the short text of the offset is one. -/
def hasShortText (t : DateTime) : Bool :=
  match t.offset with
  | some x => tensByte ((shortOffset x).natAbs / 3600) < 128
  | none => true

end DateTime

/-! ## Reading the ISO texts -/

namespace Text

/-- A given number of ASCII digits at the front, and the rest. -/
def takeNumber? (width : Nat) (cs : List Char) : Option (Nat × List Char) :=
  let ds := cs.take width
  if ds.length == width && ds.all Char.isDigit then
    some (digitsValue (ds.map fun c => c.toNat - 48), cs.drop width)
  else none

/-- A given character at the front, and the rest. -/
def expect? (c : Char) : List Char → Option (List Char)
  | d :: rest => if c == d then some rest else none
  | [] => none

end Text

def Date.takeIso? (cs : List Char) : Option (Date × List Char) := do
  let (y, cs) ← Text.takeNumber? 4 cs
  let cs ← Text.expect? '-' cs
  let (m, cs) ← Text.takeNumber? 2 cs
  let cs ← Text.expect? '-' cs
  let (d, cs) ← Text.takeNumber? 2 cs
  let date ← Date.ofParts? y m d
  some (date, cs)

/-- The date that a text in the form of `Date.iso` names. -/
def Date.ofIso? (s : String) : Option Date :=
  match Date.takeIso? s.toList with
  | some (d, []) => some d
  | _ => none

def DateTime.takeTime? (cs : List Char) : Option (TimeOfDay × List Char) := do
  let (h, cs) ← Text.takeNumber? 2 cs
  let cs ← Text.expect? ':' cs
  let (m, cs) ← Text.takeNumber? 2 cs
  let cs ← Text.expect? ':' cs
  let (s, cs) ← Text.takeNumber? 2 cs
  let (u, cs) := ((Text.expect? '.' cs).bind (Text.takeNumber? 6)).getD (0, cs)
  let time ← TimeOfDay.ofParts? h m s u
  some (time, cs)

def DateTime.takeOffset? : List Char → Option Int
  | sign :: cs => do
    guard (sign == '+' || sign == '-')
    let (h, cs) ← Text.takeNumber? 2 cs
    let cs ← Text.expect? ':' cs
    let (m, cs) ← Text.takeNumber? 2 cs
    let (s, cs) := ((Text.expect? ':' cs).bind (Text.takeNumber? 2)).getD (0, cs)
    let (u, cs) := ((Text.expect? '.' cs).bind (Text.takeNumber? 6)).getD (0, cs)
    guard cs.isEmpty
    let offset : Int := (h * 3600 + m * 60 + s) * microsecondsPerSecond + u
    some (if sign == '-' then -offset else offset)
  | [] => none

def DateTime.takeIso? (cs : List Char) : Option DateTime := do
  let (date, cs) ← Date.takeIso? cs
  let cs ← Text.expect? 'T' cs
  let (time, cs) ← DateTime.takeTime? cs
  if cs.isEmpty then some ⟨date, time, none⟩
  else (DateTime.takeOffset? cs).map fun offset => ⟨date, time, some offset⟩

/-- The date and time that a text in the form of `DateTime.iso` names, with an offset of less than a
day. -/
def DateTime.ofIso? (s : String) : Option DateTime :=
  (DateTime.takeIso? s.toList).filter DateTime.hasText

end Formwork
