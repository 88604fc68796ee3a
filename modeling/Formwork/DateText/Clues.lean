import Formwork.DateText.Parts
import Formwork.Calendar.DateTime

/-!
# Clues of a date text

What the tokens read so far have told about the date, the time of day and the time zone, and the
date and time that the clues give together with a day that fills their gaps.
-/

namespace Formwork.DateText

structure Clues where
  parts : Parts
  weekday : Option Nat
  hour : Option Nat
  minute : Option Nat
  second : Option Nat
  microsecond : Option Nat
  zoneName : Option Token
  /-- Seconds ahead of UTC. -/
  zoneOffset : Option Int

namespace Clues

def none : Clues := ⟨Parts.empty, .none, .none, .none, .none, .none, .none, .none⟩

/-- A whole minute with a fraction of seconds, which are forgotten where there is no fraction. -/
def setMinute (c : Clues) (a : Amount) : Except Trouble Clues := do
  return { c with minute := some a.whole, second := ← a.sixtieths }

/-- Seconds with up to six places; more are cut off. -/
def setSecond? (c : Clues) (t : Token) : Option Clues := do
  let whole ← natural? (t.takeWhile (· != '.'))
  match t.dropWhile (· != '.') with
  | [] => some { c with second := some whole, microsecond := some 0 }
  | _ :: digits =>
    let micro ← natural? ((digits ++ List.replicate (6 - digits.length) '0').take 6)
    some { c with second := some whole, microsecond := some micro }

/-- An hour of the day or of one of its halves. -/
def hourOf (hour : Nat) (afterNoon : Bool) : Nat :=
  if hour < 12 && afterNoon then hour + 12 else if hour == 12 && !afterNoon then 0 else hour

/-- Whether a token can be the name of the zone: only after an hour, and only once. -/
def couldBeZone (c : Clues) (t : Token) : Bool :=
  c.hour.isSome && c.zoneName.isNone && isZoneShaped t

/-- Whether nothing at all has been found. -/
def isEmpty (c : Clues) : Bool :=
  c.parts.values.isEmpty && c.weekday.isNone && c.hour.isNone && c.minute.isNone &&
  c.second.isNone && c.zoneName.isNone && c.zoneOffset.isNone

/-- The offset that the zone stands for. A name that is not known gives none. -/
def offset (c : Clues) : Option Int :=
  match c.zoneName, c.zoneOffset with
  | some name, offset => if isUtcName name then some 0 else offset
  | .none, offset => offset

/-- The date: gaps are filled from today, and a day from there stays within its month. A weekday
without a day moves the date on to that weekday. -/
def date? (c : Clues) (today : Date) : Option Date := do
  let r ← c.parts.resolve?
  let year := (r.year.map (fullYear today.year · c.parts.century)).getD today.year
  let month := r.month.getD today.month
  guard (1 ≤ month && month ≤ 12)
  let date ← Date.ofParts? year month (r.day.getD (min today.day (daysInMonth year month)))
  match c.weekday, r.day with
  | some w, .none => date.onWeekday? w
  | _, _ => some date

/-- How far an offset may be from UTC. -/
def farthestDays : Int := 999999999

/-- The offset, which has to lie within its bounds. -/
def offset? (c : Clues) : Option (Option Int) :=
  match c.offset with
  | some s =>
    let days := s.fdiv secondsPerDay
    if -farthestDays ≤ days && days ≤ farthestDays then some (some s) else .none
  | .none => some .none

/-- The date and time; the parts of the time that were not found are zero. -/
def dateTime? (c : Clues) (today : Date) : Option DateTime := do
  guard (!c.isEmpty)
  let date ← c.date? today
  let time ← TimeOfDay.ofParts? (c.hour.getD 0) (c.minute.getD 0) (c.second.getD 0)
    (c.microsecond.getD 0)
  some ⟨date, time, (← c.offset?).map (· * microsecondsPerSecond)⟩

end Clues

end Formwork.DateText
