import Formwork.Calendar.DateTime
import Formwork.Number.Literal

/-!
# Epoch milliseconds

A number of milliseconds since the first of January 1970 becomes a date and time in UTC. The
seconds are a binary64 number, and what is left below a whole second is rounded to microseconds.
-/

namespace Formwork

/-- The number of the day on which the epoch starts. -/
def epochDay : Int := 719163

namespace DateTime

/-- The date and time in UTC at a count of microseconds since the epoch, in the years 1 to 9999. -/
def ofEpochMicroseconds? (n : Int) : Option DateTime := do
  let day := epochDay + n.fdiv microsecondsPerDay
  let rest := (n.fmod microsecondsPerDay).toNat
  guard (1 ≤ day)
  let date ← Date.ofDayNumber? day.toNat
  let time ← TimeOfDay.ofParts? (rest / 3600000000) (rest / 60000000 % 60) (rest / 1000000 % 60)
    (rest % 1000000)
  some ⟨date, time, some 0⟩

/-- Microseconds of a binary64 count of seconds: the part below a second is multiplied in binary64
and then rounded to a whole number, a half to the even one. -/
def microsecondsOfSeconds (t : Finite64) : Int :=
  let whole : Int := (t.units / unitsPerOne : Nat)
  let below := roundHalfEven (nearestUnits (t.units % unitsPerOne * 1000000) 1) unitsPerOne
  let magnitude := whole * 1000000 + below
  if t.negative then -magnitude else magnitude

/-- Milliseconds as binary64 seconds. -/
def secondsOfMilliseconds : Number → Binary64
  | .whole n => Binary64.ofQuotient n 1000
  | .real x => (Binary64.finite x).divNat 1000

/-- The date and time in UTC that a number of milliseconds since the epoch stands for. -/
def ofEpochMilliseconds? (n : Number) : Option DateTime :=
  match secondsOfMilliseconds n with
  | .finite t => ofEpochMicroseconds? (microsecondsOfSeconds t)
  | _ => none

end DateTime

end Formwork
