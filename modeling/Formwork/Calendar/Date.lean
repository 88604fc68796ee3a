import Formwork.Text.Digit

/-!
# Dates

Days of the years 1 to 9999, numbered from the first of them.
-/

namespace Formwork

def isLeapYear (year : Nat) : Bool :=
  year % 4 == 0 && (year % 100 != 0 || year % 400 == 0)

def daysInMonth (year month : Nat) : Nat :=
  match month with
  | 2 => if isLeapYear year then 29 else 28
  | 4 | 6 | 9 | 11 => 30
  | _ => 31

/-- The months of the calendar, its days, and its years 1 to 9999. -/
def IsDate (year month day : Nat) : Prop :=
  (1 ≤ year ∧ year ≤ 9999) ∧ (1 ≤ month ∧ month ≤ 12) ∧ 1 ≤ day ∧ day ≤ daysInMonth year month

instance (year month day : Nat) : Decidable (IsDate year month day) := by
  unfold IsDate; infer_instance

structure Date where
  year : Nat
  month : Nat
  day : Nat
  valid : IsDate year month day
deriving DecidableEq

/-- Days of all years before. -/
def daysBeforeYear (year : Nat) : Nat :=
  (year - 1) * 365 + (year - 1) / 4 - (year - 1) / 100 + (year - 1) / 400

/-- Days of all months before in the year. -/
def daysBeforeMonth (year month : Nat) : Nat :=
  (List.range (month - 1)).foldr (fun m days => daysInMonth year (m + 1) + days) 0

namespace Date

def ofParts? (year month day : Nat) : Option Date :=
  if h : IsDate year month day then some ⟨year, month, day, h⟩ else none

/-- The number of the day; the first day of the year 1 has number one. -/
def dayNumber (d : Date) : Nat := daysBeforeYear d.year + daysBeforeMonth d.year d.month + d.day

/-- The month and day of a day of the year. -/
def monthAndDay (year : Nat) : List Nat → Nat → Option (Nat × Nat)
  | [], _ => none
  | m :: months, day =>
    if day ≤ daysInMonth year m then some (m, day)
    else monthAndDay year months (day - daysInMonth year m)

/-- The year of a day: four centuries have 146097 days, and the estimate from that is at most one
year off. -/
def yearOfDay (number : Nat) : Nat :=
  let estimate := (number - 1) * 400 / 146097 + 1
  if number ≤ daysBeforeYear estimate then estimate - 1
  else if daysBeforeYear (estimate + 1) < number then estimate + 1
  else estimate

/-- The date of a day by its number. -/
def ofDayNumber? (number : Nat) : Option Date := do
  let year := yearOfDay number
  let (month, day) ← monthAndDay year (List.range' 1 12) (number - daysBeforeYear year)
  ofParts? year month day

/-- Days since Monday. -/
def weekday (d : Date) : Nat := (d.dayNumber + 6) % 7

/-- The first day from this one on that falls on a weekday. -/
def onWeekday? (d : Date) (weekday : Nat) : Option Date :=
  ofDayNumber? (d.dayNumber + (7 + weekday - d.weekday) % 7)

end Date

end Formwork
