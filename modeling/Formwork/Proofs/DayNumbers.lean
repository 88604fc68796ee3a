import Formwork.Calendar.Date
import Mathlib.Algebra.Order.Ring.Nat
import Mathlib.Order.Monotone.Basic
import Mathlib.Tactic.SplitIfs

/-!
# Days by their numbers

The days of a year are those of its months and the days of all years those of the single ones, so
that the numbers of the days follow one another without a gap. Every number from one to that of the
last day of the year 9999 is the number of a date, and `Date.ofDayNumber?` finds the date.
-/

namespace Formwork

variable {year month day number m d : Nat} {date : Date}

/-! ## Years -/

def daysInYear (year : Nat) : Nat := if isLeapYear year then 366 else 365

/-- The number of the last day of the last year. -/
def lastDay : Nat := daysBeforeYear 10000

theorem isLeapYear_iff :
    isLeapYear year = true ↔ 4 ∣ year ∧ (¬ 100 ∣ year ∨ 400 ∣ year) := by
  simp [isLeapYear, Nat.dvd_iff_mod_eq_zero]

theorem daysBeforeYear_succ (hyear : 1 ≤ year) :
    daysBeforeYear (year + 1) = daysBeforeYear year + daysInYear year := by
  obtain ⟨before, rfl⟩ := Nat.exists_eq_add_of_le' hyear
  unfold daysBeforeYear daysInYear
  simp only [isLeapYear_iff, Nat.add_sub_cancel, Nat.succ_div]
  have hcentury : 100 ∣ before + 1 → 4 ∣ before + 1 := (Nat.dvd_trans (by decide) ·)
  have hfourth : 400 ∣ before + 1 → 100 ∣ before + 1 := (Nat.dvd_trans (by decide) ·)
  have hle : before / 100 ≤ before / 4 := Nat.div_le_div_left (by decide) (by decide)
  by_cases h4 : 4 ∣ before + 1
  · by_cases h100 : 100 ∣ before + 1
    · by_cases h400 : 400 ∣ before + 1 <;> simp [h4, h100, h400] <;> omega
    · simp [h4, h100, mt hfourth h100]
      omega
  · simp [h4, mt hcentury h4, mt hfourth (mt hcentury h4)]
    omega

theorem daysBeforeYear_mono : Monotone daysBeforeYear := by
  refine monotone_nat_of_le_succ fun year => ?_
  rcases Nat.eq_zero_or_pos year with rfl | hyear
  · decide
  · rw [daysBeforeYear_succ hyear]
    exact Nat.le_add_right ..

/-- The year of a day begins before it and does not end before it. -/
theorem yearOfDay_bounds (h : 1 ≤ number) :
    1 ≤ Date.yearOfDay number ∧ daysBeforeYear (Date.yearOfDay number) < number ∧
      number ≤ daysBeforeYear (Date.yearOfDay number + 1) := by
  unfold Date.yearOfDay
  simp only
  split_ifs with hbefore hafter <;> unfold daysBeforeYear at * <;> omega

/-! ## Months -/

theorem daysBeforeMonth_succ (hmonth : 1 ≤ month) :
    daysBeforeMonth year (month + 1) = daysBeforeMonth year month + daysInMonth year month := by
  obtain ⟨before, rfl⟩ := Nat.exists_eq_add_of_le' hmonth
  have hsum : ∀ n, daysBeforeMonth year (n + 1) =
      ((List.range n).map fun m => daysInMonth year (m + 1)).sum := fun n => by
    unfold daysBeforeMonth
    rw [List.sum_eq_foldr, List.foldr_map, Nat.add_sub_cancel]
  rw [hsum, hsum, List.range_succ, List.map_append, List.sum_append, List.map_singleton,
    List.sum_singleton]

theorem daysBeforeMonth_le {later : Nat} (hmonth : 1 ≤ month) (h : month ≤ later) :
    daysBeforeMonth year month ≤ daysBeforeMonth year later := by
  induction h with
  | refl => exact le_rfl
  | step h ih =>
    rw [daysBeforeMonth_succ (hmonth.trans h)]
    exact ih.trans (Nat.le_add_right ..)

theorem daysBeforeMonth_one : daysBeforeMonth year 1 = 0 := rfl

/-- The twelve months are the year. -/
theorem daysBeforeMonth_thirteen : daysBeforeMonth year 13 = daysInYear year := by
  unfold daysBeforeMonth daysInYear
  simp only [List.range, List.range.loop, List.foldr, daysInMonth]
  split_ifs <;> rfl

namespace Date

theorem monthAndDay_eq_some {first count : Nat} (hfirst : 1 ≤ first) (hday : 1 ≤ day)
    (h : monthAndDay year (List.range' first count) day = some (m, d)) :
    (first ≤ m ∧ m < first + count) ∧ (1 ≤ d ∧ d ≤ daysInMonth year m) ∧
      daysBeforeMonth year m + d = daysBeforeMonth year first + day := by
  induction count generalizing first day with
  | zero => cases h
  | succ count ih =>
    rw [List.range'_succ, monthAndDay] at h
    split at h
    · rename_i hle
      injection h with h
      obtain ⟨rfl, rfl⟩ := Prod.mk.inj h
      exact ⟨⟨le_rfl, by omega⟩, ⟨hday, hle⟩, rfl⟩
    · rename_i hlt
      obtain ⟨⟨hm, hm'⟩, hd, hsum⟩ := ih (by omega) (by omega) h
      rw [daysBeforeMonth_succ hfirst] at hsum
      exact ⟨⟨by omega, by omega⟩, hd, by omega⟩

/-- A day that is no later than the last of some months is in one of them. -/
theorem exists_monthAndDay {first count : Nat} (hfirst : 1 ≤ first) (hday : 1 ≤ day)
    (h : daysBeforeMonth year first + day ≤ daysBeforeMonth year (first + count)) :
    ∃ found, monthAndDay year (List.range' first count) day = some found := by
  induction count generalizing first day with
  | zero =>
    rw [Nat.add_zero] at h
    omega
  | succ count ih =>
    rw [List.range'_succ, monthAndDay]
    split
    · exact ⟨_, rfl⟩
    · rename_i hlt
      refine ih (by omega) (by omega) ?_
      have hnext : first + 1 + count = first + (count + 1) := by omega
      rw [daysBeforeMonth_succ hfirst, hnext]
      omega

/-! ## Dates -/

theorem dayNumber_bounds (date : Date) : 1 ≤ date.dayNumber ∧ date.dayNumber ≤ lastDay := by
  obtain ⟨⟨hyear, hyear'⟩, ⟨hmonth, hmonth'⟩, hday, hday'⟩ := date.valid
  have hmonths : daysBeforeMonth date.year (date.month + 1) ≤ daysBeforeMonth date.year 13 :=
    daysBeforeMonth_le (by omega) (by omega)
  have hyears : daysBeforeYear (date.year + 1) ≤ lastDay := daysBeforeYear_mono (by omega)
  rw [daysBeforeMonth_succ hmonth, daysBeforeMonth_thirteen] at hmonths
  rw [daysBeforeYear_succ hyear] at hyears
  unfold dayNumber
  omega

theorem dayNumber_of_ofDayNumber? (hnumber : 1 ≤ number) (h : ofDayNumber? number = some date) :
    date.dayNumber = number := by
  obtain ⟨hyear, hbefore, -⟩ := yearOfDay_bounds hnumber
  unfold ofDayNumber? at h
  simp only [Option.bind_eq_bind, Option.bind_eq_some_iff] at h
  obtain ⟨⟨m, d⟩, hfound, h⟩ := h
  obtain ⟨-, -, hsum⟩ := monthAndDay_eq_some le_rfl (by omega) hfound
  rw [daysBeforeMonth_one] at hsum
  unfold ofParts? at h
  split at h
  · injection h with h
    subst h
    unfold dayNumber
    simp only
    omega
  · cases h

theorem exists_ofDayNumber? (hnumber : 1 ≤ number) (hlast : number ≤ lastDay) :
    ∃ date, ofDayNumber? number = some date := by
  obtain ⟨hyear, hbefore, hafter⟩ := yearOfDay_bounds hnumber
  have hyear' : yearOfDay number ≤ 9999 := by
    by_contra hlt
    have hyears : lastDay ≤ daysBeforeYear (yearOfDay number) := daysBeforeYear_mono (by omega)
    omega
  obtain ⟨⟨m, d⟩, hfound⟩ : ∃ found, monthAndDay (yearOfDay number) (List.range' 1 12)
      (number - daysBeforeYear (yearOfDay number)) = some found := by
    refine exists_monthAndDay le_rfl (by omega) ?_
    rw [daysBeforeYear_succ hyear] at hafter
    rw [daysBeforeMonth_one, daysBeforeMonth_thirteen]
    omega
  obtain ⟨hm, hd, -⟩ := monthAndDay_eq_some le_rfl (by omega) hfound
  have hvalid : IsDate (yearOfDay number) m d := ⟨⟨hyear, hyear'⟩, ⟨hm.1, by omega⟩, hd⟩
  refine ⟨⟨_, _, _, hvalid⟩, ?_⟩
  unfold ofDayNumber?
  simp only [hfound, Option.bind_eq_bind, Option.bind_some, ofParts?, dif_pos hvalid]

end Date

end Formwork
