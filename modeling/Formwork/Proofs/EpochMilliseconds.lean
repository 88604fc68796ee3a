import Formwork.Calendar.Epoch
import Formwork.Proofs.Acceptance
import Formwork.Proofs.DayNumbers
import Formwork.Proofs.NearestUnits
import Formwork.Proofs.NumericOrder

/-!
# Epoch milliseconds and the calendar

Milliseconds are rounded twice on their way to a date and time: to a binary64 number of seconds, and
what is below a second to microseconds. Whole seconds at the ends of the calendar are binary64
numbers, so no rounding leads across them: milliseconds are converted if and only if they lie in the
years 1 to 9999. From `2 ^ 33` seconds on the second rounding loses nothing of its own, and below
`2 ^ 33` seconds both are too fine to matter. So the microseconds are right if and only if some
binary64 number of seconds is within half a microsecond: `Entry.converts_exactly_iff_resolved`.
-/

namespace Formwork

-- Unfolded, the power of two is compared with literals digit by digit.
attribute [local irreducible] unitsPerOne unitExponent

/-! ## Instants -/

namespace TimeOfDay

variable {rest : Nat} {time : TimeOfDay}

theorem microseconds_lt (time : TimeOfDay) : time.microseconds < microsecondsPerDay := by
  obtain ⟨hhour, hminute, hsecond, hmicrosecond⟩ := time.valid
  have hday : microsecondsPerDay = 86400000000 := rfl
  unfold microseconds
  omega

/-- The time of day at which so many microseconds of the day are over. -/
def at? (rest : Nat) : Option TimeOfDay :=
  ofParts? (rest / 3600000000) (rest / 60000000 % 60) (rest / 1000000 % 60) (rest % 1000000)

theorem microseconds_of_at? (h : at? rest = some time) : time.microseconds = rest := by
  unfold at? ofParts? at h
  split at h
  · injection h with h
    subst h
    unfold microseconds
    simp only
    omega
  · cases h

theorem exists_at? (h : rest < microsecondsPerDay) : ∃ time, at? rest = some time := by
  have hday : microsecondsPerDay = 86400000000 := rfl
  have hvalid : IsTime (rest / 3600000000) (rest / 60000000 % 60) (rest / 1000000 % 60)
      (rest % 1000000) := by
    unfold IsTime
    omega
  exact ⟨_, dif_pos hvalid⟩

end TimeOfDay

namespace DateTime

variable {t : DateTime} {n : Int}

theorem isTime_midnight : IsTime 0 0 0 0 := by decide

/-- The start of the epoch. -/
def epoch : DateTime := ⟨⟨1970, 1, 1, by decide⟩, ⟨0, 0, 0, 0, isTime_midnight⟩, some 0⟩

theorem instant_epoch : epoch.instant 0 = epochDay * microsecondsPerDay := by decide +kernel

/-- A date and time in UTC is so many microseconds after the start of the epoch. -/
structure IsAt (t : DateTime) (n : Int) : Prop where
  utc : t.offset = some 0
  instant_eq : t.instant 0 = epoch.instant 0 + n

theorem IsAt.unique {m : Int} (hm : t.IsAt m) (hn : t.IsAt n) : m = n :=
  Int.add_left_cancel (hm.instant_eq.symm.trans hn.instant_eq)

/-- Microseconds from the start of the epoch that lead into the years 1 to 9999. -/
def InCalendar (n : Int) : Prop :=
  -62135596800000000 ≤ n ∧ n < 253402300800000000

theorem lastDay_eq : lastDay = 3652059 := by decide +kernel

theorem IsAt.inCalendar (h : t.IsAt n) : InCalendar n := by
  obtain ⟨hfirst, hlast⟩ := t.date.dayNumber_bounds
  have htime := t.time.microseconds_lt
  have hinstant := h.instant_eq
  have hday : microsecondsPerDay = 86400000000 := rfl
  rw [instant_epoch, instant, wallClock, hday, epochDay] at hinstant
  rw [lastDay_eq] at hlast
  unfold InCalendar
  omega

theorem isAt_of_ofEpochMicroseconds? (h : ofEpochMicroseconds? n = some t) : t.IsAt n := by
  have hday : (microsecondsPerDay : Int) = 86400000000 := rfl
  unfold ofEpochMicroseconds? at h
  simp only [Option.bind_eq_bind, Option.bind_eq_some_iff] at h
  obtain ⟨_, hguard, date, hdate, time, htime, h⟩ := h
  have hpos : 1 ≤ epochDay + n.fdiv microsecondsPerDay := by
    by_contra hneg
    simp [guard, hneg] at hguard
  injection h with h
  subst h
  have hnumber := Date.dayNumber_of_ofDayNumber? (by omega) hdate
  have hclock : time.microseconds = _ := TimeOfDay.microseconds_of_at? htime
  refine ⟨rfl, ?_⟩
  rw [instant_epoch, instant, wallClock, hnumber, hclock]
  rw [Int.fdiv_eq_ediv_of_nonneg _ (Int.natCast_nonneg _), hday] at hpos ⊢
  rw [Int.fmod_eq_emod_of_nonneg _ (by decide)]
  push_cast
  rw [hday]
  omega

/-- Within the years 1 to 9999 there is a date and time for every microsecond. -/
theorem exists_ofEpochMicroseconds? (h : InCalendar n) : ∃ t, ofEpochMicroseconds? n = some t := by
  obtain ⟨hfirst, hlast⟩ := h
  have hday : (microsecondsPerDay : Int) = 86400000000 := rfl
  have hdiv : n.fdiv microsecondsPerDay = n / 86400000000 :=
    Int.fdiv_eq_ediv_of_nonneg _ (Int.natCast_nonneg _)
  have hmod : n.fmod microsecondsPerDay = n % 86400000000 :=
    Int.fmod_eq_emod_of_nonneg _ (Int.natCast_nonneg _)
  have hnumber : epochDay = 719163 := rfl
  obtain ⟨date, hdate⟩ : ∃ date,
      Date.ofDayNumber? (epochDay + n.fdiv microsecondsPerDay).toNat = some date := by
    refine Date.exists_ofDayNumber? ?_ ?_
    · omega
    · rw [lastDay_eq]
      omega
  obtain ⟨time, htime⟩ : ∃ time, TimeOfDay.at? (n.fmod microsecondsPerDay).toNat = some time := by
    refine TimeOfDay.exists_at? ?_
    omega
  refine ⟨⟨date, time, some 0⟩, ?_⟩
  unfold TimeOfDay.at? at htime
  unfold ofEpochMicroseconds?
  have hpos : 1 ≤ epochDay + n.fdiv microsecondsPerDay := by omega
  simp [guard, hpos, hdate, htime]

end DateTime

/-! ## Seconds -/

section Seconds

variable {num den count units whole bits : Nat}

theorem unitsPerOne_eq : unitsPerOne = twoPow 1074 := by
  unfold unitsPerOne unitExponent
  rfl

theorem unitsPerOne_pos : 0 < unitsPerOne := by
  rw [unitsPerOne_eq]
  exact twoPow_pos _

theorem cast_unitsPerOne_pos : (0 : ℚ) < unitsPerOne := by exact_mod_cast unitsPerOne_pos

theorem representable_whole (h : whole ≤ 2 ^ 53) : Representable (whole * unitsPerOne) := by
  rw [unitsPerOne_eq]
  refine ⟨?_, twoPow_dvd_mul h⟩
  calc whole * twoPow 1074 ≤ 2 ^ 53 * twoPow 1074 := Nat.mul_le_mul_right _ h
    _ = twoPow (53 + 1074) := (twoPow_add 53 1074).symm
    _ < twoPow magnitudeBits := twoPow_lt (by decide)

theorem lt_twoPow_of_lt (hden : 0 < den) (h : num < 2 ^ bits * unitsPerOne * den) :
    num / den < twoPow (53 + (1021 + bits)) := by
  have hpower : twoPow (53 + (1021 + bits)) = 2 ^ bits * unitsPerOne := by
    rw [unitsPerOne_eq, ← twoPow_add]
    congr 1
    omega
  rwa [hpower, Nat.div_lt_iff_lt_mul hden]

/-- A magnitude with so many bits before the point is within half of its 53rd bit. -/
theorem nearestUnits_near_of_lt (hden : 0 < den) (h : num < 2 ^ bits * unitsPerOne * den) :
    |(nearestUnits num den : ℚ) / unitsPerOne - num / den / unitsPerOne| ≤ 2 ^ bits / 2 ^ 54 := by
  have hle := Nat.le_of_dvd (twoPow_pos _) (spacing_dvd (lt_twoPow_of_lt hden h))
  have hone : unitsPerOne = 2 ^ 53 * twoPow 1021 := by rw [unitsPerOne_eq, ← twoPow_add]
  have hpower : twoPow (1021 + bits) = 2 ^ bits * twoPow 1021 := by rw [Nat.add_comm, twoPow_add]
  rw [hpower] at hle
  qify at hle
  rw [← sub_div, abs_div, abs_of_pos cast_unitsPerOne_pos, div_le_iff₀ cast_unitsPerOne_pos]
  calc |(nearestUnits num den : ℚ) - num / den| ≤ spacing num den / 2 := nearestUnits_near hden
    _ ≤ 2 ^ bits * twoPow 1021 / 2 := by linarith
    _ = 2 ^ bits / 2 ^ 54 * unitsPerOne := by
      rw [hone]
      push_cast
      ring

/-- The magnitude nearest to so many milliseconds, in seconds. -/
def secondsOf (count : Nat) : Nat := nearestUnits (count * unitsPerOne) 1000

theorem ratio_eq (count : Nat) :
    ((count * unitsPerOne : Nat) : ℚ) / (1000 : Nat) = count / 1000 * unitsPerOne := by
  push_cast
  ring

theorem secondsOf_near (h : count < 2 ^ bits * 1000) :
    |(secondsOf count : ℚ) / unitsPerOne - count / 1000| ≤ 2 ^ bits / 2 ^ 54 := by
  have hlt : count * unitsPerOne < 2 ^ bits * unitsPerOne * 1000 := by
    rw [Nat.mul_right_comm]
    exact Nat.mul_lt_mul_of_pos_right h unitsPerOne_pos
  have hnear := nearestUnits_near_of_lt (by decide) hlt
  rwa [ratio_eq, mul_div_cancel_right₀ _ cast_unitsPerOne_pos.ne'] at hnear

/-- No magnitude is nearer. -/
theorem secondsOf_nearest (hunits : Representable units) :
    |(secondsOf count : ℚ) / unitsPerOne - count / 1000| ≤
      |(units : ℚ) / unitsPerOne - count / 1000| := by
  have hscale : ∀ u : Nat, |(u : ℚ) / unitsPerOne - count / 1000| =
      |(u : ℚ) - count / 1000 * unitsPerOne| / unitsPerOne := fun u => by
    rw [← abs_of_pos cast_unitsPerOne_pos, ← abs_div, abs_of_pos cast_unitsPerOne_pos, sub_div,
      mul_div_cancel_right₀ _ cast_unitsPerOne_pos.ne']
  rw [hscale, hscale, ← ratio_eq]
  exact div_le_div_of_nonneg_right (nearestUnits_nearest (by decide) hunits) (Nat.cast_nonneg _)

theorem le_secondsOf (hwhole : whole ≤ 2 ^ 53) (h : whole * 1000 ≤ count) :
    whole * unitsPerOne ≤ secondsOf count := by
  refine le_nearestUnits (by decide) (representable_whole hwhole) ?_
  rw [ratio_eq]
  qify at h
  push_cast
  exact mul_le_mul_of_nonneg_right (by linarith) (Nat.cast_nonneg _)

theorem secondsOf_le (hwhole : whole ≤ 2 ^ 53) (h : count ≤ whole * 1000) :
    secondsOf count ≤ whole * unitsPerOne := by
  refine nearestUnits_le (by decide) (representable_whole hwhole) ?_
  rw [ratio_eq]
  qify at h
  push_cast
  exact mul_le_mul_of_nonneg_right (by linarith) (Nat.cast_nonneg _)

theorem representable_secondsOf (h : count ≤ 2 ^ 53 * 1000) : Representable (secondsOf count) :=
  ⟨(secondsOf_le le_rfl h).trans_lt (representable_whole le_rfl).1, dvd_nearestUnits (by decide)⟩

/-! ## Microseconds -/

/-- The microseconds of a magnitude in seconds. -/
def microsecondsOf (units : Nat) : Nat :=
  units / unitsPerOne * 1000000 +
    roundHalfEven (nearestUnits (units % unitsPerOne * 1000000) 1) unitsPerOne

theorem microsecondsOfSeconds_eq (t : Finite64) :
    DateTime.microsecondsOfSeconds t =
      if t.negative then -(microsecondsOf t.units : Int) else microsecondsOf t.units := by
  unfold DateTime.microsecondsOfSeconds microsecondsOf
  simp only
  push_cast
  rfl

/-- The microseconds below a second take 20 bits before the point, so 33 are left behind it. -/
theorem below_lt (units : Nat) :
    units % unitsPerOne * 1000000 < 2 ^ 20 * unitsPerOne * 1 := by
  have hlt : units % unitsPerOne < unitsPerOne := Nat.mod_lt _ unitsPerOne_pos
  omega

/-- The last rounding is off by half a microsecond at the most, and the product before it by half of
its last bit. -/
theorem microsecondsOf_near (units : Nat) :
    |(microsecondsOf units : ℚ) - 1000000 * (units / unitsPerOne)| ≤ 1 / 2 + 1 / 2 ^ 34 := by
  have hpos := cast_unitsPerOne_pos
  have hrounded := nearestUnits_near_of_lt (by decide) (below_lt units)
  have hhalf :=
    @roundHalfEven_near (nearestUnits (units % unitsPerOne * 1000000) 1) _ unitsPerOne_pos
  have hsplit : (units : ℚ) / unitsPerOne =
      (units / unitsPerOne : Nat) + (units % unitsPerOne : Nat) / unitsPerOne := by
    have hunits : (units : ℚ) =
        (units / unitsPerOne : Nat) * unitsPerOne + (units % unitsPerOne : Nat) := by
      exact_mod_cast (Nat.div_add_mod' units unitsPerOne).symm
    rw [div_eq_iff hpos.ne', add_mul, div_mul_cancel₀ _ hpos.ne']
    exact hunits
  unfold microsecondsOf
  rw [hsplit]
  push_cast at hrounded hhalf ⊢
  rw [abs_le] at hrounded hhalf ⊢
  norm_num at hrounded hhalf ⊢
  rw [mul_div_right_comm] at hrounded
  constructor <;> linarith

/-- Where nothing of the part below a second is lost, all is rounded once. -/
theorem microsecondsOf_of_dvd (h : twoPow 1041 ∣ units) :
    microsecondsOf units = roundHalfEven (units * 1000000) unitsPerOne := by
  have hone : twoPow 1041 ∣ unitsPerOne := by
    rw [unitsPerOne_eq]
    exact twoPow_dvd (by decide)
  have hspacing : spacing (units % unitsPerOne * 1000000) 1 ∣ units % unitsPerOne * 1000000 := by
    refine (spacing_dvd (lt_twoPow_of_lt (by decide) (below_lt units))).trans ?_
    exact Dvd.dvd.mul_right ((Nat.dvd_mod_iff hone).mpr h) _
  have hsplit : units * 1000000 =
      units / unitsPerOne * 1000000 * unitsPerOne + units % unitsPerOne * 1000000 := by
    rw [Nat.mul_right_comm, ← Nat.add_mul, Nat.div_add_mod']
  rw [hsplit, roundHalfEven_add unitsPerOne_pos (by omega), microsecondsOf,
    nearestUnits_of_dvd hspacing]

/-- From `2 ^ 33` seconds on the microseconds are rounded once. -/
theorem dvd_of_le (hunits : Representable units) (h : 2 ^ 33 * unitsPerOne ≤ units) :
    twoPow 1041 ∣ units := by
  refine (twoPow_dvd ?_).trans hunits.2
  rw [unitsPerOne_eq, ← twoPow_add] at h
  have hlog := le_log2_of_twoPow_le h
  omega

/-! ## Milliseconds -/

/-- Some magnitude is within half a microsecond. -/
def IsFine (count : Nat) : Prop :=
  |(secondsOf count : ℚ) / unitsPerOne - count / 1000| ≤ 1 / 2000000

theorem isFine_of_lt (h : count < 2 ^ 33 * 1000) : IsFine count :=
  (secondsOf_near h).trans (by norm_num)

theorem microseconds_error (h : count < 2 ^ bits * 1000) :
    |(microsecondsOf (secondsOf count) : ℚ) - 1000 * count| ≤
      1 / 2 + 1 / 2 ^ 34 + 1000000 * (2 ^ bits / 2 ^ 54) := by
  have hseconds := secondsOf_near h
  have hmicro := microsecondsOf_near (secondsOf count)
  rw [abs_le] at hseconds hmicro ⊢
  constructor <;> linarith

theorem microseconds_eq_iff (h : count < 2 ^ 38 * 1000) :
    microsecondsOf (secondsOf count) = 1000 * count ↔ IsFine count := by
  by_cases hlow : count < 2 ^ 33 * 1000
  · refine iff_of_true ?_ (isFine_of_lt hlow)
    by_contra hne
    -- All the roundings together are off by less than one.
    have hapart := one_le_abs_sub hne
    have herror := microseconds_error hlow
    norm_num at herror
    push_cast at hapart
    linarith
  · have hdvd := dvd_of_le (representable_secondsOf (by omega))
      (le_secondsOf (by decide) (Nat.le_of_not_lt hlow))
    have hpos := cast_unitsPerOne_pos
    have hscale : ((1000 * count : Nat) : ℚ) - (secondsOf count * 1000000 : Nat) / unitsPerOne =
        -1000000 * (secondsOf count / unitsPerOne - count / 1000) := by
      push_cast
      ring
    -- Whole milliseconds are an even number of microseconds, which is where a half goes.
    rw [microsecondsOf_of_dvd hdvd, roundHalfEven_eq_iff unitsPerOne_pos (by omega), hscale, IsFine,
      abs_mul]
    norm_num
    constructor <;> intro h <;> linarith

theorem microseconds_near (h : count < 2 ^ 38 * 1000) :
    microsecondsOf (secondsOf count) ≤ 1000 * count + 15 ∧
      1000 * count ≤ microsecondsOf (secondsOf count) + 15 := by
  have herror := microseconds_error h
  norm_num [abs_le] at herror
  obtain ⟨hlow, hhigh⟩ := herror
  constructor
  · have hlt : (microsecondsOf (secondsOf count) : ℚ) < (1000 * count + 16 : Nat) := by
      push_cast
      linarith
    exact Nat.le_of_lt_succ (by exact_mod_cast hlt)
  · have hlt : ((1000 * count : Nat) : ℚ) < (microsecondsOf (secondsOf count) + 16 : Nat) := by
      push_cast
      linarith
    exact Nat.le_of_lt_succ (by exact_mod_cast hlt)

theorem isFine_whole (h : whole ≤ 2 ^ 53) : IsFine (whole * 1000) := by
  have heq : secondsOf (whole * 1000) = whole * unitsPerOne :=
    Nat.le_antisymm (secondsOf_le h le_rfl) (le_secondsOf h le_rfl)
  have hpos := cast_unitsPerOne_pos
  unfold IsFine
  rw [heq]
  push_cast
  rw [mul_div_cancel_right₀ _ hpos.ne', mul_div_cancel_right₀ _ (by norm_num)]
  norm_num

theorem le_microseconds (hwhole : whole ≤ 2 ^ 53) (h : whole * 1000 ≤ count) :
    whole * 1000000 ≤ microsecondsOf (secondsOf count) := by
  have hle : whole ≤ secondsOf count / unitsPerOne :=
    (Nat.le_div_iff_mul_le unitsPerOne_pos).mpr (le_secondsOf hwhole h)
  exact (Nat.mul_le_mul_right _ hle).trans (Nat.le_add_right ..)

end Seconds

/-! ## Signs -/

section Signs

variable {n : Int}

/-- Some binary64 number of seconds is within half a microsecond of so many milliseconds. -/
def Resolved (n : Int) : Prop :=
  ∃ x : Finite64, |(Number.real x).exact - n / 1000| ≤ 1 / 2000000

theorem exact_real (x : Finite64) : (Number.real x).exact =
    if x.negative then -((x.units : ℚ) / unitsPerOne) else (x.units : ℚ) / unitsPerOne := by
  rw [Number.cast_unitsPerOne]
  show (x.scaled : ℚ) / 2 ^ unitExponent = _
  unfold Finite64.scaled
  split
  · push_cast
    rw [neg_div]
  · rfl

theorem cast_natAbs_of_neg (h : n < 0) : (n : ℚ) = -(n.natAbs : ℚ) := by
  rw [Nat.cast_natAbs, abs_of_neg h]
  push_cast
  exact (neg_neg _).symm

theorem cast_natAbs_of_nonneg (h : ¬ n < 0) : (n : ℚ) = n.natAbs := by
  rw [Nat.cast_natAbs, abs_of_nonneg (by omega)]

theorem resolved_iff (h : n.natAbs ≤ 2 ^ 53 * 1000) : Resolved n ↔ IsFine n.natAbs := by
  constructor
  · rintro ⟨x, hx⟩
    refine (secondsOf_nearest x.representable).trans (le_trans ?_ hx)
    have hexact : |(Number.real x).exact| = x.units / unitsPerOne := by
      have hnonneg : (0 : ℚ) ≤ x.units / unitsPerOne := by positivity
      rw [exact_real]
      split
      · rw [abs_neg, abs_of_nonneg hnonneg]
      · exact abs_of_nonneg hnonneg
    have hcount : |(n : ℚ) / 1000| = n.natAbs / 1000 := by
      rw [abs_div, Nat.cast_natAbs, Int.cast_abs]
      norm_num
    rw [← hexact, ← hcount]
    exact abs_abs_sub_abs_le _ _
  · intro hfine
    refine ⟨⟨decide (n < 0), _, representable_secondsOf h⟩, ?_⟩
    unfold IsFine at hfine
    rw [exact_real]
    by_cases hneg : n < 0
    · simp only [hneg, decide_true, if_true]
      rw [cast_natAbs_of_neg hneg, neg_div, neg_sub_neg, abs_sub_comm]
      exact hfine
    · simp only [hneg, decide_false, Bool.false_eq_true, if_false]
      rw [cast_natAbs_of_nonneg hneg]
      exact hfine

/-- The microseconds that so many milliseconds are taken for. -/
def microsecondsFor (n : Int) : Int :=
  if n < 0 then -(microsecondsOf (secondsOf n.natAbs) : Int)
  else microsecondsOf (secondsOf n.natAbs)

theorem microsecondsFor_eq_iff (h : n.natAbs < 2 ^ 38 * 1000) :
    microsecondsFor n = 1000 * n ↔ Resolved n := by
  rw [resolved_iff (by omega), ← microseconds_eq_iff h]
  unfold microsecondsFor
  split <;> omega

theorem microsecondsFor_near (h : n.natAbs < 2 ^ 38 * 1000) :
    |microsecondsFor n - 1000 * n| ≤ 15 := by
  obtain ⟨hhigh, hlow⟩ := microseconds_near h
  rw [abs_le]
  unfold microsecondsFor
  split <;> omega

open DateTime

/-- What is rounded stays inside of the calendar or outside of it. -/
theorem inCalendar_microsecondsFor : InCalendar (microsecondsFor n) ↔ InCalendar (1000 * n) := by
  have hfirst : n.natAbs = 62135596800 * 1000 →
      microsecondsOf (secondsOf n.natAbs) = 1000 * n.natAbs := fun h => by
    rw [microseconds_eq_iff (by omega), h]
    exact isFine_whole (by decide)
  have hlast : 253402300800 * 1000 ≤ n.natAbs →
      253402300800 * 1000000 ≤ microsecondsOf (secondsOf n.natAbs) := le_microseconds (by decide)
  unfold InCalendar microsecondsFor
  by_cases hlarge : n.natAbs < 2 ^ 38 * 1000
  · obtain ⟨hhigh, hlow⟩ := microseconds_near hlarge
    split <;> omega
  · split <;> omega

theorem secondsOfMilliseconds_whole (n : Int) : secondsOfMilliseconds (.whole n) =
    Binary64.ofUnits (decide (n < 0)) (secondsOf n.natAbs) := by
  rw [secondsOfMilliseconds, Binary64.ofQuotient, Binary64.ofRatio, secondsOf]

theorem microsecondsOfSeconds_secondsOf (h : Representable (secondsOf n.natAbs)) :
    microsecondsOfSeconds ⟨decide (n < 0), secondsOf n.natAbs, h⟩ = microsecondsFor n := by
  rw [microsecondsOfSeconds_eq, microsecondsFor]
  simp only [decide_eq_true_eq]

theorem ofEpochMilliseconds?_whole (n : Int) : ofEpochMilliseconds? (.whole n) =
    if Representable (secondsOf n.natAbs) then ofEpochMicroseconds? (microsecondsFor n)
    else none := by
  rw [ofEpochMilliseconds?, secondsOfMilliseconds_whole]
  by_cases h : Representable (secondsOf n.natAbs)
  · rw [Binary64.ofUnits, dif_pos h, if_pos h]
    simp only
    rw [microsecondsOfSeconds_secondsOf]
  · rw [Binary64.ofUnits, dif_neg h, if_neg h]

theorem natAbs_lt_of_inCalendar (h : InCalendar (1000 * n)) : n.natAbs < 2 ^ 38 * 1000 := by
  unfold InCalendar at h
  omega

theorem exists_isAt_iff : (∃ t : DateTime, t.IsAt (1000 * n)) ↔ InCalendar (1000 * n) := by
  constructor
  · rintro ⟨t, ht⟩
    exact ht.inCalendar
  · intro h
    obtain ⟨t, ht⟩ := exists_ofEpochMicroseconds? h
    exact ⟨t, isAt_of_ofEpochMicroseconds? ht⟩

theorem exists_of_inCalendar (h : InCalendar (1000 * n)) :
    ∃ t, ofEpochMilliseconds? (.whole n) = some t ∧ t.IsAt (microsecondsFor n) := by
  obtain ⟨t, ht⟩ := exists_ofEpochMicroseconds? (inCalendar_microsecondsFor.mpr h)
  have hlt := natAbs_lt_of_inCalendar h
  refine ⟨t, ?_, isAt_of_ofEpochMicroseconds? ht⟩
  rw [ofEpochMilliseconds?_whole, if_pos (representable_secondsOf (by omega)), ht]

theorem none_of_not_inCalendar (h : ¬ InCalendar (1000 * n)) :
    ofEpochMilliseconds? (.whole n) = none := by
  rw [ofEpochMilliseconds?_whole]
  split
  · rw [Option.eq_none_iff_forall_ne_some]
    intro t ht
    exact h (inCalendar_microsecondsFor.mp (isAt_of_ofEpochMicroseconds? ht).inCalendar)
  · rfl

theorem DateTime.IsAt.microsecond_eq {t : DateTime} (h : t.IsAt (1000 * n)) :
    (t.time.microsecond : Int) = 1000 * (n % 1000) := by
  obtain ⟨-, -, -, hlt⟩ := t.time.valid
  have hinstant := h.instant_eq
  have hday : microsecondsPerDay = 86400000000 := rfl
  rw [instant_epoch, instant, wallClock, TimeOfDay.microseconds, hday, epochDay] at hinstant
  omega

end Signs

/-! ## Conversions -/

namespace Entry

variable {today : Date} {n : Int} {v : Value}

/-- Milliseconds are converted in the years 1 to 9999, a few microseconds off at the most, and
refused outside of them. -/
structure Converts (today : Date) (n : Int) : Prop where
  returns_iff : (∃ v, date today (.int n) = .ok (.ok v)) ↔ ∃ t : DateTime, t.IsAt (1000 * n)
  refuses : (¬ ∃ t : DateTime, t.IsAt (1000 * n)) →
    ∃ e, date today (.int n) = .ok (.error e) ∧ e.reason.code = "invalid_date"
  near : ∀ v, date today (.int n) = .ok (.ok v) →
    ∃ t m, v = .dateTime t ∧ t.IsAt m ∧ |m - 1000 * n| ≤ 15

/-- No microsecond is lost. -/
def ConvertsExactly (today : Date) (n : Int) : Prop :=
  ∀ v, date today (.int n) = .ok (.ok v) →
    ∃ t, v = .dateTime t ∧ t.IsAt (1000 * n) ∧ (t.time.microsecond : Int) = 1000 * (n % 1000)

theorem dateOf?_int (today : Date) (n : Int) : dateOf? today (.int n) =
    .ok ((DateTime.ofEpochMilliseconds? (.whole n)).map .dateTime) := by
  rw [dateOf?, Value.number?, Option.bind_some]
  all_goals
    intro _ hkind
    cases hkind

theorem date_int_of_none (h : DateTime.ofEpochMilliseconds? (.whole n) = none) :
    date today (.int n) = .ok (.error (.notDate "int")) := by
  rw [date_eq, dateOf?_int, h]
  rfl

theorem date_int_of_some {t : DateTime} (h : DateTime.ofEpochMilliseconds? (.whole n) = some t) :
    date today (.int n) = .ok (.ok (.dateTime t)) := by
  rw [date_eq, dateOf?_int, h]
  rfl

theorem eq_of_date_int {t : DateTime} (h : DateTime.ofEpochMilliseconds? (.whole n) = some t)
    (hv : date today (.int n) = .ok (.ok v)) : v = .dateTime t :=
  Except.ok.inj (Except.ok.inj (hv.symm.trans (date_int_of_some h)))

theorem not_date_of_not_inCalendar (h : ¬ DateTime.InCalendar (1000 * n)) :
    date today (.int n) ≠ .ok (.ok v) := by
  rw [date_int_of_none (none_of_not_inCalendar h)]
  simp

theorem converts (today : Date) (n : Int) : Converts today n := by
  by_cases h : DateTime.InCalendar (1000 * n)
  · obtain ⟨t, ht, hat⟩ := exists_of_inCalendar h
    refine ⟨iff_of_true ⟨_, date_int_of_some ht⟩ (exists_isAt_iff.mpr h), ?_, ?_⟩
    · exact absurd (exists_isAt_iff.mpr h)
    · intro v hv
      exact ⟨t, _, eq_of_date_int ht hv, hat, microsecondsFor_near (natAbs_lt_of_inCalendar h)⟩
  · have hnone := none_of_not_inCalendar h
    refine ⟨iff_of_false ?_ (mt exists_isAt_iff.mp h), ?_, ?_⟩
    · rintro ⟨v, hv⟩
      exact not_date_of_not_inCalendar h hv
    · intro _
      exact ⟨_, date_int_of_none hnone, rfl⟩
    · intro v hv
      exact absurd hv (not_date_of_not_inCalendar h)

theorem convertsExactly_iff (h : DateTime.InCalendar (1000 * n)) :
    ConvertsExactly today n ↔ microsecondsFor n = 1000 * n := by
  obtain ⟨t, ht, hat⟩ := exists_of_inCalendar h
  constructor
  · intro hexact
    obtain ⟨u, hu, huat, -⟩ := hexact _ (date_int_of_some ht)
    rw [Value.dateTime.inj hu] at hat
    exact hat.unique huat
  · intro heq v hv
    rw [heq] at hat
    exact ⟨t, eq_of_date_int ht hv, hat, hat.microsecond_eq⟩

/-- Milliseconds in the years 1 to 9999 are converted, 15 microseconds off at the most, and all
others are refused. No microsecond is lost exactly where a binary64 number of seconds is near
enough, as there is for more than two centuries on either side of the epoch. -/
theorem converts_exactly_iff_resolved (today : Date) (n : Int) :
    Converts today n ∧
      (ConvertsExactly today n ↔ ((∃ t : DateTime, t.IsAt (1000 * n)) → Resolved n)) ∧
      (n.natAbs < 2 ^ 33 * 1000 → Resolved n) := by
  refine ⟨converts today n, ?_, ?_⟩
  · rw [exists_isAt_iff]
    by_cases h : DateTime.InCalendar (1000 * n)
    · rw [convertsExactly_iff h, microsecondsFor_eq_iff (natAbs_lt_of_inCalendar h)]
      exact (imp_iff_right h).symm
    · refine iff_of_true ?_ (absurd · h)
      intro v hv
      exact absurd hv (not_date_of_not_inCalendar h)
  · intro hlt
    exact (resolved_iff (by omega)).mpr (isFine_of_lt hlt)

/-- A microsecond is lost in the year 2242. -/
theorem microsecond_lost_in_2242 :
    let n := 8589934592001
    (∃ t : DateTime, date ⟨2024, 1, 31, by decide⟩ (.int n) = .ok (.ok (.dateTime t)) ∧
      t.date.year = 2242 ∧ t.time.microsecond = 999) ∧
      ¬ ConvertsExactly ⟨2024, 1, 31, by decide⟩ n := by
  intro n
  obtain ⟨t, ht, hyear, hmicrosecond⟩ :
      ∃ t, DateTime.ofEpochMilliseconds? (.whole n) = some t ∧
        t.date.year = 2242 ∧ t.time.microsecond = 999 := by
    refine ⟨⟨⟨2242, 3, 16, by decide⟩, ⟨12, 56, 32, 999, by decide⟩, some 0⟩, ?_, rfl, rfl⟩
    decide +kernel
  refine ⟨⟨t, date_int_of_some ht, hyear, hmicrosecond⟩, fun hexact => ?_⟩
  obtain ⟨u, hu, -, hu'⟩ := hexact _ (date_int_of_some ht)
  rw [← Value.dateTime.inj hu, hmicrosecond] at hu'
  exact absurd hu' (by decide)

end Entry

end Formwork
