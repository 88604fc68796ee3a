import Formwork.Number.Rounding
import Mathlib.Algebra.Order.Field.Power
import Mathlib.Algebra.Order.Field.Rat
import Mathlib.Data.Nat.Cast.Order.Field
import Mathlib.Tactic.FieldSimp
import Mathlib.Tactic.Linarith
import Mathlib.Tactic.Positivity
import Mathlib.Tactic.Qify
import Mathlib.Tactic.Ring
import Mathlib.Tactic.SplitIfs

/-!
# The nearest magnitude

`nearestUnits` rounds a ratio to a multiple of the spacing that the magnitudes have around it. No
magnitude of a binary64 number is nearer to the ratio, whatever its own spacing is, and the result
has at most 53 bits again. A ratio that is no greater than a magnitude is not rounded above it, and
one that is no less not below.
-/

namespace Formwork

variable {num den m units bits k : Nat}

/-! ## Rounding to a natural -/

theorem roundHalfEven_bounds (hden : 0 < den) :
    2 * (roundHalfEven num den * den) ≤ 2 * num + den ∧
      2 * num ≤ 2 * (roundHalfEven num den * den) + den ∧
      (2 * (roundHalfEven num den * den) = 2 * num + den ∨
        2 * num = 2 * (roundHalfEven num den * den) + den → roundHalfEven num den % 2 = 0) := by
  have hsplit : num / den * den + num % den = num := Nat.div_add_mod' num den
  have hrest : num % den < den := Nat.mod_lt _ hden
  have hnext : (num / den + 1) * den = num / den * den + den := Nat.succ_mul ..
  unfold roundHalfEven
  simp only [beq_iff_eq]
  split_ifs with hlow hhigh heven
  · omega
  · rw [hnext]
    omega
  · omega
  · rw [hnext]
    omega

theorem roundHalfEven_near (hden : 0 < den) :
    |(roundHalfEven num den : ℚ) - num / den| ≤ 1 / 2 := by
  obtain ⟨hhigh, hlow, -⟩ := @roundHalfEven_bounds num den hden
  have hpos : (0 : ℚ) < den := by exact_mod_cast hden
  qify at hhigh hlow
  rw [sub_div' hpos.ne', abs_div, abs_of_pos hpos, div_le_iff₀ hpos, abs_le]
  constructor <;> linarith

/-- A half goes to the even neighbour. -/
theorem roundHalfEven_tie (hden : 0 < den)
    (h : |(roundHalfEven num den : ℚ) - num / den| = 1 / 2) : roundHalfEven num den % 2 = 0 := by
  have hpos : (0 : ℚ) < den := by exact_mod_cast hden
  refine (roundHalfEven_bounds hden).2.2 ?_
  rw [sub_div' hpos.ne', abs_div, abs_of_pos hpos, div_eq_iff hpos.ne', abs_eq (by positivity)] at h
  qify
  refine h.imp ?_ ?_ <;> intro h <;> linarith

/-- Different naturals are one apart. -/
theorem one_le_abs_sub {a b : Nat} (h : a ≠ b) : (1 : ℚ) ≤ |(a : ℚ) - b| := by
  have hint : (1 : ℤ) ≤ |(a : ℤ) - b| := Int.one_le_abs (by omega)
  exact_mod_cast hint

/-- No natural is nearer. -/
theorem roundHalfEven_nearest (hden : 0 < den) (m : Nat) :
    |(roundHalfEven num den : ℚ) - num / den| ≤ |(m : ℚ) - num / den| := by
  by_cases hm : m = roundHalfEven num den
  · rw [hm]
  · have hapart := one_le_abs_sub hm
    have htriangle := abs_sub_le (m : ℚ) (num / den) (roundHalfEven num den)
    rw [abs_sub_comm (num / den : ℚ)] at htriangle
    have hnear := @roundHalfEven_near num den hden
    linarith

/-- An even natural is what a quotient is rounded to if it is no more than a half away. -/
theorem roundHalfEven_eq_iff (hden : 0 < den) (hm : m % 2 = 0) :
    roundHalfEven num den = m ↔ |(m : ℚ) - num / den| ≤ 1 / 2 := by
  constructor
  · rintro rfl
    exact roundHalfEven_near hden
  · intro h
    by_contra hne
    -- The other one is a half away as well, so it is even and next to this one.
    have hapart := one_le_abs_sub (Ne.symm hne)
    have htriangle := abs_sub_le (m : ℚ) (num / den) (roundHalfEven num den)
    rw [abs_sub_comm (num / den : ℚ)] at htriangle
    have hnear := @roundHalfEven_near num den hden
    have heven := roundHalfEven_tie hden (le_antisymm hnear (by linarith))
    have hone : |(m : ℚ) - roundHalfEven num den| = 1 := le_antisymm (by linarith) hapart
    have hint : |(m : ℤ) - roundHalfEven num den| = 1 := by exact_mod_cast hone
    rcases (abs_eq (by decide)).mp hint with h | h <;> omega

theorem roundHalfEven_le (hden : 0 < den) (h : num ≤ m * den) : roundHalfEven num den ≤ m := by
  obtain ⟨hhigh, -⟩ := @roundHalfEven_bounds num den hden
  by_contra hlt
  have hstep : (m + 1) * den ≤ roundHalfEven num den * den := Nat.mul_le_mul_right _ (by omega)
  rw [Nat.succ_mul] at hstep
  omega

theorem roundHalfEven_of_dvd (hden : 0 < den) (h : den ∣ num) :
    roundHalfEven num den * den = num := by
  unfold roundHalfEven
  rw [Nat.mod_eq_zero_of_dvd h]
  simp only [Nat.mul_zero, hden, if_true]
  exact Nat.div_mul_cancel h

/-- An even natural can be added afterwards as well. -/
theorem roundHalfEven_add (hden : 0 < den) (hm : m % 2 = 0) :
    roundHalfEven (m * den + num) den = m + roundHalfEven num den := by
  have hquotient : (m * den + num) / den = m + num / den := by
    rw [Nat.add_comm, Nat.add_mul_div_right _ _ hden, Nat.add_comm]
  have hrest : (m * den + num) % den = num % den := by
    rw [Nat.add_comm, Nat.add_mul_mod_self_right]
  unfold roundHalfEven
  simp only [hquotient, hrest, beq_iff_eq]
  split_ifs <;> omega

/-! ## Spacings -/

theorem twoPow_dvd {a b : Nat} (h : a ≤ b) : twoPow a ∣ twoPow b := Nat.pow_dvd_pow 2 h

theorem twoPow_le {a b : Nat} (h : a ≤ b) : twoPow a ≤ twoPow b :=
  Nat.pow_le_pow_right (by decide) h

theorem twoPow_lt {a b : Nat} (h : a < b) : twoPow a < twoPow b :=
  Nat.pow_lt_pow_right (by decide) h

theorem le_log2_of_twoPow_le (h : twoPow k ≤ units) : k ≤ units.log2 :=
  (Nat.le_log2 ((twoPow_pos k).trans_le h).ne').mpr h

theorem twoPow_add (a b : Nat) : twoPow (a + b) = 2 ^ a * twoPow b := Nat.pow_add 2 a b

/-- How far apart the magnitudes are around a ratio. -/
def spacing (num den : Nat) : Nat := twoPow ((num / den).log2 - 52)

theorem spacing_pos : 0 < spacing num den := twoPow_pos _

/-- A ratio below a power of two has at most 53 bits above a spacing. -/
theorem spacing_dvd (h : num / den < twoPow (53 + k)) : spacing num den ∣ twoPow k := by
  refine twoPow_dvd ?_
  rcases Nat.eq_zero_or_pos (num / den) with hzero | hpos
  · rw [hzero]
    simp
  · have hlog : (num / den).log2 < 53 + k := (Nat.log2_lt hpos.ne').mpr h
    omega

/-- A multiple of a power of two by at most `2 ^ 53` has at most 53 bits. -/
theorem twoPow_dvd_mul (h : bits ≤ 2 ^ 53) :
    twoPow ((bits * twoPow k).log2 - 52) ∣ bits * twoPow k := by
  rcases Nat.lt_or_eq_of_le h with hlt | rfl
  · rcases Nat.eq_zero_or_pos bits with rfl | hpos
    · simp
    · have hlog : (bits * twoPow k).log2 < 53 + k := by
        rw [Nat.log2_lt (Nat.mul_pos hpos (twoPow_pos k)).ne', Nat.pow_add]
        exact Nat.mul_lt_mul_of_pos_right hlt (twoPow_pos k)
      exact (twoPow_dvd (by omega)).trans (Nat.dvd_mul_left _ bits)
  · have hlog : (twoPow (53 + k)).log2 = 53 + k := Nat.log2_two_pow
    rw [← twoPow_add, hlog]
    exact twoPow_dvd (by omega)

/-! ## Rounding to a magnitude -/

theorem nearestUnits_eq : nearestUnits num den =
    roundHalfEven num (den * spacing num den) * spacing num den := rfl

/-- A multiple of the spacing and the ratio, in steps of the spacing. -/
theorem steps_apart (hden : 0 < den) (count : Nat) :
    |((count * spacing num den : Nat) : ℚ) - num / den| =
      |(count : ℚ) - num / (den * spacing num den : Nat)| * spacing num den := by
  have hpos : (0 : ℚ) < spacing num den := by exact_mod_cast spacing_pos
  have hscale : ((count * spacing num den : Nat) : ℚ) - num / den =
      (count - num / (den * spacing num den : Nat)) * spacing num den := by
    push_cast
    field_simp
  rw [hscale, abs_mul, abs_of_pos hpos]

theorem nearestUnits_near (hden : 0 < den) :
    |(nearestUnits num den : ℚ) - num / den| ≤ spacing num den / 2 := by
  have hnear := @roundHalfEven_near num _ (Nat.mul_pos hden (@spacing_pos num den))
  rw [nearestUnits_eq, steps_apart hden]
  calc _ ≤ 1 / 2 * (spacing num den : ℚ) := mul_le_mul_of_nonneg_right hnear (Nat.cast_nonneg _)
    _ = spacing num den / 2 := by ring

theorem nearestUnits_nearest_multiple (hden : 0 < den) (hm : spacing num den ∣ m) :
    |(nearestUnits num den : ℚ) - num / den| ≤ |(m : ℚ) - num / den| := by
  obtain ⟨count, rfl⟩ := hm
  rw [nearestUnits_eq, Nat.mul_comm (spacing num den), steps_apart hden, steps_apart hden]
  refine mul_le_mul_of_nonneg_right ?_ (Nat.cast_nonneg _)
  exact roundHalfEven_nearest (Nat.mul_pos hden spacing_pos) count

/-- No magnitude is nearer. -/
theorem nearestUnits_nearest (hden : 0 < den) (hunits : Representable units) :
    |(nearestUnits num den : ℚ) - num / den| ≤ |(units : ℚ) - num / den| := by
  by_cases hlog : (num / den).log2 - 52 ≤ units.log2 - 52
  · exact nearestUnits_nearest_multiple hden ((twoPow_dvd hlog).trans hunits.2)
  · -- A magnitude with a narrower spacing lies below the power of two that the ratio is above.
    have hbelow : units < twoPow (num / den).log2 :=
      Nat.lt_log2_self.trans_le (twoPow_le (by omega))
    have hpower : twoPow (num / den).log2 ≤ num / den := by
      refine Nat.log2_self_le fun hzero => ?_
      rw [hzero] at hlog
      simp at hlog
    have hnearest : |(nearestUnits num den : ℚ) - num / den| ≤
        |(twoPow (num / den).log2 : ℚ) - num / den| :=
      nearestUnits_nearest_multiple hden (twoPow_dvd (Nat.sub_le ..))
    have hratio : (twoPow (num / den).log2 : ℚ) ≤ num / den :=
      (Nat.cast_le.mpr hpower).trans Nat.cast_div_le
    have hunits : (units : ℚ) ≤ twoPow (num / den).log2 := by exact_mod_cast hbelow.le
    rw [abs_of_nonpos (sub_nonpos.mpr hratio)] at hnearest
    rw [abs_of_nonpos (sub_nonpos.mpr (hunits.trans hratio))]
    linarith

theorem nearestUnits_le (hden : 0 < den) (hunits : Representable units)
    (h : (num : ℚ) / den ≤ units) : nearestUnits num den ≤ units := by
  have hnearest := @nearestUnits_nearest num _ _ hden hunits
  rw [abs_of_nonneg (sub_nonneg.mpr h)] at hnearest
  have hle : (nearestUnits num den : ℚ) ≤ units := by linarith [le_of_abs_le hnearest]
  exact_mod_cast hle

theorem le_nearestUnits (hden : 0 < den) (hunits : Representable units)
    (h : (units : ℚ) ≤ num / den) : units ≤ nearestUnits num den := by
  have hnearest := @nearestUnits_nearest num _ _ hden hunits
  rw [abs_of_nonpos (sub_nonpos.mpr h)] at hnearest
  have hle : (units : ℚ) ≤ nearestUnits num den := by linarith [neg_le_of_abs_le hnearest]
  exact_mod_cast hle

/-- A multiple of the spacing is not changed. -/
theorem nearestUnits_of_dvd (h : spacing num 1 ∣ num) : nearestUnits num 1 = num := by
  rw [nearestUnits_eq, Nat.one_mul]
  exact roundHalfEven_of_dvd spacing_pos h

/-- What a ratio is rounded to has at most 53 bits. -/
theorem dvd_nearestUnits (hden : 0 < den) :
    twoPow ((nearestUnits num den).log2 - 52) ∣ nearestUnits num den := by
  refine twoPow_dvd_mul (roundHalfEven_le (Nat.mul_pos hden spacing_pos) ?_)
  have hratio : num < twoPow ((num / den).log2 + 1) * den :=
    (Nat.div_lt_iff_lt_mul hden).mp Nat.lt_log2_self
  have hbits : twoPow ((num / den).log2 + 1) ≤ 2 ^ 53 * spacing num den := by
    unfold spacing
    rw [← twoPow_add]
    exact twoPow_le (by omega)
  calc num ≤ twoPow ((num / den).log2 + 1) * den := hratio.le
    _ ≤ 2 ^ 53 * spacing num den * den := Nat.mul_le_mul_right _ hbits
    _ = 2 ^ 53 * (den * spacing num den) := by ring

end Formwork
