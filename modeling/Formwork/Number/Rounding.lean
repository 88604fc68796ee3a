import Formwork.Number.Power

/-!
# Rounding to binary64

Finite binary64 numbers are whole multiples of `2^-1074`, so rounding a ratio of naturals to the
nearest of them is integer arithmetic. A tie goes to the even neighbour.
-/

namespace Formwork

/-- The exponent of the smallest binary64 number, negated. -/
def unitExponent : Nat := 1074

/-- How many units of `2^-1074` make one. -/
def unitsPerOne : Nat := twoPow unitExponent

/-- Every finite magnitude takes fewer bits than this, counted in units. -/
def magnitudeBits : Nat := 2098

/-- A magnitude of a finite binary64 number, counted in units: at most 53 significant bits. -/
def Representable (units : Nat) : Prop :=
  units < twoPow magnitudeBits ∧ twoPow (units.log2 - 52) ∣ units

instance (units : Nat) : Decidable (Representable units) := by
  unfold Representable; infer_instance

theorem representable_zero : Representable 0 := ⟨twoPow_pos _, Nat.dvd_zero _⟩

/-- The quotient rounded to the nearest natural, a half to the even one. -/
def roundHalfEven (num den : Nat) : Nat :=
  let q := num / den
  let r := num % den
  if 2 * r < den then q
  else if den < 2 * r then q + 1
  else if q % 2 == 0 then q else q + 1

/-- The multiple of the local spacing nearest to a quotient of naturals, in units. -/
def nearestUnits (num den : Nat) : Nat :=
  let spacing := twoPow ((num / den).log2 - 52)
  roundHalfEven num (den * spacing) * spacing

end Formwork
