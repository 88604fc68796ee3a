import Formwork.Proofs.DecimalText
import Mathlib.Tactic.Linarith

/-!
# Shortest decimals

A magnitude of a binary64 number has a decimal that rounds to it within eighteen places of its
leading digit, and numbers that round to different magnitudes differ. So the text of a finite number
tells it from every other one.
-/

namespace Formwork

variable {u v : Nat}

/-! ## Binades -/

/-- A magnitude as at most 53 bits and the spacing that the last of them counts. -/
structure Binade (u bits k : Nat) : Prop where
  units_eq : u = bits * twoPow k
  bits_lt : bits < 2 ^ 53
  /-- Above the least spacing there are 53 bits. -/
  le_bits : 0 < k → 2 ^ 52 ≤ bits
  spacing_eq : u.log2 - 52 = k

theorem Representable.exists_binade (h : Representable u) (hu : u ≠ 0) :
    ∃ bits, Binade u bits (u.log2 - 52) := by
  obtain ⟨bits, hbits⟩ := h.2
  have hlow : 2 ^ u.log2 ≤ u := Nat.log2_self_le hu
  have hhigh : u < 2 ^ (u.log2 + 1) := Nat.lt_log2_self
  have hpos : 0 < 2 ^ (u.log2 - 52) := Nat.two_pow_pos _
  have hunits : u = 2 ^ (u.log2 - 52) * bits := hbits
  refine ⟨bits, hbits.trans (Nat.mul_comm _ _), ?_, fun hk => ?_, rfl⟩
  · by_contra hle
    have hge : 2 ^ (u.log2 + 1) ≤ 2 ^ (u.log2 - 52) * bits :=
      calc 2 ^ (u.log2 + 1) ≤ 2 ^ (u.log2 - 52 + 53) := Nat.pow_le_pow_right (by decide) (by omega)
        _ = 2 ^ (u.log2 - 52) * 2 ^ 53 := Nat.pow_add ..
        _ ≤ 2 ^ (u.log2 - 52) * bits := Nat.mul_le_mul_left _ (by omega)
    omega
  · by_contra hlt
    have hle : 2 ^ (u.log2 - 52) * bits < 2 ^ u.log2 :=
      calc 2 ^ (u.log2 - 52) * bits < 2 ^ (u.log2 - 52) * 2 ^ 52 :=
            Nat.mul_lt_mul_of_pos_left (by omega) hpos
        _ = 2 ^ (u.log2 - 52 + 52) := (Nat.pow_add ..).symm
        _ = 2 ^ u.log2 := by congr 1; omega
    omega

/-- Whether the last bit of a magnitude is zero. -/
def lastBitZero (units : Nat) : Bool := (units >>> (units.log2 - 52)) % 2 == 0

namespace Binade

variable {a b k l : Nat}

theorem lastBitZero_iff (h : Binade u a k) : lastBitZero u = true ↔ a % 2 = 0 := by
  have hshift : u >>> k = a := by
    rw [Nat.shiftRight_eq_div_pow, h.units_eq]
    exact Nat.mul_div_cancel _ (twoPow_pos k)
  rw [lastBitZero, h.spacing_eq, hshift, beq_iff_eq]

theorem gapAbove_eq (h : Binade u a k) : gapAbove u = 2 * twoPow k := by
  rw [gapAbove, h.spacing_eq]

/-- Below a power of two the spacing is half as wide. -/
theorem gapBelow_eq (h : Binade u a k) :
    gapBelow u = if a = 2 ^ 52 ∧ 0 < k then twoPow k else 2 * twoPow k := by
  have hiff : (u = twoPow u.log2 ∧ 52 < u.log2) ↔ a = 2 ^ 52 ∧ 0 < k := by
    have hk := h.spacing_eq
    constructor
    · rintro ⟨hpower, hlog⟩
      refine ⟨?_, by omega⟩
      have hsplit : twoPow u.log2 = 2 ^ 52 * twoPow k := by
        rw [twoPow, twoPow, Nat.mul_comm]
        change 2 ^ u.log2 = 2 ^ k * 2 ^ 52
        rw [← Nat.pow_add]
        congr 1
        omega
      have hunits := h.units_eq
      rw [hpower, hsplit] at hunits
      exact (Nat.eq_of_mul_eq_mul_right (twoPow_pos k) hunits).symm
    · rintro ⟨rfl, hpos⟩
      refine ⟨?_, by omega⟩
      have hlog : u.log2 = 52 + k := by omega
      rw [hlog, h.units_eq]
      exact (Nat.pow_add 2 52 k).symm
  rw [gapBelow, h.gapAbove_eq, h.spacing_eq]
  by_cases hpower : a = 2 ^ 52 ∧ 0 < k
  · rw [if_pos hpower, if_pos]
    simpa using hiff.mpr hpower
  · rw [if_neg hpower, if_neg]
    simpa using mt hiff.mp hpower

/-- A greater magnitude is not spaced more narrowly. -/
theorem spacing_le (hu : Binade u a k) (hv : Binade v b l) (huv : u < v) : k ≤ l := by
  by_contra hlk
  have hspacing : twoPow (l + 1) ≤ twoPow k := Nat.pow_le_pow_right (by decide) (by omega)
  rw [twoPow_succ] at hspacing
  have hle : v ≤ u :=
    calc v = b * twoPow l := hv.units_eq
      _ ≤ 2 ^ 53 * twoPow l := Nat.mul_le_mul_right _ hv.bits_lt.le
      _ = 2 ^ 52 * (2 * twoPow l) := by ring
      _ ≤ a * twoPow k := Nat.mul_le_mul (hu.le_bits (by omega)) hspacing
      _ = u := hu.units_eq.symm
  omega

/-- The ends in units of the narrower spacing, where the magnitudes are `a` and `b * 2 ^ j`. -/
theorem scaled_ends_apart {j gap : Nat} (hu : Binade u a k) (hv : Binade v b (k + j))
    (hab : a < b * 2 ^ j)
    (hgap : gap = if b = 2 ^ 52 ∧ 0 < k + j then 2 ^ j else 2 * 2 ^ j) :
    4 * a + 2 + gap ≤ 4 * (b * 2 ^ j) ∧
      (4 * a + 2 + gap = 4 * (b * 2 ^ j) → ¬ (a % 2 = 0 ∧ b % 2 = 0)) := by
  have ha := hu.bits_lt
  rcases Nat.eq_zero_or_pos j with rfl | hj
  · have hhalf : ¬ (b = 2 ^ 52 ∧ 0 < k + 0) := by
      rintro ⟨rfl, hk⟩
      have hbits := hu.le_bits hk
      omega
    rw [hgap, if_neg hhalf]
    omega
  · have hbits := hv.le_bits (by omega)
    have htwo : 2 ^ 1 ≤ 2 ^ j := Nat.pow_le_pow_right (by decide) hj
    by_cases hhalf : b = 2 ^ 52
    · -- The two touch only where all the bits of the lower magnitude are ones.
      rw [hgap, if_pos ⟨hhalf, by omega⟩, hhalf]
      refine ⟨by omega, fun heq heven => ?_⟩
      have hnext : 2 ^ j ≤ 2 := by
        have hle := heq.ge
        clear heq
        omega
      rw [Nat.le_antisymm hnext htwo] at heq
      omega
    · have hmore : (2 ^ 52 + 1) * 2 ^ j ≤ b * 2 ^ j := Nat.mul_le_mul_right _ (by omega)
      rw [hgap, if_neg fun h => hhalf h.1]
      omega

/-- The numbers that round to a magnitude end before those of a greater one begin. Where they touch,
one of the two magnitudes is odd. -/
theorem ends_apart (hu : Binade u a k) (hv : Binade v b l) (huv : u < v) :
    4 * u + gapAbove u + gapBelow v ≤ 4 * v ∧
      (4 * u + gapAbove u + gapBelow v = 4 * v → ¬ (a % 2 = 0 ∧ b % 2 = 0)) := by
  obtain ⟨j, rfl⟩ := Nat.exists_eq_add_of_le (hu.spacing_le hv huv)
  have hspacing : twoPow (k + j) = twoPow k * 2 ^ j := Nat.pow_add 2 k j
  have hab : a < b * 2 ^ j := by
    rw [hu.units_eq, hv.units_eq, hspacing] at huv
    refine Nat.lt_of_mul_lt_mul_right (a := twoPow k) (huv.trans_eq ?_)
    ring
  obtain ⟨gap, hbelow, hgap⟩ : ∃ gap, gapBelow v = gap * twoPow k ∧
      gap = if b = 2 ^ 52 ∧ 0 < k + j then 2 ^ j else 2 * 2 ^ j := by
    refine ⟨_, ?_, rfl⟩
    rw [hv.gapBelow_eq, hspacing]
    split <;> ring
  have hleft : 4 * u + gapAbove u + gapBelow v = (4 * a + 2 + gap) * twoPow k := by
    rw [hu.gapAbove_eq, hbelow]
    nth_rewrite 1 [hu.units_eq]
    ring
  have hright : 4 * v = (4 * (b * 2 ^ j)) * twoPow k := by
    rw [hv.units_eq, hspacing]
    ring
  obtain ⟨happart, htouch⟩ := hu.scaled_ends_apart hv hab hgap
  rw [hleft, hright]
  exact ⟨Nat.mul_le_mul_right _ happart,
    fun heq => htouch (Nat.eq_of_mul_eq_mul_right (twoPow_pos k) heq)⟩

end Binade

/-! ## Rounding -/

/-- A number, in units, that rounds to a magnitude: it lies between the midpoints to the neighbours,
or on one of them if the last bit of the magnitude is zero. -/
structure RoundsTo (q : ℚ) (units : Nat) : Prop where
  low_le : 4 * (units : ℚ) - gapBelow units ≤ 4 * q
  le_high : 4 * q ≤ 4 * (units : ℚ) + gapAbove units
  tie : 4 * q = 4 * (units : ℚ) - gapBelow units ∨ 4 * q = 4 * (units : ℚ) + gapAbove units →
    lastBitZero units = true

theorem RoundsTo.le {q : ℚ} (hu : Representable u) (hv : Representable v) (hu0 : u ≠ 0)
    (hv0 : v ≠ 0) (hqu : RoundsTo q u) (hqv : RoundsTo q v) : v ≤ u := by
  by_contra hlt
  have huv : u < v := Nat.lt_of_not_le hlt
  obtain ⟨a, ha⟩ := hu.exists_binade hu0
  obtain ⟨b, hb⟩ := hv.exists_binade hv0
  obtain ⟨happart, htouch⟩ := ha.ends_apart hb huv
  have hle := hqv.low_le.trans hqu.le_high
  have hends : 4 * (u : ℚ) + gapAbove u + gapBelow v ≤ 4 * v := by exact_mod_cast happart
  have heq : 4 * (u : ℚ) + gapAbove u + gapBelow v = 4 * v := by linarith
  have hlow : 4 * q = 4 * (v : ℚ) - gapBelow v := by linarith [hqu.le_high, hqv.low_le]
  have hhigh : 4 * q = 4 * (u : ℚ) + gapAbove u := by linarith [hqu.le_high, hqv.low_le]
  exact htouch (by exact_mod_cast heq)
    ⟨ha.lastBitZero_iff.mp (hqu.tie (.inr hhigh)), hb.lastBitZero_iff.mp (hqv.tie (.inl hlow))⟩

/-- A number rounds to one magnitude only. -/
theorem RoundsTo.unique {q : ℚ} (hu : Representable u) (hv : Representable v) (hu0 : u ≠ 0)
    (hv0 : v ≠ 0) (hqu : RoundsTo q u) (hqv : RoundsTo q v) : u = v :=
  Nat.le_antisymm (hqv.le hv hu hv0 hu0 hqu) (hqu.le hu hv hu0 hv0 hqv)

/-! ## Decimals of a fixed last place -/

theorem gapBelow_le (hu : u ≠ 0) : gapBelow u ≤ 2 * u := by
  have hlow : 2 ^ u.log2 ≤ u := Nat.log2_self_le hu
  have hspacing : twoPow (u.log2 - 52) ≤ twoPow u.log2 :=
    Nat.pow_le_pow_right (by decide) (by omega)
  have hle : twoPow u.log2 ≤ u := hlow
  rw [gapBelow, gapAbove]
  split <;> omega

theorem cast_tenPow (n : Nat) : (tenPow n : ℚ) = 10 ^ (n : Int) := by
  rw [zpow_natCast]
  exact_mod_cast rfl

/-- Of the two powers for a place, one is one. -/
theorem tenPow_toNat (place : Int) :
    (tenPow place.toNat : ℚ) = 10 ^ place * tenPow (-place).toNat := by
  rw [cast_tenPow, cast_tenPow, ← zpow_add₀ (by norm_num)]
  congr 1
  omega

section Grid

variable {place : Int}

/-- Between two ends, or at one of them if they count. -/
def between (closed : Bool) (low high x : Nat) : Bool :=
  if closed then decide (low ≤ x) && decide (x ≤ high) else decide (low < x) && decide (x < high)

theorem between_of_lt {low high x : Nat} (closed : Bool) (hlow : low < x) (hhigh : x < high) :
    between closed low high x = true := by
  cases closed
  · simp [between, hlow, hhigh]
  · simp [between, hlow.le, hhigh.le]

/-- So many steps of the grid lie in the rounding interval, everything scaled to whole numbers. -/
structure Hits (units : Nat) (place : Int) (count : Nat) : Prop where
  pos : 0 < count
  inside : between (lastBitZero units) ((4 * units - gapBelow units) * tenPow (-place).toNat)
    ((4 * units + gapAbove units) * tenPow (-place).toNat)
    (4 * (count * (tenPow place.toNat * unitsPerOne))) = true

theorem hits_of_gridHit? {d : Decimal} (h : gridHit? u place = some d) :
    Hits u place d.digits ∧ d.exponent = place := by
  unfold gridHit? at h
  obtain ⟨count, hfind, rfl⟩ := Option.map_eq_some_iff.mp h
  have hpos : 0 < count :=
    of_decide_eq_true (List.mem_filter.mp (List.mem_of_find?_eq_some hfind)).2
  have hinside := List.find?_some hfind
  dsimp only at hinside ⊢
  exact ⟨⟨hpos, hinside⟩, rfl⟩

/-- Where the multiple of the grid next below a magnitude rounds to it, some multiple does. -/
theorem isSome_gridHit?
    (h : Hits u place (u * tenPow (-place).toNat / (tenPow place.toNat * unitsPerOne))) :
    (gridHit? u place).isSome = true := by
  unfold gridHit?
  rw [Option.isSome_map, List.find?_isSome]
  refine ⟨_, List.mem_filter.mpr ⟨?_, decide_eq_true h.pos⟩, h.inside⟩
  split
  · exact List.mem_cons_of_mem _ List.mem_cons_self
  · exact List.mem_cons_self

theorem Hits.roundsTo {count : Nat} (h : Hits u place count) (hu : u ≠ 0) :
    RoundsTo ((Decimal.mk count place).value * unitsPerOne) u := by
  set q : ℚ := (Decimal.mk count place).value * unitsPerOne with hq
  have hscale : (0 : ℚ) < tenPow (-place).toNat := by exact_mod_cast tenPow_pos _
  have hgrid : ((4 * (count * (tenPow place.toNat * unitsPerOne)) : Nat) : ℚ) =
      4 * q * tenPow (-place).toNat := by
    rw [hq, Decimal.value]
    push_cast
    rw [tenPow_toNat]
    ring
  have hlow : (((4 * u - gapBelow u) * tenPow (-place).toNat : Nat) : ℚ) =
      (4 * u - gapBelow u) * tenPow (-place).toNat := by
    rw [Nat.cast_mul, Nat.cast_sub ((gapBelow_le hu).trans (by omega))]
    push_cast
    rfl
  have hhigh : (((4 * u + gapAbove u) * tenPow (-place).toNat : Nat) : ℚ) =
      (4 * u + gapAbove u) * tenPow (-place).toNat := by
    push_cast
    rfl
  have hinside := h.inside
  cases heven : lastBitZero u with
  | true =>
    rw [heven, between, if_pos rfl, Bool.and_eq_true, decide_eq_true_eq, decide_eq_true_eq,
      ← Nat.cast_le (α := ℚ), ← Nat.cast_le (α := ℚ), hgrid, hlow, hhigh] at hinside
    exact ⟨le_of_mul_le_mul_right hinside.1 hscale, le_of_mul_le_mul_right hinside.2 hscale,
      fun _ => heven⟩
  | false =>
    rw [heven, between, if_neg (by decide), Bool.and_eq_true, decide_eq_true_eq, decide_eq_true_eq,
      ← Nat.cast_lt (α := ℚ), ← Nat.cast_lt (α := ℚ), hgrid, hlow, hhigh] at hinside
    have hlt := lt_of_mul_lt_mul_right hinside.1 hscale.le
    have hgt := lt_of_mul_lt_mul_right hinside.2 hscale.le
    refine ⟨hlt.le, hgt.le, fun htie => ?_⟩
    rcases htie with htie | htie
    · exact absurd htie hlt.ne'
    · exact absurd htie hgt.ne

end Grid

/-! ## A decimal within eighteen places -/

theorem tenPow_length_le {n : Nat} (hn : 0 < n) :
    tenPow ((Text.decimalDigits n).length - 1) ≤ n := by
  rcases Nat.eq_zero_or_pos ((Text.decimalDigits n).length - 1) with hzero | hpos
  · rw [hzero]
    exact hn
  · have hiff := Nat.length_toDigits_le_iff (n := n) (b := 10) (by decide) hpos
    have hlength : 0 < (Nat.toDigits 10 n).length := Nat.length_toDigits_pos
    by_contra hlt
    have hshort := hiff.mpr (Nat.lt_of_not_le hlt)
    rw [Text.decimalDigits] at hshort
    omega

theorem lt_tenPow_length (n : Nat) : n < tenPow (Text.decimalDigits n).length :=
  (Nat.length_toDigits_le_iff (by decide) Nat.length_toDigits_pos).mp le_rfl

/-- The power of ten of the leading digit is not above the magnitude. -/
theorem leadingExponent_le (hu : u ≠ 0) :
    (10 : ℚ) ^ leadingExponent u * unitsPerOne ≤ u := by
  have hone : 0 < unitsPerOne := twoPow_pos _
  rw [leadingExponent]
  split
  · rename_i hle
    have hpos : 0 < u / unitsPerOne := Nat.div_pos hle hone
    have hlength : 0 < (Text.decimalDigits (u / unitsPerOne)).length := Nat.length_toDigits_pos
    have hexponent : ((Text.decimalDigits (u / unitsPerOne)).length : Int) - 1 =
        ((Text.decimalDigits (u / unitsPerOne)).length - 1 : Nat) := by omega
    have hdigits : tenPow ((Text.decimalDigits (u / unitsPerOne)).length - 1) * unitsPerOne ≤ u :=
      (Nat.mul_le_mul_right _ (tenPow_length_le hpos)).trans (Nat.div_mul_le_self _ _)
    rw [hexponent, ← cast_tenPow]
    exact_mod_cast hdigits
  · have hdigits : unitsPerOne < tenPow (Text.decimalDigits (unitsPerOne / u)).length * u :=
      (Nat.div_lt_iff_lt_mul (Nat.pos_of_ne_zero hu)).mp (lt_tenPow_length _)
    have hpos : (0 : ℚ) < tenPow (Text.decimalDigits (unitsPerOne / u)).length := by
      exact_mod_cast tenPow_pos _
    rw [zpow_neg, ← cast_tenPow, inv_mul_le_iff₀ hpos]
    exact_mod_cast hdigits.le

/-- Seventeen places below the leading digit the grid is finer than the rounding interval. -/
theorem lt_gapBelow (u : Nat) : 4 * u < 10 ^ 17 * gapBelow u := by
  have hhigh : u < 2 ^ (u.log2 + 1) := Nat.lt_log2_self
  have hspacing : 2 ^ (u.log2 - 52) ≤ gapBelow u := by
    change twoPow (u.log2 - 52) ≤ gapBelow u
    rw [gapBelow, gapAbove]
    split <;> omega
  have hbits : 2 ^ (u.log2 + 1) ≤ 2 ^ 53 * 2 ^ (u.log2 - 52) := by
    rw [← Nat.pow_add]
    exact Nat.pow_le_pow_right (by decide) (by omega)
  omega

theorem grid_le {place : Int} (hu : u ≠ 0) (hplace : place = leadingExponent u - 17) :
    10 ^ 17 * (tenPow place.toNat * unitsPerOne) ≤ u * tenPow (-place).toNat := by
  have hlead : (10 : ℚ) ^ leadingExponent u = 10 ^ 17 * 10 ^ place := by
    rw [hplace, zpow_sub₀ (by norm_num)]
    norm_num
    ring
  rw [← Nat.cast_le (α := ℚ)]
  push_cast
  rw [tenPow_toNat]
  calc (10 : ℚ) ^ 17 * (10 ^ place * tenPow (-place).toNat * unitsPerOne)
      = (10 ^ leadingExponent u * unitsPerOne) * tenPow (-place).toNat := by
        rw [hlead]
        ring
    _ ≤ u * tenPow (-place).toNat :=
        mul_le_mul_of_nonneg_right (leadingExponent_le hu) (Nat.cast_nonneg _)

/-- On so fine a grid the multiple next below a magnitude rounds to it. -/
theorem Hits.of_fine {place : Int}
    (hfine : 10 ^ 17 * (tenPow place.toNat * unitsPerOne) ≤ u * tenPow (-place).toNat) :
    Hits u place (u * tenPow (-place).toNat / (tenPow place.toNat * unitsPerOne)) := by
  have hscale : 0 < tenPow (-place).toNat := tenPow_pos _
  have hgrid : 0 < tenPow place.toNat * unitsPerOne := Nat.mul_pos (tenPow_pos _) (twoPow_pos _)
  constructor
  all_goals
    generalize tenPow (-place).toNat = scale at *
    generalize tenPow place.toNat * unitsPerOne = grid at *
  case pos =>
    exact Nat.div_pos (by omega) hgrid
  case inside =>
    have hnarrow : 4 * grid < gapBelow u * scale := by
      have hgap : 4 * u * scale < 10 ^ 17 * gapBelow u * scale :=
        Nat.mul_lt_mul_of_pos_right (lt_gapBelow u) hscale
      rw [Nat.mul_assoc, Nat.mul_assoc] at hgap
      omega
    have hbelow : u * scale / grid * grid ≤ u * scale := Nat.div_mul_le_self _ _
    have habove : u * scale < u * scale / grid * grid + grid := Nat.lt_div_mul_add hgrid
    refine between_of_lt _ ?_ ?_
    · rw [Nat.sub_mul, Nat.mul_assoc]
      omega
    · have hgap : 0 < gapAbove u * scale :=
        Nat.mul_pos (Nat.mul_pos (by decide) (twoPow_pos _)) hscale
      rw [Nat.add_mul, Nat.mul_assoc]
      omega

/-- The shortest decimal of a magnitude rounds to it. -/
theorem shortestDecimal_roundsTo (hu : u ≠ 0) :
    RoundsTo ((shortestDecimal u).value * unitsPerOne) u := by
  have hlast : (gridHit? u (leadingExponent u - 17)).isSome = true :=
    isSome_gridHit? (.of_fine (grid_le hu rfl))
  have hsome : (((List.range 18).map fun (n : Nat) => leadingExponent u - n).findSome?
      (gridHit? u)).isSome = true := by
    rw [List.findSome?_isSome_iff]
    exact ⟨leadingExponent u - 17, List.mem_map.mpr ⟨17, by decide, rfl⟩, hlast⟩
  obtain ⟨d, hd⟩ := Option.isSome_iff_exists.mp hsome
  obtain ⟨place, _, hhit⟩ := List.exists_of_findSome?_eq_some hd
  obtain ⟨hhits, hplace⟩ := hits_of_gridHit? hhit
  unfold shortestDecimal
  simp only [hd, Option.getD_some, Decimal.value_normalize]
  subst hplace
  exact hhits.roundsTo hu

theorem RoundsTo.pos {q : ℚ} (h : RoundsTo q u) (hu : u ≠ 0) : 0 < q := by
  have hgap : (gapBelow u : ℚ) ≤ 2 * u := by exact_mod_cast gapBelow_le hu
  have hpos : (0 : ℚ) < u := by exact_mod_cast Nat.pos_of_ne_zero hu
  linarith [h.low_le]

/-! ## The text of a finite number -/

namespace Finite64

variable {x y : Finite64}

/-- The decimal that the text of a number shows behind its sign. -/
def magnitude (x : Finite64) : Decimal := if x.units = 0 then ⟨0, 0⟩ else shortestDecimal x.units

theorem text_toList (x : Finite64) :
    x.text.toList = if x.negative then '-' :: x.magnitude.text else x.magnitude.text := by
  have hzero : (⟨0, 0⟩ : Decimal).text = ['0', '.', '0'] := by decide
  have hmagnitude : (if x.units = 0 then ['0', '.', '0'] else (shortestDecimal x.units).text) =
      x.magnitude.text := by
    rw [magnitude, apply_ite Decimal.text, hzero]
  rw [text, String.toList_ofList, hmagnitude]

theorem units_eq_of_magnitude (h : x.magnitude.text = y.magnitude.text) : x.units = y.units := by
  have hvalue := Decimal.value_eq_of_text_eq h
  have hone : (0 : ℚ) < unitsPerOne := by exact_mod_cast twoPow_pos unitExponent
  have hpos : ∀ {u}, u ≠ 0 → (0 : ℚ) < (shortestDecimal u).value := fun hu =>
    pos_of_mul_pos_left ((shortestDecimal_roundsTo hu).pos hu) hone.le
  have hzero : (⟨0, 0⟩ : Decimal).value = 0 := by simp [Decimal.value]
  rw [magnitude, magnitude] at hvalue
  by_cases hx : x.units = 0 <;> by_cases hy : y.units = 0
  · rw [hx, hy]
  · rw [if_pos hx, if_neg hy, hzero] at hvalue
    exact absurd hvalue (hpos hy).ne
  · rw [if_neg hx, if_pos hy, hzero] at hvalue
    exact absurd hvalue (hpos hx).ne'
  · rw [if_neg hx, if_neg hy] at hvalue
    refine RoundsTo.unique x.representable y.representable hx hy (shortestDecimal_roundsTo hx) ?_
    rw [hvalue]
    exact shortestDecimal_roundsTo hy

theorem text_injective : Function.Injective text := by
  intro x y h
  have hchars := congrArg String.toList h
  rw [text_toList, text_toList] at hchars
  -- A magnitude starts with a digit, so the sign shows.
  have hsign : ∀ {cs} (d : Decimal), '-' :: cs ≠ d.text := by
    intro cs d hd
    obtain ⟨c, rest, htext, hc⟩ := d.exists_text_eq_cons
    rw [htext] at hd
    injection hd with hd
    rw [← hd] at hc
    cases hc
  obtain ⟨xneg, xunits, hx⟩ := x
  obtain ⟨yneg, yunits, hy⟩ := y
  have hunits : xneg = yneg ∧ xunits = yunits := by
    cases xneg <;> cases yneg
    · exact ⟨rfl, units_eq_of_magnitude hchars⟩
    · exact absurd hchars.symm (hsign _)
    · exact absurd hchars (hsign _)
    · injection hchars with _ hchars
      exact ⟨rfl, units_eq_of_magnitude hchars⟩
  obtain ⟨rfl, rfl⟩ := hunits
  rfl

theorem isNumberChar_of_mem_text {c : Char} (h : c ∈ x.text.toList) :
    Decimal.isNumberChar c = true := by
  rw [text_toList] at h
  split at h
  · rcases List.mem_cons.mp h with rfl | h
    · rfl
    · exact Decimal.isNumberChar_of_mem_text h
  · exact Decimal.isNumberChar_of_mem_text h

/-- The text of a finite number has a point or an exponent. -/
theorem exists_mark (x : Finite64) : ∃ c ∈ x.text.toList, c = '.' ∨ c = 'e' := by
  obtain ⟨c, hc, hmark⟩ := x.magnitude.exists_mark
  refine ⟨c, ?_, hmark⟩
  rw [text_toList]
  split
  · exact List.mem_cons_of_mem _ hc
  · exact hc

end Finite64

end Formwork
