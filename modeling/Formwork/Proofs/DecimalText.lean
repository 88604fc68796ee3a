import Formwork.Number.Literal
import Formwork.Number.Shortest
import Mathlib.Algebra.Order.Field.Power
import Mathlib.Data.List.TakeWhile
import Mathlib.Data.Rat.Defs
import Mathlib.Tactic.FieldSimp
import Mathlib.Tactic.Ring

/-!
# Decimals read back

The text of a decimal is a literal with the value of the decimal. So decimals with one text have
one value, and the text, which always has a point or an exponent, is not the text of an integer.
-/

namespace Formwork

open Text

variable {c : Char} {cs : List Char} {n : Nat}

/-! ## Digits -/

/-- Nothing but decimal digits. -/
def AllDigits (cs : List Char) : Prop := ∀ c ∈ cs, c.isDigit = true

theorem AllDigits.append {cs ds : List Char} (hcs : AllDigits cs) (hds : AllDigits ds) :
    AllDigits (cs ++ ds) := by
  intro c hc
  rcases List.mem_append.mp hc with hc | hc
  · exact hcs c hc
  · exact hds c hc

theorem allDigits_decimalDigits (n : Nat) : AllDigits (decimalDigits n) :=
  fun _ hc => Nat.isDigit_of_mem_toDigits (by decide) (by decide) hc

theorem allDigits_zeros (n : Nat) : AllDigits (List.replicate n '0') := by
  intro c hc
  rw [List.eq_of_mem_replicate hc]
  rfl

theorem ne_of_allDigits {d : Char} (h : AllDigits cs) (hd : d.isDigit = false) :
    ∀ c ∈ cs, (c != d) = true := by
  intro c hc
  rw [bne_iff_ne]
  rintro rfl
  rw [h c hc] at hd
  cases hd

theorem bounds_of_isDigit (h : c.isDigit = true) : 48 ≤ c.toNat ∧ c.toNat ≤ 57 := by
  simpa [Char.isDigit, UInt32.le_iff_toNat_le] using h

theorem digitValue?_of_isDigit (h : c.isDigit = true) : digitValue? c = some (c.toNat - 48) := by
  have hbounds := bounds_of_isDigit h
  rw [digitValue?, if_pos (by omega), if_pos h]

theorem digitValue?_lt {d : Nat} (h : digitValue? c = some d) : d < 10 := by
  rw [digitValue?] at h
  split at h
  · split at h
    · rename_i hdigit
      injection h with h
      have hbounds := bounds_of_isDigit hdigit
      omega
    · cases h
  · obtain ⟨z, hz, rfl⟩ := Option.map_eq_some_iff.mp h
    have hrange := List.find?_some hz
    simp only [Bool.and_eq_true, decide_eq_true_eq] at hrange
    omega

theorem foldl_digits_lt (ds : List Nat) (hds : ∀ d ∈ ds, d < 10) (v : Nat) :
    ds.foldl (fun v d => 10 * v + d) v < (v + 1) * tenPow ds.length := by
  induction ds generalizing v with
  | nil => simp [tenPow]
  | cons d ds ih =>
    rw [List.foldl_cons, List.length_cons, tenPow_succ]
    have hd := hds d List.mem_cons_self
    have hstep := ih (fun d' h => hds d' (List.mem_cons_of_mem d h)) (10 * v + d)
    calc _ < (10 * v + d + 1) * tenPow ds.length := hstep
      _ ≤ (10 * (v + 1)) * tenPow ds.length := Nat.mul_le_mul_right _ (by omega)
      _ = (v + 1) * (10 * tenPow ds.length) := by ring

theorem tenPow_le {m n : Nat} (h : m ≤ n) : tenPow m ≤ tenPow n :=
  Nat.pow_le_pow_right (by decide) h

/-- What digits write is less than the power of ten of their number. -/
theorem digitsValue_lt {ds : List Nat} (hds : ∀ d ∈ ds, d < 10) :
    digitsValue ds < tenPow ds.length := by
  simpa [digitsValue] using foldl_digits_lt ds hds 0

/-- The numbers that digits stand for. -/
def digitNumbers (cs : List Char) : List Nat := cs.map fun c => c.toNat - 48

theorem digitsValue_digitNumbers (cs : List Char) :
    digitsValue (digitNumbers cs) = Nat.ofDigitChars 10 cs 0 := by
  rw [digitsValue, digitNumbers, List.foldl_map, Nat.ofDigitChars]
  rfl

theorem ofDigitChars_decimalDigits (n : Nat) : Nat.ofDigitChars 10 (decimalDigits n) 0 = n :=
  Nat.ofDigitChars_ten_toDigits

/-- Zeros in front do not count. -/
theorem ofDigitChars_zeros_append (n : Nat) (cs : List Char) :
    Nat.ofDigitChars 10 (List.replicate n '0' ++ cs) 0 = Nat.ofDigitChars 10 cs 0 := by
  rw [Nat.ofDigitChars_append, Nat.ofDigitChars_replicate_zero, Nat.mul_zero]

theorem decimalDigits_injective : Function.Injective decimalDigits := by
  intro m n h
  rw [← ofDigitChars_decimalDigits m, h, ofDigitChars_decimalDigits]

namespace Literal

theorem digits_lt_of_digitGroup? {ds : List Nat} (h : digitGroup? cs = some ds) :
    ∀ d ∈ ds, d < 10 := by
  induction cs using digitGroup?.induct generalizing ds with
  | case1 => cases h
  | case2 c rest hnone =>
    rw [digitGroup?.eq_2 _ _ hnone] at h
    cases h
  | case3 c d hd =>
    rw [digitGroup?.eq_3 _ _ hd] at h
    injection h with h
    rw [← h, List.forall_mem_singleton]
    exact digitValue?_lt hd
  | case4 c d more hd ih =>
    rw [digitGroup?.eq_4 _ _ _ hd] at h
    obtain ⟨es, hes, rfl⟩ := Option.map_eq_some_iff.mp h
    exact List.forall_mem_cons.mpr ⟨digitValue?_lt hd, ih hes⟩
  | case5 c d more hne hmore hd ih =>
    rw [digitGroup?.eq_5 _ _ _ hd hne hmore] at h
    obtain ⟨es, hes, rfl⟩ := Option.map_eq_some_iff.mp h
    exact List.forall_mem_cons.mpr ⟨digitValue?_lt hd, ih hes⟩

theorem digitGroup?_of_allDigits (hne : cs ≠ []) (h : AllDigits cs) :
    digitGroup? cs = some (digitNumbers cs) := by
  induction cs with
  | nil => exact absurd rfl hne
  | cons c cs ih =>
    obtain ⟨hc, hcs⟩ := List.forall_mem_cons.mp h
    cases cs with
    | nil => exact digitGroup?.eq_3 c _ (digitValue?_of_isDigit hc)
    | cons d ds =>
      -- A digit is no underscore.
      have hd : ∀ more, d :: ds = '_' :: more → False := by
        intro more hmore
        injection hmore with hmore
        exact absurd (hcs '_' (hmore ▸ List.mem_cons_self)) (by decide)
      rw [digitGroup?.eq_5 c _ _ (digitValue?_of_isDigit hc) (fun h => by cases h) hd,
        ih (by simp) hcs]
      rfl

theorem digitPart?_of_allDigits (h : AllDigits cs) : digitPart? cs = some (digitNumbers cs) := by
  cases cs with
  | nil => rfl
  | cons c cs => exact digitGroup?_of_allDigits (by simp) h

/-! ## Literals -/

/-- What may follow the digits and the point: nothing, or a power of ten. -/
inductive Power : List Char → Int → Prop
  | one : Power [] 0
  | ten {ds : List Char} (negative : Bool) (hne : ds ≠ []) (h : AllDigits ds) :
      Power ('e' :: (if negative then '-' else '+') :: ds) (signed negative (digitNumbers ds))

/-- Digits on both sides of a point, which may be missing when nothing follows it. -/
inductive Mantissa : List Char → List Char → List Char → Prop
  | whole {ds : List Char} (hne : ds ≠ []) (h : AllDigits ds) : Mantissa ds ds []
  | point {ds es : List Char} (hne : ds ≠ []) (hds : AllDigits ds) (hes : AllDigits es) :
      Mantissa (ds ++ '.' :: es) ds es

section Parts

variable {m whole fraction tail : List Char} {power : Int}

theorem takeWhile_append_cons {p : Char → Bool} (h : ∀ d ∈ cs, p d = true) (hp : p c = false)
    (rest : List Char) : (cs ++ c :: rest).takeWhile p = cs := by
  rw [List.takeWhile_append_of_pos h, List.takeWhile_cons, hp]
  simp

theorem dropWhile_append_cons {p : Char → Bool} (h : ∀ d ∈ cs, p d = true) (hp : p c = false)
    (rest : List Char) : (cs ++ c :: rest).dropWhile p = c :: rest := by
  rw [List.dropWhile_append_of_pos h, List.dropWhile_cons, hp]
  simp

theorem Mantissa.whole_eq (h : Mantissa m whole fraction) : m.takeWhile (· != '.') = whole := by
  cases h with
  | whole hne h => exact List.takeWhile_eq_self_iff.mpr (ne_of_allDigits h rfl)
  | point hne hds hes => exact takeWhile_append_cons (ne_of_allDigits hds rfl) rfl _

theorem Mantissa.fraction_eq (h : Mantissa m whole fraction) :
    (m.dropWhile (· != '.')).drop 1 = fraction := by
  cases h with
  | whole hne h =>
    rw [List.dropWhile_eq_nil_iff.mpr (ne_of_allDigits h rfl)]
    rfl
  | point hne hds hes =>
    rw [dropWhile_append_cons (ne_of_allDigits hds rfl) rfl]
    rfl

theorem Mantissa.allDigits (h : Mantissa m whole fraction) :
    AllDigits whole ∧ AllDigits fraction ∧ whole ≠ [] := by
  cases h with
  | whole hne h => exact ⟨h, List.forall_mem_nil _, hne⟩
  | point hne hds hes => exact ⟨hds, hes, hne⟩

/-- Digits and a point hold no mark of a power. -/
theorem Mantissa.noMark (h : Mantissa m whole fraction) :
    ∀ c ∈ m, (!(c == 'e' || c == 'E')) = true := by
  have hdigits : ∀ {ds}, AllDigits ds → ∀ c ∈ ds, (!(c == 'e' || c == 'E')) = true := by
    intro ds hds c hc
    have he := ne_of_allDigits (d := 'e') hds rfl c hc
    have hE := ne_of_allDigits (d := 'E') hds rfl c hc
    rw [Bool.not_or]
    exact Bool.and_eq_true_iff.mpr ⟨he, hE⟩
  cases h with
  | whole hne h => exact hdigits h
  | point hne hds hes =>
    intro c hc
    rcases List.mem_append.mp hc with hc | hc
    · exact hdigits hds c hc
    · rcases List.mem_cons.mp hc with rfl | hc
      · rfl
      · exact hdigits hes c hc

theorem decimal?_of_parts (hm : Mantissa m whole fraction) (htail : Power tail power) :
    decimal? (m ++ tail) =
      some (digitNumbers (whole ++ fraction), power - (fraction.length : Int)) := by
  obtain ⟨hwhole, hfraction, hne⟩ := hm.allDigits
  have hsome : (!(digitNumbers whole ++ digitNumbers fraction).isEmpty) = true := by
    cases whole with
    | nil => exact absurd rfl hne
    | cons c cs => rfl
  have htake : (m ++ tail).takeWhile (fun c => !(c == 'e' || c == 'E')) = m := by
    cases htail with
    | one =>
      rw [List.append_nil]
      exact List.takeWhile_eq_self_iff.mpr hm.noMark
    | ten negative hds h => exact takeWhile_append_cons hm.noMark rfl _
  have hdrop : (m ++ tail).dropWhile (fun c => !(c == 'e' || c == 'E')) = tail := by
    cases htail with
    | one =>
      rw [List.append_nil]
      exact List.dropWhile_eq_nil_iff.mpr hm.noMark
    | ten negative hds h => exact dropWhile_append_cons hm.noMark rfl _
  have hdigits : digitNumbers (whole ++ fraction) =
      digitNumbers whole ++ digitNumbers fraction := List.map_append
  have hlength : (digitNumbers fraction).length = fraction.length := List.length_map _
  unfold decimal?
  simp only [htake, hdrop, hm.whole_eq, hm.fraction_eq, digitPart?_of_allDigits hwhole,
    digitPart?_of_allDigits hfraction, bind, Option.bind, hsome, guard, if_true, pure, hdigits,
    hlength]
  cases htail with
  | one => rfl
  | @ten ds negative hds h =>
    have hsign : sign ((if negative then '-' else '+') :: ds) = (negative, ds) := by
      cases negative <;> rfl
    simp only [hsign, digitGroup?_of_allDigits hds h, Option.map]

end Parts

end Literal

/-! ## The text of a decimal -/

namespace Decimal

/-- The number that a decimal writes. -/
def value (d : Decimal) : ℚ := d.digits * 10 ^ d.exponent

theorem value_normalize (d : Decimal) : d.normalize.value = d.value := by
  fun_induction normalize d with
  | case1 d h => simp [value, h]
  | case2 d h hzero ih =>
    have hdigits : d.digits = d.digits / 10 * 10 := by omega
    calc (normalize ⟨d.digits / 10, d.exponent + 1⟩).value
      _ = (d.digits / 10 : Nat) * 10 ^ (d.exponent + 1) := ih
      _ = (d.digits / 10 * 10 : Nat) * 10 ^ d.exponent := by
        rw [zpow_add₀ (by norm_num), zpow_one, Nat.cast_mul]
        ring
      _ = d.value := by rw [← hdigits, value]
  | case3 d h hzero => rfl

open Literal

/-- A text made of digits, maybe a point, and maybe a power of ten, with the number that it
writes. -/
structure Written (text : List Char) (q : ℚ) (m whole fraction tail : List Char) (power : Int) :
    Prop where
  text_eq : text = m ++ tail
  pointed : Mantissa m whole fraction
  powered : Power tail power
  /-- There is a point or a power. -/
  marked : '.' ∈ m ∨ tail ≠ []
  value_eq :
    (Nat.ofDigitChars 10 (whole ++ fraction) 0 : ℚ) * 10 ^ (power - (fraction.length : Int)) = q

section Forms

variable {d : Decimal} {ds : List Char}

theorem written_whole {k : Nat} (hds : ds = decimalDigits d.digits) (hk : d.exponent = k) :
    Written (ds ++ List.replicate k '0' ++ ['.', '0']) d.value
      (ds ++ List.replicate k '0' ++ ['.', '0']) (ds ++ List.replicate k '0') ['0'] [] 0 where
  text_eq := (List.append_nil _).symm
  pointed := by
    refine .point ?_ ?_ (allDigits_zeros 1)
    · rw [hds]
      exact List.append_ne_nil_of_left_ne_nil Nat.toDigits_ne_nil _
    · exact (hds ▸ allDigits_decimalDigits _).append (allDigits_zeros k)
  powered := .one
  marked := .inl (by simp)
  value_eq := by
    have hdigits : Nat.ofDigitChars 10 (ds ++ List.replicate k '0' ++ ['0']) 0 =
        10 * (10 ^ k * d.digits) := by
      rw [Nat.ofDigitChars_append, Nat.ofDigitChars_append, Nat.ofDigitChars_replicate_zero, hds,
        ofDigitChars_decimalDigits]
      rfl
    rw [hdigits, value, hk]
    push_cast
    norm_num
    ring

theorem written_split {k : Nat} (hds : ds = decimalDigits d.digits) (hk : 0 < k)
    (hlength : (ds.length : Int) = k - d.exponent) (hexponent : d.exponent < 0) :
    Written (ds.take k ++ '.' :: ds.drop k) d.value
      (ds.take k ++ '.' :: ds.drop k) (ds.take k) (ds.drop k) [] 0 where
  text_eq := (List.append_nil _).symm
  pointed := by
    have hall : AllDigits ds := hds ▸ allDigits_decimalDigits _
    refine .point ?_ (fun c hc => hall c (List.mem_of_mem_take hc))
      fun c hc => hall c (List.mem_of_mem_drop hc)
    rw [← List.length_pos_iff, List.length_take]
    omega
  powered := .one
  marked := .inl (by simp)
  value_eq := by
    have hplace : (0 : Int) - (ds.drop k).length = d.exponent := by
      rw [List.length_drop]
      omega
    rw [List.take_append_drop, hplace, hds, ofDigitChars_decimalDigits, value]

theorem written_small {k : Nat} (hds : ds = decimalDigits d.digits)
    (hlength : (k + ds.length : Int) = -d.exponent) :
    Written ('0' :: '.' :: (List.replicate k '0' ++ ds)) d.value
      ('0' :: '.' :: (List.replicate k '0' ++ ds)) ['0'] (List.replicate k '0' ++ ds) [] 0 where
  text_eq := (List.append_nil _).symm
  pointed := @Mantissa.point ['0'] _ (by simp) (allDigits_zeros 1)
    ((allDigits_zeros k).append (hds ▸ allDigits_decimalDigits _))
  powered := .one
  marked := .inl (by simp)
  value_eq := by
    have hplace : (0 : Int) - (List.replicate k '0' ++ ds).length = d.exponent := by
      rw [List.length_append, List.length_replicate]
      omega
    have hdigits : Nat.ofDigitChars 10 (['0'] ++ (List.replicate k '0' ++ ds)) 0 = d.digits := by
      rw [← ofDigitChars_decimalDigits d.digits, ← hds, ← ofDigitChars_zeros_append (k + 1) ds]
      rfl
    rw [hplace, hdigits, value]

/-- The digits of an integer are read as the integer, and zeros in front do not count. -/
theorem signed_digits (n : Int) (k : Nat) :
    signed (decide (n < 0)) (digitNumbers (List.replicate k '0' ++ decimalDigits n.natAbs)) = n := by
  rw [signed, digitsValue_digitNumbers, ofDigitChars_zeros_append, ofDigitChars_decimalDigits]
  by_cases hn : n < 0
  · rw [if_pos (decide_eq_true hn)]
    omega
  · rw [if_neg (by simpa using hn)]
    omega

theorem power_padded (lead : Int) :
    Power ('e' :: (if lead < 0 then '-' else '+') ::
      (List.replicate (2 - (decimalDigits lead.natAbs).length) '0' ++ decimalDigits lead.natAbs))
      lead := by
  have hall := (allDigits_zeros (2 - (decimalDigits lead.natAbs).length)).append
    (allDigits_decimalDigits lead.natAbs)
  have hne : List.replicate (2 - (decimalDigits lead.natAbs).length) '0' ++
      decimalDigits lead.natAbs ≠ [] :=
    List.append_ne_nil_of_right_ne_nil _ Nat.toDigits_ne_nil
  have hpower := Power.ten (decide (lead < 0)) hne hall
  rw [signed_digits] at hpower
  simpa using hpower

theorem written_power {mantissa : List Char} {lead : Int} (hds : ds = decimalDigits d.digits)
    (hlead : lead = d.exponent + ds.length - 1)
    (hmantissa : (∃ c, ds = [c] ∧ mantissa = [c]) ∨
      ∃ c rest, ds = c :: rest ∧ mantissa = c :: '.' :: rest) :
    ∃ whole fraction tail power,
      Written (mantissa ++ 'e' :: (if lead < 0 then '-' else '+') ::
        (List.replicate (2 - (decimalDigits lead.natAbs).length) '0' ++ decimalDigits lead.natAbs))
        d.value mantissa whole fraction tail power := by
  have hall : AllDigits ds := hds ▸ allDigits_decimalDigits _
  have hdigits : Nat.ofDigitChars 10 ds 0 = d.digits := hds ▸ ofDigitChars_decimalDigits _
  rcases hmantissa with ⟨c, hc, rfl⟩ | ⟨c, rest, hc, rfl⟩
  · refine ⟨[c], [], _, lead, rfl, .whole (by simp) (hc ▸ hall), power_padded lead, .inr (by simp),
      ?_⟩
    have hplace : lead - (([] : List Char).length : Int) = d.exponent := by
      rw [hlead, hc]
      simp
    rw [hplace, List.append_nil, ← hc, hdigits, value]
  · obtain ⟨hhead, hrest⟩ := List.forall_mem_cons.mp (hc ▸ hall)
    refine ⟨[c], rest, _, lead, rfl,
      @Mantissa.point [c] _ (by simp) (List.forall_mem_singleton.mpr hhead) hrest,
      power_padded lead, .inr (by simp), ?_⟩
    have hplace : lead - (rest.length : Int) = d.exponent := by
      rw [hlead, hc, List.length_cons]
      omega
    rw [hplace, List.singleton_append, ← hc, hdigits, value]

end Forms

/-- The text of a decimal writes its value. -/
theorem exists_written (d : Decimal) :
    ∃ m whole fraction tail power, Written d.text d.value m whole fraction tail power := by
  have hlength : 0 < (decimalDigits d.digits).length := Nat.length_toDigits_pos
  unfold text
  simp only [Bool.and_eq_true, decide_eq_true_eq]
  split
  · rename_i hlead
    split
    · rename_i hexponent
      exact ⟨_, _, _, _, _, written_whole rfl (by omega)⟩
    · rename_i hexponent
      split
      · exact ⟨_, _, _, _, _, written_split rfl (by omega) (by omega) (by omega)⟩
      · exact ⟨_, _, _, _, _, written_small rfl (by omega)⟩
  · refine ⟨_, written_power rfl rfl ?_⟩
    cases hds : decimalDigits d.digits with
    | nil =>
      rw [hds] at hlength
      cases hlength
    | cons c rest =>
      cases rest with
      | nil => exact .inl ⟨c, rfl, rfl⟩
      | cons d rest => exact .inr ⟨c, d :: rest, rfl, rfl⟩

/-- Decimals with one text have one value: a literal is read in one way. -/
theorem value_eq_of_text_eq {d e : Decimal} (h : d.text = e.text) : d.value = e.value := by
  obtain ⟨m, whole, fraction, tail, power, hd⟩ := d.exists_written
  obtain ⟨m', whole', fraction', tail', power', he⟩ := e.exists_written
  have hread := decimal?_of_parts hd.pointed hd.powered
  rw [← hd.text_eq, h, he.text_eq, decimal?_of_parts he.pointed he.powered] at hread
  injection hread with hread
  obtain ⟨hdigits, hplace⟩ := Prod.mk.inj hread
  have hvalues : Nat.ofDigitChars 10 (whole' ++ fraction') 0 =
      Nat.ofDigitChars 10 (whole ++ fraction) 0 := by
    rw [← digitsValue_digitNumbers, hdigits, digitsValue_digitNumbers]
  rw [← hd.value_eq, ← he.value_eq, hvalues, hplace]

/-- What numbers are written with. -/
def isNumberChar (c : Char) : Bool :=
  c.isDigit || c == '.' || c == 'e' || c == '-' || c == '+'

theorem isNumberChar_of_mem_text {d : Decimal} (h : c ∈ d.text) : isNumberChar c = true := by
  obtain ⟨m, whole, fraction, tail, power, hd⟩ := d.exists_written
  have hdigit : ∀ {cs}, AllDigits cs → c ∈ cs → isNumberChar c = true := by
    intro cs hcs hc
    rw [isNumberChar, hcs c hc]
    rfl
  rw [hd.text_eq, List.mem_append] at h
  rcases h with h | h
  · cases hd.pointed with
    | whole hne hall => exact hdigit hall h
    | point hne hds hes =>
      rw [List.mem_append, List.mem_cons] at h
      rcases h with h | rfl | h
      · exact hdigit hds h
      · rfl
      · exact hdigit hes h
  · cases hd.powered with
    | one => cases h
    | ten negative hne hall =>
      rw [List.mem_cons, List.mem_cons] at h
      rcases h with rfl | rfl | h
      · rfl
      · cases negative <;> rfl
      · exact hdigit hall h

/-- No text of a decimal is all digits. -/
theorem exists_mark (d : Decimal) : ∃ c ∈ d.text, c = '.' ∨ c = 'e' := by
  obtain ⟨m, whole, fraction, tail, power, hd⟩ := d.exists_written
  rw [hd.text_eq]
  rcases hd.marked with hpoint | htail
  · exact ⟨'.', List.mem_append_left _ hpoint, .inl rfl⟩
  · cases hd.powered with
    | one => exact absurd rfl htail
    | ten negative hne hall =>
      exact ⟨'e', List.mem_append_right _ List.mem_cons_self, .inr rfl⟩

theorem exists_text_eq_cons (d : Decimal) : ∃ c cs, d.text = c :: cs ∧ c.isDigit = true := by
  obtain ⟨m, whole, fraction, tail, power, hd⟩ := d.exists_written
  rw [hd.text_eq]
  cases hd.pointed with
  | whole hne hall =>
    obtain ⟨c, cs, rfl⟩ := List.exists_cons_of_ne_nil hne
    exact ⟨c, cs ++ tail, rfl, hall c List.mem_cons_self⟩
  | @point ds es hne hds hes =>
    obtain ⟨c, cs, rfl⟩ := List.exists_cons_of_ne_nil hne
    exact ⟨c, cs ++ '.' :: fraction ++ tail, rfl, hds c List.mem_cons_self⟩

end Decimal

end Formwork
