import Formwork.Form.Visibility
import Formwork.Proofs.Equality
import Mathlib.Algebra.Order.Field.Rat
import Mathlib.Tactic.FieldSimp
import Mathlib.Tactic.Positivity

/-!
# The order of numeric conditions

An integer or a binary64 number is a rational, and a value has the rational of the number that it is
or writes, if any. `greater_iff`: a value is greater than another exactly if both have one and these
are in that order, so that nothing is lost to rounding whichever the kinds of the numbers. The laws
of the order are those of the rationals; what is strictly equal has the same rational or none.
-/

namespace Formwork

-- Unfolded, the power of two is compared with literals digit by digit.
attribute [local irreducible] unitsPerOne unitExponent

namespace Number

/-- The number itself: an integer as it is, and a binary64 number as a multiple of `2^-1074`. -/
def exact : Number → ℚ
  | whole n => n
  | real x => x.scaled / 2 ^ unitExponent

theorem cast_unitsPerOne : (unitsPerOne : ℚ) = 2 ^ unitExponent := by
  unfold unitsPerOne twoPow
  exact Nat.cast_pow 2 unitExponent

theorem scaled_eq (a : Number) : (a.scaled : ℚ) = a.exact * 2 ^ unitExponent := by
  cases a with
  | whole n =>
    show ((n * unitsPerOne : Int) : ℚ) = n * 2 ^ unitExponent
    rw [Int.cast_mul, Int.cast_natCast, cast_unitsPerOne]
  | real x =>
    show (x.scaled : ℚ) = x.scaled / 2 ^ unitExponent * 2 ^ unitExponent
    rw [div_mul_cancel₀]
    positivity

/-- The units keep the order of the numbers. -/
theorem lt_iff {a b : Number} : a.lt b = true ↔ a.exact < b.exact := by
  have hpos : (0 : ℚ) < 2 ^ unitExponent := by positivity
  rw [lt, decide_eq_true_iff, ← Int.cast_lt (R := ℚ), scaled_eq, scaled_eq]
  exact mul_lt_mul_iff_left₀ hpos

end Number

namespace Value

variable {v w : Value}

/-- The exact number that a value is or writes, if any. -/
def measure? (v : Value) : Option ℚ := v.toNumber?.map Number.exact

theorem greater_iff :
    v.greater w = true ↔ ∃ q r, v.measure? = some q ∧ w.measure? = some r ∧ r < q := by
  unfold greater measure?
  cases v.toNumber? <;> cases w.toNumber? <;> simp [Number.lt_iff]

theorem less_eq_greater (v w : Value) : v.less w = w.greater v := by
  unfold less greater
  cases v.toNumber? <;> cases w.toNumber? <;> rfl

/-! ## Equal values -/

/-- The exact number of a content. -/
def Scalar.measure? : Scalar → Option ℚ
  | .text s => (Number.read? s).map Number.exact
  | .units n => some (n / 2 ^ unitExponent)
  | _ => none

/-- The number of a value that is no Boolean can be told from its content. -/
theorem measure?_eq (v : Value) :
    v.measure? = if v.isBool then none else v.scalar?.bind Scalar.measure? := by
  match v with
  | int n =>
    have hunits : (Number.whole n).exact = (Number.whole n).scaled / 2 ^ unitExponent := by
      rw [Number.scaled_eq]
      field_simp
    exact congrArg some hunits
  | bool _ | text _ | float (.finite _) | float (.infinite _) | float (.nan _) => rfl
  | null | missing | date _ | dateTime _ | list _ | tuple _ | set _ | object _ => rfl

theorem scalar?_eq_of_eqv (h : eqv v w = true) : v.scalar? = w.scalar? := by
  cases hv : v.isContainer with
  | true => rw [scalar?_eq_none hv, scalar?_eq_none (isContainer_eq_of_eqv h ▸ hv)]
  | false =>
    obtain ⟨k, hv, hw⟩ := sameContent_of_eqv hv h
    rw [hv, hw]

/-- What is strictly equal has the same number, or neither has one. -/
theorem measure?_of_strictEq (h : v.strictEq w = true) : v.measure? = w.measure? := by
  obtain ⟨hbool, -, heqv⟩ := strictEq_iff.mp h
  rw [measure?_eq, measure?_eq, hbool, scalar?_eq_of_eqv heqv]

end Value

/-! ## The laws of the tests -/

/-- Exactly one of three. -/
def OneOf (p q r : Prop) : Prop := (p ∧ ¬ q ∧ ¬ r) ∨ (¬ p ∧ q ∧ ¬ r) ∨ (¬ p ∧ ¬ q ∧ r)

theorem oneOf_compare (q r : ℚ) : OneOf (r < q) (q < r) (q = r) := by
  rcases lt_trichotomy q r with h | h | h
  · exact Or.inr (Or.inl ⟨h.not_gt, h, h.ne⟩)
  · exact Or.inr (Or.inr ⟨h.not_gt, h.not_lt, h⟩)
  · exact Or.inl ⟨h, h.not_gt, h.ne'⟩

section Tests

open Operator

variable {a b c : Value} {q r : ℚ}

theorem lessThan_holds (a b : Value) : lessThan.holds a b = greaterThan.holds b a :=
  Value.less_eq_greater a b

theorem greaterThan_holds_iff :
    greaterThan.holds a b = true ↔ ∃ q r, a.measure? = some q ∧ b.measure? = some r ∧ r < q :=
  Value.greater_iff

theorem greaterThan_holds_of_measure (ha : a.measure? = some q) (hb : b.measure? = some r) :
    greaterThan.holds a b = true ↔ r < q := by
  simp [greaterThan_holds_iff, ha, hb]

theorem greaterThan_irrefl (a : Value) : greaterThan.holds a a = false := by
  by_contra h
  obtain ⟨q, r, hq, hr, hlt⟩ := greaterThan_holds_iff.mp (eq_true_of_ne_false h)
  rw [hq] at hr
  injection hr with hr
  exact lt_irrefl q (hr ▸ hlt)

theorem greaterThan_trans (hab : greaterThan.holds a b = true)
    (hbc : greaterThan.holds b c = true) : greaterThan.holds a c = true := by
  obtain ⟨q, r, ha, hb, hrq⟩ := greaterThan_holds_iff.mp hab
  obtain ⟨r', s, hb', hc, hsr⟩ := greaterThan_holds_iff.mp hbc
  rw [hb] at hb'
  injection hb' with hr
  exact greaterThan_holds_iff.mpr ⟨q, s, ha, hc, (hr ▸ hsr).trans hrq⟩

/-- Values with the same number are not greater than one another. -/
theorem greaterThan_of_measure_eq (h : a.measure? = b.measure?) :
    greaterThan.holds a b = false := by
  by_contra hgreater
  obtain ⟨q, r, hq, hr, hlt⟩ := greaterThan_holds_iff.mp (eq_true_of_ne_false hgreater)
  rw [← h, hq] at hr
  injection hr with hr
  exact lt_irrefl q (hr ▸ hlt)

theorem greaterThan_of_no_number (h : a.toNumber? = none ∨ b.toNumber? = none) :
    greaterThan.holds a b = false := by
  by_contra hgreater
  obtain ⟨q, r, hq, hr, -⟩ := greaterThan_holds_iff.mp (eq_true_of_ne_false hgreater)
  rcases h with h | h
  · rw [Value.measure?, h] at hq
    cases hq
  · rw [Value.measure?, h] at hr
    cases hr

/-- A condition that tests a field for a greater or a less value tests the value entered for it. The
two tests are converse to each other and make a strict order, which leaves apart what is strictly
equal. Of two values with numbers exactly one is the greater, or
their exact numbers are equal; a value without one is neither greater nor less than any. -/
theorem numeric_order (a b c : Value) :
    (∀ (answers : Answers) (id : String), answers.get id = a →
      (Condition.leaf id greaterThan b).holds answers = greaterThan.holds a b ∧
      (Condition.leaf id lessThan b).holds answers = lessThan.holds a b) ∧
    greaterThan.holds a b = lessThan.holds b a ∧
    greaterThan.holds a a = false ∧
    (greaterThan.holds a b = true → greaterThan.holds b c = true →
      greaterThan.holds a c = true) ∧
    ¬ (greaterThan.holds a b = true ∧ lessThan.holds a b = true) ∧
    (a.strictEq b = true → greaterThan.holds a b = false ∧ lessThan.holds a b = false) ∧
    (∀ m n, a.toNumber? = some m → b.toNumber? = some n →
      (greaterThan.holds a b = true ↔ n.exact < m.exact) ∧
      (lessThan.holds a b = true ↔ m.exact < n.exact) ∧
      OneOf (greaterThan.holds a b = true) (lessThan.holds a b = true) (m.exact = n.exact)) ∧
    (a.toNumber? = none ∨ b.toNumber? = none →
      greaterThan.holds a b = false ∧ lessThan.holds a b = false) := by
  rw [lessThan_holds b a, lessThan_holds a b]
  refine ⟨?_, rfl, greaterThan_irrefl a, greaterThan_trans, ?_, ?_, ?_, ?_⟩
  · rintro answers id rfl
    exact ⟨rfl, lessThan_holds _ b⟩
  · rintro ⟨hab, hba⟩
    have haa := greaterThan_trans hab hba
    rw [greaterThan_irrefl] at haa
    cases haa
  · intro heq
    have hmeasure := Value.measure?_of_strictEq heq
    exact ⟨greaterThan_of_measure_eq hmeasure, greaterThan_of_measure_eq hmeasure.symm⟩
  · intro m n hm hn
    have ha : a.measure? = some m.exact := congrArg (Option.map _) hm
    have hb : b.measure? = some n.exact := congrArg (Option.map _) hn
    rw [greaterThan_holds_of_measure ha hb, greaterThan_holds_of_measure hb ha]
    exact ⟨Iff.rfl, Iff.rfl, oneOf_compare m.exact n.exact⟩
  · intro h
    exact ⟨greaterThan_of_no_number h, greaterThan_of_no_number h.symm⟩

/-- An integer beyond `2^53` is greater than the decimal one below it, which is greater than zero. -/
theorem numeric_order_beyond_doubles :
    greaterThan.holds (.int 9007199254740993) (.text "9007199254740992.0") = true ∧
    greaterThan.holds (.text "9007199254740992.0") (.float .zero) = true ∧
    greaterThan.holds (.int 9007199254740993) (.float .zero) = true := by
  have hab : greaterThan.holds (.int 9007199254740993) (.text "9007199254740992.0") = true := by
    decide +kernel
  have hbc : greaterThan.holds (.text "9007199254740992.0") (.float .zero) = true := by
    decide +kernel
  exact ⟨hab, hbc, (numeric_order _ _ _).2.2.2.1 hab hbc⟩

end Tests

end Formwork
