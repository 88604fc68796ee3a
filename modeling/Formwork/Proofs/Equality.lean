import Formwork.Proofs.Entries
import Formwork.Value.Equality
import Mathlib.Data.List.Forall2

/-!
# Equality of values

Below the containers two values are equal exactly when they have the same content, `scalar?`: texts
and dates as they are, numbers and Booleans by magnitude, times by instant or clock. Equality of
contents is symmetric and transitive as any equality is, so the containers are what is to prove.

Strict equality is this equality between values that are both Booleans or both none, and it never
holds of a NaN.
-/

namespace Formwork.Value

theorem unitsPerOne_ne_zero : unitsPerOne ≠ 0 := Nat.ne_of_gt (twoPow_pos unitExponent)

-- Unfolded, the power of two is compared with literals digit by digit.
attribute [local irreducible] unitsPerOne

/-! ## Induction -/

/-- What holds of every value that holds no others, and of every container whose members it holds
of, holds of all values. -/
@[elab_as_elim]
theorem nested_induction {P : Value → Prop} (ofScalar : ∀ v, v.isContainer = false → P v)
    (ofList : ∀ xs, (∀ x ∈ xs, P x) → P (list xs))
    (ofTuple : ∀ xs, (∀ x ∈ xs, P x) → P (tuple xs))
    (ofSet : ∀ xs, (∀ x ∈ xs, P x) → P (set xs))
    (ofObject : ∀ es, (∀ e ∈ es, P e.2) → P (object es)) (v : Value) : P v :=
  match v with
  | .list xs => ofList xs fun x _ => nested_induction ofScalar ofList ofTuple ofSet ofObject x
  | .tuple xs => ofTuple xs fun x _ => nested_induction ofScalar ofList ofTuple ofSet ofObject x
  | .set xs => ofSet xs fun x _ => nested_induction ofScalar ofList ofTuple ofSet ofObject x
  | .object es => ofObject es fun e _ =>
    nested_induction ofScalar ofList ofTuple ofSet ofObject e.2
  | .null => ofScalar _ rfl
  | .bool _ => ofScalar _ rfl
  | .int _ => ofScalar _ rfl
  | .float _ => ofScalar _ rfl
  | .text _ => ofScalar _ rfl
  | .date _ => ofScalar _ rfl
  | .dateTime _ => ofScalar _ rfl
  | .missing => ofScalar _ rfl
termination_by sizeOf v
decreasing_by
  all_goals rename_i h
  all_goals have hlt := List.sizeOf_lt_of_mem h
  · rw [list.sizeOf_spec]
    omega
  · rw [tuple.sizeOf_spec]
    omega
  · rw [set.sizeOf_spec]
    omega
  · obtain ⟨k, x⟩ := e
    rw [Prod.mk.sizeOf_spec] at hlt
    rw [object.sizeOf_spec]
    show sizeOf x < _
    omega

/-! ## Values inside a value -/

/-- The second value is the first, or stands inside it at some depth. -/
inductive Holds : Value → Value → Prop
  | self (v : Value) : Holds v v
  | list {xs : List Value} {x w : Value} (hx : x ∈ xs) (h : Holds x w) : Holds (.list xs) w
  | tuple {xs : List Value} {x w : Value} (hx : x ∈ xs) (h : Holds x w) : Holds (.tuple xs) w
  | set {xs : List Value} {x w : Value} (hx : x ∈ xs) (h : Holds x w) : Holds (.set xs) w
  | object {es : List (String × Value)} {e : String × Value} {w : Value} (he : e ∈ es)
      (h : Holds e.2 w) : Holds (.object es) w

theorem Holds.trans {u v w : Value} (huv : u.Holds v) (hvw : v.Holds w) : u.Holds w := by
  induction huv with
  | self => exact hvw
  | list hx _ ih => exact .list hx (ih hvw)
  | tuple hx _ ih => exact .tuple hx (ih hvw)
  | set hx _ ih => exact .set hx (ih hvw)
  | object he _ ih => exact .object he (ih hvw)

theorem holds_scalar_iff {v w : Value} (h : v.isContainer = false) : v.Holds w ↔ w = v := by
  constructor
  · intro hw
    cases hw
    case self => rfl
    all_goals cases h
  · rintro rfl
    exact .self w

theorem holds_list_iff {xs : List Value} {w : Value} :
    (list xs).Holds w ↔ w = list xs ∨ ∃ x ∈ xs, x.Holds w := by
  constructor
  · rintro (_ | ⟨hx, h⟩)
    · exact Or.inl rfl
    · exact Or.inr ⟨_, hx, h⟩
  · rintro (rfl | ⟨x, hx, h⟩)
    · exact .self _
    · exact .list hx h

/-! ## Values that hold no others -/

/-- What is compared of a value that holds no others. -/
inductive Scalar where
  | null
  | missing
  | text (s : String)
  | date (d : Date)
  /-- The instant of a time with an offset, or what the clock shows. -/
  | time (instant : Option Int) (clock : Nat)
  /-- A finite number in units of `2^-1074`. -/
  | units (n : Int)
  | infinite (negative : Bool)
  | nan (mark : Nat)

/-- The content of a value that holds no others. -/
def scalar? : Value → Option Scalar
  | null => some .null
  | missing => some .missing
  | text s => some (.text s)
  | date d => some (.date d)
  | dateTime t => some (.time (t.offset.map t.instant) (if t.offset.isSome then 0 else t.wallClock))
  | float (.infinite negative) => some (.infinite negative)
  | float (.nan mark) => some (.nan mark)
  | v => v.magnitude?.map .units

theorem scalar?_eq_none {v : Value} (h : v.isContainer = true) : v.scalar? = none := by
  match v with
  | list _ | tuple _ | set _ | object _ => rfl
  | null | bool _ | int _ | float _ | text _ | date _ | dateTime _ | missing =>
    simp [isContainer] at h

theorem scalar?_eq_units_iff {v : Value} {n : Int} :
    v.scalar? = some (.units n) ↔ v.magnitude? = some n := by
  match v with
  | bool _ | int _ | float (.finite _) | float (.infinite _) | float (.nan _) =>
    simp [scalar?, magnitude?]
  | null | missing | text _ | date _ | dateTime _ => simp [scalar?, magnitude?]
  | list _ | tuple _ | set _ | object _ => simp [scalar?, magnitude?]

theorem dateTime_eqv_iff {t u : DateTime} :
    t.eqv u = true ↔ (dateTime t).scalar? = (dateTime u).scalar? := by
  unfold DateTime.eqv
  rcases ht : t.offset with _ | x <;> rcases hu : u.offset with _ | y <;>
    simp [scalar?, ht, hu]

theorem float_eqv_iff {x y : Binary64} :
    (x == y || floatEqv x y) = true ↔ (float x).scalar? = (float y).scalar? := by
  match x, y with
  | .finite x, .finite y =>
    simp only [floatEqv, scalar?, magnitude?, Option.map_some, Bool.or_eq_true, beq_iff_eq,
      Option.some.injEq, Scalar.units.injEq]
    refine ⟨?_, Or.inr⟩
    rintro (h | h)
    · injection h with h
      rw [h]
    · exact h
  | .finite _, .infinite _ | .finite _, .nan _ => simp [floatEqv, scalar?, magnitude?]
  | .infinite _, .finite _ | .infinite _, .infinite _ | .infinite _, .nan _ =>
    simp [floatEqv, scalar?, magnitude?]
  | .nan _, .finite _ | .nan _, .infinite _ | .nan _, .nan _ =>
    simp [floatEqv, scalar?, magnitude?]

/-- Equal in content: both have one, and it is the same. -/
def SameContent (v w : Value) : Prop := ∃ k, v.scalar? = some k ∧ w.scalar? = some k

theorem sameContent_iff {v w : Value} {k : Scalar} (h : v.scalar? = some k) :
    SameContent v w ↔ v.scalar? = w.scalar? := by
  constructor
  · rintro ⟨k', hv, hw⟩
    rw [hv, hw]
  · exact fun hvw => ⟨k, h, hvw ▸ h⟩

theorem not_sameContent {v w : Value} (h : v.isContainer = true ∨ w.isContainer = true) :
    ¬ SameContent v w := by
  rintro ⟨k, hv, hw⟩
  rcases h with h | h
  · rw [scalar?_eq_none h] at hv
    cases hv
  · rw [scalar?_eq_none h] at hw
    cases hw

/-- Numbers have the same content where their magnitudes are equal. -/
theorem magnitudes_iff {v w : Value} {n : Int} (h : v.magnitude? = some n) :
    (match v.magnitude?, w.magnitude? with
      | some a, some b => a == b
      | _, _ => false) = true ↔ SameContent v w := by
  have hv := scalar?_eq_units_iff.mpr h
  rw [sameContent_iff hv, hv, eq_comm (a := some _), scalar?_eq_units_iff, h]
  cases w.magnitude? with
  | none => simp
  | some m =>
    rw [beq_iff_eq, Option.some.injEq]
    exact eq_comm

/-- Equal below the containers is equal in content. -/
theorem scalarEqv_iff {v w : Value} : scalarEqv v w = true ↔ SameContent v w := by
  match v with
  | bool _ | int _ => exact magnitudes_iff rfl
  | list _ | tuple _ | set _ | object _ =>
    exact iff_of_false (by simp [scalarEqv, magnitude?]) (not_sameContent (Or.inl rfl))
  | null | missing | text _ | date _ =>
    rw [sameContent_iff rfl]
    rcases w with _ | _ | _ | (_ | _ | _) | _ | _ | _ | _ | _ | _ | _ | _ <;>
      simp [scalarEqv, scalar?, magnitude?]
  | dateTime t =>
    rw [sameContent_iff rfl]
    rcases w with _ | _ | _ | (_ | _ | _) | _ | _ | u | _ | _ | _ | _ | _
    case dateTime => exact dateTime_eqv_iff
    all_goals simp [scalarEqv, scalar?, magnitude?]
  | float (.finite _) | float (.infinite _) | float (.nan _) =>
    rw [sameContent_iff rfl]
    cases w
    case float => rw [scalarEqv, float_eqv_iff]
    all_goals simp [scalarEqv, scalar?, magnitude?]

/-! ## Containers -/

theorem eqv_of_scalar {v w : Value} (h : v.isContainer = false) : eqv v w = scalarEqv v w := by
  match v with
  | null | bool _ | int _ | float _ | text _ | date _ | dateTime _ | missing => simp [eqv]
  | list _ | tuple _ | set _ | object _ => simp [isContainer] at h

theorem eqvAll_iff {xs ys : List Value} :
    eqvAll xs ys = true ↔ List.Forall₂ (fun x y => eqv x y = true) xs ys := by
  induction xs generalizing ys with
  | nil => cases ys <;> simp [eqvAll]
  | cons x xs ih => cases ys <;> simp [eqvAll, ih]

theorem eqvEach_iff {xs ys : List Value} :
    eqvEach xs ys = true ↔ ∀ x ∈ xs, ∃ y ∈ ys, eqv x y = true := by
  induction xs with
  | nil => simp [eqvEach]
  | cons x xs ih => simp [eqvEach, ih]

theorem eqvEntries_iff {xs ys : List (String × Value)} :
    eqvEntries xs ys = true ↔ ∀ e ∈ xs, ∃ y, ys.lookup e.1 = some y ∧ eqv e.2 y = true := by
  induction xs with
  | nil => simp [eqvEntries]
  | cons e xs ih =>
    obtain ⟨k, x⟩ := e
    simp [eqvEntries, ih, Option.any_eq_true]

theorem eqv_list_iff {xs : List Value} {w : Value} :
    eqv (list xs) w = true ↔
      ∃ ys, w = list ys ∧ List.Forall₂ (fun x y => eqv x y = true) xs ys := by
  cases w <;> simp [eqv, scalarEqv, magnitude?, eqvAll_iff]

theorem eqv_tuple_iff {xs : List Value} {w : Value} :
    eqv (tuple xs) w = true ↔
      ∃ ys, w = tuple ys ∧ List.Forall₂ (fun x y => eqv x y = true) xs ys := by
  cases w <;> simp [eqv, scalarEqv, magnitude?, eqvAll_iff]

theorem eqv_set_iff {xs : List Value} {w : Value} :
    eqv (set xs) w = true ↔
      ∃ ys, w = set ys ∧ xs.length = ys.length ∧ ∀ x ∈ xs, ∃ y ∈ ys, eqv x y = true := by
  cases w <;> simp [eqv, scalarEqv, magnitude?, eqvEach_iff]

theorem eqv_object_iff {xs : List (String × Value)} {w : Value} :
    eqv (object xs) w = true ↔
      ∃ ys, w = object ys ∧ xs.length = ys.length ∧
        ∀ e ∈ xs, ∃ y, ys.lookup e.1 = some y ∧ eqv e.2 y = true := by
  cases w <;> simp [eqv, scalarEqv, magnitude?, eqvEntries_iff]

/-- What equals a value that holds no others holds none either. -/
theorem sameContent_of_eqv {v w : Value} (h : v.isContainer = false) (hvw : eqv v w = true) :
    SameContent v w := by
  rw [eqv_of_scalar h] at hvw
  exact scalarEqv_iff.mp hvw

theorem SameContent.trans {u v w : Value} (huv : SameContent u v) (hvw : SameContent v w) :
    SameContent u w := by
  obtain ⟨k, hu, hv⟩ := huv
  obtain ⟨k', hv', hw⟩ := hvw
  rw [hv] at hv'
  injection hv' with hk
  exact ⟨k, hu, hk ▸ hw⟩

theorem forall₂_trans {xs ys zs : List Value}
    (htrans : ∀ x ∈ xs, ∀ y z, eqv x y = true → eqv y z = true → eqv x z = true)
    (hxy : List.Forall₂ (fun x y => eqv x y = true) xs ys)
    (hyz : List.Forall₂ (fun x y => eqv x y = true) ys zs) :
    List.Forall₂ (fun x y => eqv x y = true) xs zs := by
  induction hxy generalizing zs with
  | nil => exact hyz
  | cons hx _ ih =>
    cases hyz with
    | cons hy hyz =>
      refine .cons (htrans _ List.mem_cons_self _ _ hx hy) (ih ?_ hyz)
      exact fun x hx => htrans x (List.mem_cons_of_mem _ hx)

theorem eqv_trans {u v w : Value} (huv : eqv u v = true) (hvw : eqv v w = true) :
    eqv u w = true := by
  induction u using nested_induction generalizing v w with
  | ofScalar u hu =>
    have hcontent := sameContent_of_eqv hu huv
    have hv : v.isContainer = false := by
      by_contra hv
      exact not_sameContent (Or.inr (by simpa using hv)) hcontent
    rw [eqv_of_scalar hu, scalarEqv_iff]
    exact hcontent.trans (sameContent_of_eqv hv hvw)
  | ofList xs ih =>
    obtain ⟨ys, rfl, hxy⟩ := eqv_list_iff.mp huv
    obtain ⟨zs, rfl, hyz⟩ := eqv_list_iff.mp hvw
    exact eqv_list_iff.mpr ⟨zs, rfl, forall₂_trans (fun x hx _ _ => ih x hx) hxy hyz⟩
  | ofTuple xs ih =>
    obtain ⟨ys, rfl, hxy⟩ := eqv_tuple_iff.mp huv
    obtain ⟨zs, rfl, hyz⟩ := eqv_tuple_iff.mp hvw
    exact eqv_tuple_iff.mpr ⟨zs, rfl, forall₂_trans (fun x hx _ _ => ih x hx) hxy hyz⟩
  | ofSet xs ih =>
    obtain ⟨ys, rfl, hlen, hxy⟩ := eqv_set_iff.mp huv
    obtain ⟨zs, rfl, hlen', hyz⟩ := eqv_set_iff.mp hvw
    refine eqv_set_iff.mpr ⟨zs, rfl, hlen.trans hlen', fun x hx => ?_⟩
    obtain ⟨y, hy, hx'⟩ := hxy x hx
    obtain ⟨z, hz, hy'⟩ := hyz y hy
    exact ⟨z, hz, ih x hx hx' hy'⟩
  | ofObject es ih =>
    obtain ⟨ys, rfl, hlen, hxy⟩ := eqv_object_iff.mp huv
    obtain ⟨zs, rfl, hlen', hyz⟩ := eqv_object_iff.mp hvw
    refine eqv_object_iff.mpr ⟨zs, rfl, hlen.trans hlen', fun e he => ?_⟩
    obtain ⟨y, hy, hx'⟩ := hxy e he
    obtain ⟨z, hz, hy'⟩ := hyz (e.1, y) (mem_of_lookup hy)
    exact ⟨z, hz, ih e he hx' hy'⟩

/-! ## Strict equality -/

def isBool : Value → Bool
  | bool _ => true
  | _ => false

def isNaN : Value → Bool
  | float (.nan _) => true
  | _ => false

/-- Strict equality is equality in a container between Booleans or between values that are none,
and never of a NaN. -/
theorem strictEq_iff {v w : Value} :
    strictEq v w = true ↔ v.isBool = w.isBool ∧ v.isNaN = false ∧ eqv v w = true := by
  have hU : (unitsPerOne : Int) ≠ 0 := Int.natCast_ne_zero.mpr unitsPerOne_ne_zero
  match v with
  | bool a =>
    cases w
    case bool b =>
      cases a <;> cases b <;>
        simp [strictEq, isBool, isNaN, eqv, scalarEqv, magnitude?, unitsPerOne_ne_zero, hU.symm]
    all_goals simp [strictEq, isBool]
  | int m =>
    rcases w with _ | _ | n | (y | _ | _) | _ | _ | _ | _ | _ | _ | _ | _ <;>
      simp [strictEq, isBool, isNaN, eqv, scalarEqv, magnitude?, Int.mul_eq_mul_right_iff hU]
  | float (.finite x) =>
    rcases w with _ | _ | n | (y | _ | _) | _ | _ | _ | _ | _ | _ | _ | _ <;>
      simp [strictEq, isBool, isNaN, eqv, scalarEqv, magnitude?, floatEqv]
    rintro rfl
    rfl
  | float (.infinite _) | float (.nan _) =>
    rcases w with _ | _ | n | (y | _ | _) | _ | _ | _ | _ | _ | _ | _ | _ <;>
      simp [strictEq, isBool, isNaN, eqv, scalarEqv, magnitude?, floatEqv]
  | null | missing | text _ | date _ | dateTime _ | list _ | tuple _ | set _ | object _ =>
    cases w <;> simp [strictEq, isBool, isNaN]

theorem strictEq_trans {u v w : Value} (huv : strictEq u v = true) (hvw : strictEq v w = true) :
    strictEq u w = true := by
  rw [strictEq_iff] at huv hvw ⊢
  exact ⟨huv.1.trans hvw.1, huv.2.1, eqv_trans huv.2.2 hvw.2.2⟩

/-! ## What equals a text or a mark -/

theorem scalar?_eq_text_iff {v : Value} {s : String} :
    v.scalar? = some (.text s) ↔ v = .text s := by
  rcases v with _ | _ | _ | (_ | _ | _) | _ | _ | _ | _ | _ | _ | _ | _ <;>
    simp [scalar?, magnitude?]

theorem scalar?_eq_null_iff {v : Value} : v.scalar? = some .null ↔ v = .null := by
  rcases v with _ | _ | _ | (_ | _ | _) | _ | _ | _ | _ | _ | _ | _ | _ <;>
    simp [scalar?, magnitude?]

theorem scalar?_eq_missing_iff {v : Value} : v.scalar? = some .missing ↔ v = .missing := by
  rcases v with _ | _ | _ | (_ | _ | _) | _ | _ | _ | _ | _ | _ | _ | _ <;>
    simp [scalar?, magnitude?]

/-- What equals a container is one. -/
theorem isContainer_eq_of_eqv {v w : Value} (h : eqv v w = true) :
    v.isContainer = w.isContainer := by
  cases v
  case list xs =>
    obtain ⟨ys, rfl, -⟩ := eqv_list_iff.mp h
    rfl
  case tuple xs =>
    obtain ⟨ys, rfl, -⟩ := eqv_tuple_iff.mp h
    rfl
  case set xs =>
    obtain ⟨ys, rfl, -⟩ := eqv_set_iff.mp h
    rfl
  case object es =>
    obtain ⟨fs, rfl, -⟩ := eqv_object_iff.mp h
    rfl
  all_goals
    have hcontent := sameContent_of_eqv rfl h
    by_contra hw
    exact not_sameContent (Or.inr (by simpa [isContainer] using hw)) hcontent

/-- What equals a value that holds no others has the same content. -/
theorem scalar?_of_eqv {v w : Value} {k : Scalar} (hw : w.scalar? = some k)
    (h : eqv v w = true) : v.scalar? = some k := by
  have hv : v.isContainer = false := by
    rw [isContainer_eq_of_eqv h]
    by_contra hcontainer
    rw [scalar?_eq_none (by simpa using hcontainer)] at hw
    cases hw
  obtain ⟨k', hv', hw'⟩ := sameContent_of_eqv hv h
  rwa [hv', ← hw']

/-! ## Values that equal themselves -/

/-- No object inside has a key twice. -/
inductive DistinctKeys : Value → Prop
  | scalar {v : Value} (h : v.isContainer = false) : DistinctKeys v
  | list {xs : List Value} (h : ∀ x ∈ xs, DistinctKeys x) : DistinctKeys (.list xs)
  | tuple {xs : List Value} (h : ∀ x ∈ xs, DistinctKeys x) : DistinctKeys (.tuple xs)
  | set {xs : List Value} (h : ∀ x ∈ xs, DistinctKeys x) : DistinctKeys (.set xs)
  | object {es : List (String × Value)} (hkeys : (es.map Prod.fst).Nodup)
      (h : ∀ e ∈ es, DistinctKeys e.2) : DistinctKeys (.object es)

theorem exists_scalar? {v : Value} (h : v.isContainer = false) : ∃ k, v.scalar? = some k := by
  match v with
  | null | missing | text _ | date _ | dateTime _ => exact ⟨_, rfl⟩
  | float (.infinite _) | float (.nan _) => exact ⟨_, rfl⟩
  | bool b => exact ⟨_, scalar?_eq_units_iff.mpr rfl⟩
  | int n => exact ⟨_, scalar?_eq_units_iff.mpr rfl⟩
  | float (.finite x) => exact ⟨_, scalar?_eq_units_iff.mpr rfl⟩
  | list _ | tuple _ | set _ | object _ => cases h

/-- Inside a container even a NaN equals itself. -/
theorem eqv_refl {v : Value} (h : DistinctKeys v) : eqv v v = true := by
  induction h with
  | scalar h =>
    obtain ⟨k, hk⟩ := exists_scalar? h
    rw [eqv_of_scalar h, scalarEqv_iff]
    exact ⟨k, hk, hk⟩
  | list _ ih => exact eqv_list_iff.mpr ⟨_, rfl, List.forall₂_same.mpr ih⟩
  | tuple _ ih => exact eqv_tuple_iff.mpr ⟨_, rfl, List.forall₂_same.mpr ih⟩
  | set _ ih => exact eqv_set_iff.mpr ⟨_, rfl, rfl, fun x hx => ⟨x, hx, ih x hx⟩⟩
  | object hkeys _ ih =>
    exact eqv_object_iff.mpr ⟨_, rfl, rfl, fun e he => ⟨e.2, lookup_of_mem hkeys he, ih e he⟩⟩

theorem strictEq_refl {v : Value} (h : DistinctKeys v) (hnan : v.isNaN = false) :
    strictEq v v = true :=
  strictEq_iff.mpr ⟨rfl, hnan, eqv_refl h⟩

/-- Nothing strictly equals a NaN. -/
theorem isNaN_of_strictEq {v w : Value} (h : strictEq v w = true) : w.isNaN = false := by
  obtain ⟨-, hv, heqv⟩ := strictEq_iff.mp h
  rcases w with _ | _ | _ | (_ | _ | m) | _ | _ | _ | _ | _ | _ | _ | _
  case float.nan =>
    rcases v with _ | _ | _ | (_ | _ | m') | _ | _ | _ | _ | _ | _ | _ | _
    case float.nan => cases hv
    all_goals simp [eqv, scalarEqv, magnitude?, floatEqv] at heqv
  all_goals rfl

end Formwork.Value
