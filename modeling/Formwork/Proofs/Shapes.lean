import Formwork.Proofs.Equivalence

/-!
# What strict equality tells apart

Two values are of the same shape when they hold values of one kind in the same places, texts and
dates as they are and numbers of the same exact value. Strict equality tells all shapes apart but
for one case: it compares Booleans strictly only where the values are Booleans themselves. Inside
a container a Boolean is taken for the number 0 or 1, so two values are confused when they are of
the same shape but for a Boolean in one that faces a number in the other. Strict equality holds in
these two cases and in no other.
-/

namespace Formwork.Value

variable {v w x y : Value} {xs ys : List Value} {es fs : List (String × Value)}

-- Unfolded, the power of two is compared with literals digit by digit.
attribute [local irreducible] unitsPerOne

/-! ## Shapes -/

/-- The exact value of a finite number, in units of `2^-1074`. A Boolean is no number. -/
def units? (v : Value) : Option Int := v.number?.map Number.scaled

/-- Of one shape, where some values are numbers and have values. -/
inductive Alike (valueOf? : Value → Option Int) : Value → Value → Prop
  | null : Alike valueOf? .null .null
  | missing : Alike valueOf? .missing .missing
  | bool (b : Bool) : Alike valueOf? (.bool b) (.bool b)
  | number {v w : Value} {n : Int} (hv : valueOf? v = some n) (hw : valueOf? w = some n) :
      Alike valueOf? v w
  | infinite (negative : Bool) :
      Alike valueOf? (.float (.infinite negative)) (.float (.infinite negative))
  | text (s : String) : Alike valueOf? (.text s) (.text s)
  | date (d : Date) : Alike valueOf? (.date d) (.date d)
  /-- Times with an offset are the same instant. -/
  | instant {t u : DateTime} {a b : Int} (ht : t.offset = some a) (hu : u.offset = some b)
      (h : t.instant a = u.instant b) : Alike valueOf? (.dateTime t) (.dateTime u)
  /-- Times without one are the same on the clock. -/
  | clock {t u : DateTime} (ht : t.offset = none) (hu : u.offset = none)
      (h : t.wallClock = u.wallClock) : Alike valueOf? (.dateTime t) (.dateTime u)
  | list {xs ys : List Value} (hlen : xs.length = ys.length)
      (h : ∀ x y, (x, y) ∈ xs.zip ys → Alike valueOf? x y) : Alike valueOf? (.list xs) (.list ys)
  | tuple {xs ys : List Value} (hlen : xs.length = ys.length)
      (h : ∀ x y, (x, y) ∈ xs.zip ys → Alike valueOf? x y) :
      Alike valueOf? (.tuple xs) (.tuple ys)
  | object {es fs : List (String × Value)} (hkeys : (es.map Prod.fst).Perm (fs.map Prod.fst))
      (h : ∀ k x y, (k, x) ∈ es → (k, y) ∈ fs → Alike valueOf? x y) :
      Alike valueOf? (.object es) (.object fs)

/-- Of the same shape. -/
abbrev SameShape : Value → Value → Prop := Alike units?

/-- Of the same shape if every Boolean is the number 0 or 1. -/
abbrev LooseShape : Value → Value → Prop := Alike magnitude?

/-- The third value stands in the first where the fourth stands in the second. -/
inductive Facing : Value → Value → Value → Value → Prop
  | self (v w : Value) : Facing v w v w
  | list {xs ys : List Value} {x y v w : Value} (hxy : (x, y) ∈ xs.zip ys) (h : Facing x y v w) :
      Facing (.list xs) (.list ys) v w
  | tuple {xs ys : List Value} {x y v w : Value} (hxy : (x, y) ∈ xs.zip ys)
      (h : Facing x y v w) : Facing (.tuple xs) (.tuple ys) v w
  | object {es fs : List (String × Value)} {k : String} {x y v w : Value} (hx : (k, x) ∈ es)
      (hy : (k, y) ∈ fs) (h : Facing x y v w) : Facing (.object es) (.object fs) v w

/-- Of the same shape but for a Boolean inside, which faces the number that it counts as. -/
structure Confused (v w : Value) : Prop where
  loose : LooseShape v w
  outside : v.isBool = w.isBool
  inside : ∃ x y, Facing v w x y ∧ x.isBool ≠ y.isBool

/-- There is no set and no NaN inside, and no object has a key twice. -/
structure Plain (v : Value) : Prop where
  keys : v.DistinctKeys
  noSet : ∀ xs, ¬ v.Holds (.set xs)
  noNaN : ∀ mark, ¬ v.Holds (.float (.nan mark))

theorem Plain.inside (hv : v.Plain) (h : v.Holds w) : w.Plain where
  keys := hv.keys.inside h
  noSet xs hxs := hv.noSet xs (h.trans hxs)
  noNaN mark hmark := hv.noNaN mark (h.trans hmark)

theorem Plain.isNaN (hv : v.Plain) : v.isNaN = false := by
  rcases v with _ | _ | _ | (_ | _ | mark) | _ | _ | _ | _ | _ | _ | _ | _
  case float.nan => exact absurd (.self _) (hv.noNaN mark)
  all_goals rfl

theorem plain_of_scalar (h : v.isContainer = false) (hnan : v.isNaN = false) : v.Plain where
  keys := .scalar h
  noSet xs hxs := by
    rw [← (holds_scalar_iff h).mp hxs] at h
    cases h
  noNaN mark hmark := by
    rw [← (holds_scalar_iff h).mp hmark] at hnan
    cases hnan

theorem plain_object (hkeys : (es.map Prod.fst).Nodup) (h : ∀ e ∈ es, e.2.Plain) :
    (object es).Plain where
  keys := .object hkeys fun e he => (h e he).keys
  noSet xs hxs := by
    cases hxs with
    | object he hxs => exact (h _ he).noSet xs hxs
  noNaN mark hmark := by
    cases hmark with
    | object he hmark => exact (h _ he).noNaN mark hmark

/-! ## Loose shapes -/

theorem scalar?_eq_date_iff {d : Date} : v.scalar? = some (.date d) ↔ v = .date d := by
  rcases v with _ | _ | _ | (_ | _ | _) | _ | _ | _ | _ | _ | _ | _ | _ <;>
    simp [scalar?, magnitude?]

theorem scalar?_eq_infinite_iff {b : Bool} :
    v.scalar? = some (.infinite b) ↔ v = .float (.infinite b) := by
  rcases v with _ | _ | _ | (_ | _ | _) | _ | _ | _ | _ | _ | _ | _ | _ <;>
    simp [scalar?, magnitude?]

theorem exists_of_scalar?_eq_time {i : Option Int} {c : Nat} (h : v.scalar? = some (.time i c)) :
    ∃ t, v = .dateTime t := by
  rcases v with _ | _ | _ | (_ | _ | _) | _ | _ | t | _ | _ | _ | _ | _
  case dateTime => exact ⟨t, rfl⟩
  all_goals simp [scalar?, magnitude?] at h

theorem looseShape_dateTime_iff {t u : DateTime} :
    LooseShape (.dateTime t) (.dateTime u) ↔ t.eqv u = true := by
  constructor
  · intro h
    cases h with
    | number hv _ => cases hv
    | instant ht hu h => simp [DateTime.eqv, ht, hu, h]
    | clock ht hu h => simp [DateTime.eqv, ht, hu, h]
  · intro h
    rw [DateTime.eqv] at h
    rcases ht : t.offset with _ | a <;> rcases hu : u.offset with _ | b <;>
      simp only [ht, hu, beq_iff_eq, reduceCtorEq] at h
    · exact .clock ht hu h
    · exact .instant ht hu h

/-- Values that hold no others are of one loose shape if they are equal in content. -/
theorem looseShape_scalar_iff (hv : v.isContainer = false) (hnan : v.isNaN = false) :
    LooseShape v w ↔ SameContent v w := by
  constructor
  · intro h
    cases h with
    | number hv hw => exact ⟨_, scalar?_eq_units_iff.mpr hv, scalar?_eq_units_iff.mpr hw⟩
    | instant ht hu h =>
      have heqv := looseShape_dateTime_iff.mp (.instant ht hu h)
      exact ⟨_, rfl, (dateTime_eqv_iff.mp heqv).symm⟩
    | clock ht hu h =>
      have heqv := looseShape_dateTime_iff.mp (.clock ht hu h)
      exact ⟨_, rfl, (dateTime_eqv_iff.mp heqv).symm⟩
    | null | missing | infinite _ | text _ | date _ => exact ⟨_, rfl, rfl⟩
    | bool b => exact ⟨_, scalar?_eq_units_iff.mpr rfl, scalar?_eq_units_iff.mpr rfl⟩
    | list _ _ | tuple _ _ | object _ _ => cases hv
  · rintro ⟨k, hk, hw⟩
    cases k with
    | null =>
      rw [scalar?_eq_null_iff.mp hk, scalar?_eq_null_iff.mp hw]
      exact .null
    | missing =>
      rw [scalar?_eq_missing_iff.mp hk, scalar?_eq_missing_iff.mp hw]
      exact .missing
    | text s =>
      rw [scalar?_eq_text_iff.mp hk, scalar?_eq_text_iff.mp hw]
      exact .text s
    | date d =>
      rw [scalar?_eq_date_iff.mp hk, scalar?_eq_date_iff.mp hw]
      exact .date d
    | time i c =>
      obtain ⟨t, rfl⟩ := exists_of_scalar?_eq_time hk
      obtain ⟨u, rfl⟩ := exists_of_scalar?_eq_time hw
      exact looseShape_dateTime_iff.mpr (dateTime_eqv_iff.mpr (hk.trans hw.symm))
    | units n => exact .number (scalar?_eq_units_iff.mp hk) (scalar?_eq_units_iff.mp hw)
    | infinite b =>
      rw [scalar?_eq_infinite_iff.mp hk, scalar?_eq_infinite_iff.mp hw]
      exact .infinite b
    | nan mark =>
      rcases v with _ | _ | _ | (_ | _ | _) | _ | _ | _ | _ | _ | _ | _ | _ <;>
        simp [scalar?, magnitude?, Value.isNaN] at hk hnan

theorem looseShape_list_iff :
    LooseShape (.list xs) w ↔
      ∃ ys, w = .list ys ∧ xs.length = ys.length ∧
        ∀ x y, (x, y) ∈ xs.zip ys → LooseShape x y := by
  constructor
  · intro h
    cases h with
    | number hv _ => cases hv
    | list hlen h => exact ⟨_, rfl, hlen, h⟩
  · rintro ⟨ys, rfl, hlen, h⟩
    exact .list hlen h

theorem looseShape_tuple_iff :
    LooseShape (.tuple xs) w ↔
      ∃ ys, w = .tuple ys ∧ xs.length = ys.length ∧
        ∀ x y, (x, y) ∈ xs.zip ys → LooseShape x y := by
  constructor
  · intro h
    cases h with
    | number hv _ => cases hv
    | tuple hlen h => exact ⟨_, rfl, hlen, h⟩
  · rintro ⟨ys, rfl, hlen, h⟩
    exact .tuple hlen h

theorem looseShape_object_iff :
    LooseShape (.object es) w ↔
      ∃ fs, w = .object fs ∧ (es.map Prod.fst).Perm (fs.map Prod.fst) ∧
        ∀ k x y, (k, x) ∈ es → (k, y) ∈ fs → LooseShape x y := by
  constructor
  · intro h
    cases h with
    | number hv _ => cases hv
    | object hkeys h => exact ⟨_, rfl, hkeys, h⟩
  · rintro ⟨fs, rfl, hkeys, h⟩
    exact .object hkeys h

/-- Lists are equal one by one if they have one length and what stands in one place is equal. -/
theorem forall₂_eqv_iff (h : ∀ x ∈ xs, ∀ y, LooseShape x y ↔ eqv x y = true) :
    List.Forall₂ (fun x y => eqv x y = true) xs ys ↔
      xs.length = ys.length ∧ ∀ x y, (x, y) ∈ xs.zip ys → LooseShape x y := by
  rw [List.forall₂_iff_zip]
  refine and_congr_right fun _ => forall₂_congr fun x y => ?_
  exact forall_congr' fun hxy => (h x (List.of_mem_zip hxy).1 y).symm

/-- Objects whose keys are distinct are equal if they have the same keys and equal values under
each. -/
theorem entries_eqv_iff (hkeys : (es.map Prod.fst).Nodup)
    (h : ∀ e ∈ es, ∀ y, LooseShape e.2 y ↔ eqv e.2 y = true) :
    (es.length = fs.length ∧ ∀ e ∈ es, ∃ y, fs.lookup e.1 = some y ∧ eqv e.2 y = true) ↔
      (es.map Prod.fst).Perm (fs.map Prod.fst) ∧
        ∀ k x y, (k, x) ∈ es → (k, y) ∈ fs → LooseShape x y := by
  constructor
  · rintro ⟨hlen, heqv⟩
    have hperm := keys_perm hkeys hlen fun e he => by
      obtain ⟨y, hy, -⟩ := heqv e he
      exact mem_keys_of_lookup hy
    refine ⟨hperm, fun k x y hx hy => (h _ hx y).mpr ?_⟩
    obtain ⟨y', hy', hxy⟩ := heqv _ hx
    rw [lookup_of_mem (hperm.nodup_iff.mp hkeys) hy] at hy'
    injection hy' with hy'
    rwa [hy']
  · rintro ⟨hperm, hloose⟩
    refine ⟨by simpa using hperm.length_eq, fun e he => ?_⟩
    obtain ⟨y, hy⟩ := exists_lookup_of_mem_keys
      (hperm.mem_iff.mp (List.mem_map_of_mem (f := Prod.fst) he))
    exact ⟨y, hy, (h e he y).mp (hloose e.1 e.2 y he (mem_of_lookup hy))⟩

/-- As members of containers, values are equal if they are of one loose shape. -/
theorem looseShape_iff_eqv (hv : v.Plain) : LooseShape v w ↔ eqv v w = true := by
  induction v using nested_induction generalizing w with
  | ofScalar v hscalar =>
    rw [looseShape_scalar_iff hscalar hv.isNaN, eqv_of_scalar hscalar, scalarEqv_iff]
  | ofList xs ih =>
    have hxs := fun x hx y => ih x hx (hv.inside (.list hx (.self x))) (w := y)
    rw [looseShape_list_iff, eqv_list_iff]
    simp only [forall₂_eqv_iff hxs]
  | ofTuple xs ih =>
    have hxs := fun x hx y => ih x hx (hv.inside (.tuple hx (.self x))) (w := y)
    rw [looseShape_tuple_iff, eqv_tuple_iff]
    simp only [forall₂_eqv_iff hxs]
  | ofSet xs ih => exact absurd (.self _) (hv.noSet xs)
  | ofObject es ih =>
    have hes := fun e he y => ih e he (hv.inside (.object he (.self e.2))) (w := y)
    rw [looseShape_object_iff, eqv_object_iff]
    simp only [entries_eqv_iff (distinctKeys_object_iff.mp hv.keys).1 hes]

/-! ## Booleans that face Booleans -/

theorem magnitude?_of_units? {n : Int} (h : v.units? = some n) : v.magnitude? = some n := by
  obtain ⟨a, ha, rfl⟩ := Option.map_eq_some_iff.mp h
  exact magnitude?_of_number? ha

theorem isBool_of_units? {n : Int} (h : v.units? = some n) : v.isBool = false := by
  obtain ⟨a, ha, -⟩ := Option.map_eq_some_iff.mp h
  exact isBool_of_number? ha

theorem units?_of_magnitude? {n : Int} (h : v.magnitude? = some n) (hbool : v.isBool = false) :
    v.units? = some n := by
  rcases v with _ | _ | m | (x | _ | _) | _ | _ | _ | _ | _ | _ | _ | _
  case int => exact h
  case float.finite => exact h
  case bool => cases hbool
  all_goals cases h

/-- Booleans that count as one number are the same. -/
theorem bool_of_magnitude? {a b : Bool} {n : Int} (ha : (Value.bool a).magnitude? = some n)
    (hb : (Value.bool b).magnitude? = some n) : a = b := by
  have hstrict : strictEq (.bool a) (.bool b) = true := by
    refine strictEq_iff.mpr ⟨rfl, rfl, ?_⟩
    rw [eqv_of_scalar rfl, scalarEqv_iff]
    exact ⟨_, scalar?_eq_units_iff.mpr ha, scalar?_eq_units_iff.mpr hb⟩
  exact beq_iff_eq.mp hstrict

/-- A shape for other numbers, if what faced each other as one number is alike for these. -/
theorem Alike.change {valueOf? valueOf?' : Value → Option Int} (h : Alike valueOf? v w)
    (hnumber : ∀ x y n, Facing v w x y → valueOf? x = some n → valueOf? y = some n →
      Alike valueOf?' x y) : Alike valueOf?' v w := by
  induction h with
  | number hv hw => exact hnumber _ _ _ (.self _ _) hv hw
  | list hlen _ ih =>
    exact .list hlen fun x y hxy => ih x y hxy fun _ _ n h => hnumber _ _ n (.list hxy h)
  | tuple hlen _ ih =>
    exact .tuple hlen fun x y hxy => ih x y hxy fun _ _ n h => hnumber _ _ n (.tuple hxy h)
  | object hkeys _ ih =>
    exact .object hkeys fun k x y hx hy =>
      ih k x y hx hy fun _ _ n h => hnumber _ _ n (.object hx hy h)
  | null => exact .null
  | missing => exact .missing
  | bool b => exact .bool b
  | infinite b => exact .infinite b
  | text s => exact .text s
  | date d => exact .date d
  | instant ht hu h => exact .instant ht hu h
  | clock ht hu h => exact .clock ht hu h

theorem SameShape.loose (h : SameShape v w) : LooseShape v w :=
  h.change fun _ _ _ _ hx hy => .number (magnitude?_of_units? hx) (magnitude?_of_units? hy)

theorem SameShape.isBool_eq (h : SameShape v w) : v.isBool = w.isBool := by
  cases h with
  | number hv hw => rw [isBool_of_units? hv, isBool_of_units? hw]
  | _ => rfl

/-- Values of one shape have values of one shape in every place. -/
theorem SameShape.facing (h : SameShape v w) (hfacing : Facing v w x y) : SameShape x y := by
  induction hfacing with
  | self => exact h
  | list hxy _ ih =>
    cases h with
    | number hv _ => cases hv
    | list _ h => exact ih (h _ _ hxy)
  | tuple hxy _ ih =>
    cases h with
    | number hv _ => cases hv
    | tuple _ h => exact ih (h _ _ hxy)
  | object hx hy _ ih =>
    cases h with
    | number hv _ => cases hv
    | object _ h => exact ih (h _ _ _ hx hy)

theorem sameShape_of_magnitude? {n : Int} (hv : v.magnitude? = some n)
    (hw : w.magnitude? = some n) (hbool : v.isBool = w.isBool) : SameShape v w := by
  cases v
  case bool a =>
    cases w
    case bool b =>
      rw [bool_of_magnitude? hv hw]
      exact .bool b
    all_goals cases hbool
  all_goals
    exact .number (units?_of_magnitude? hv rfl) (units?_of_magnitude? hw hbool.symm)

/-- A loose shape where Booleans face Booleans only is a shape. -/
theorem LooseShape.sameShape (h : LooseShape v w)
    (hfacing : ∀ x y, Facing v w x y → x.isBool = y.isBool) : SameShape v w :=
  Alike.change h fun x y _ hxy hx hy => sameShape_of_magnitude? hx hy (hfacing x y hxy)

/-! ## What is equal -/

/-- Strict equality is a loose shape between Booleans or between values that are none. -/
theorem strictEq_iff_looseShape (hv : v.Plain) :
    strictEq v w = true ↔ v.isBool = w.isBool ∧ LooseShape v w := by
  rw [strictEq_iff, looseShape_iff_eqv hv]
  exact and_congr_right fun _ => and_iff_right hv.isNaN

theorem not_sameShape_of_confused (h : Confused v w) : ¬ SameShape v w := by
  obtain ⟨x, y, hfacing, hbool⟩ := h.inside
  exact fun hshape => hbool (hshape.facing hfacing).isBool_eq

/-- Strict equality holds of values of one shape, and besides of those that it confuses, which are
not of one. -/
theorem strictEq_iff_shape (hv : v.Plain) :
    (strictEq v w = true ↔ SameShape v w ∨ Confused v w) ∧ ¬ (SameShape v w ∧ Confused v w) := by
  refine ⟨?_, fun h => not_sameShape_of_confused h.2 h.1⟩
  rw [strictEq_iff_looseShape hv]
  constructor
  · rintro ⟨hbool, hloose⟩
    by_cases hinside : ∃ x y, Facing v w x y ∧ x.isBool ≠ y.isBool
    · exact Or.inr ⟨hloose, hbool, hinside⟩
    · refine Or.inl (hloose.sameShape fun x y hxy => ?_)
      by_contra hne
      exact hinside ⟨x, y, hxy, hne⟩
  · rintro (h | h)
    · exact ⟨h.isBool_eq, h.loose⟩
    · exact ⟨h.outside, h.loose⟩

/-- Objects with an integer and a binary64 number of one value under a key, in whatever order, are
of one shape, and so they are equal and not confused. -/
theorem strictEq_iff_shape_object :
    let v := object [("open", bool true), ("size", int 0)]
    let w := object [("size", float .zero), ("open", bool true)]
    v.Plain ∧ SameShape v w ∧ strictEq v w = true ∧ ¬ Confused v w := by
  intro v w
  have hplain : v.Plain := by
    refine plain_object (by decide) fun e he => ?_
    have hscalar : e.2.isContainer = false ∧ e.2.isNaN = false := by
      revert e
      decide
    exact plain_of_scalar hscalar.1 hscalar.2
  have hshape : SameShape v w := by
    refine .object (.swap _ _ _) fun k x y hx hy => ?_
    simp only [List.mem_cons, Prod.mk.injEq, List.not_mem_nil, or_false] at hx hy
    rcases hx with ⟨rfl, rfl⟩ | ⟨rfl, rfl⟩
    · obtain rfl : y = bool true := by simpa using hy
      exact .bool true
    · obtain rfl : y = float .zero := by simpa using hy
      have hint : (int 0).units? = some 0 := by decide +kernel
      have hfloat : (float .zero).units? = some 0 := by decide +kernel
      exact .number hint hfloat
  have hiff := strictEq_iff_shape (w := w) hplain
  exact ⟨hplain, hshape, hiff.1.mpr (Or.inl hshape), fun h => hiff.2 ⟨hshape, h⟩⟩

/-- In a list the Boolean and the number 1 are equal, although they are of different shapes. -/
theorem flag_equals_number_inside :
    strictEq (.bool true) (.int 1) = false ∧
    strictEq (.list [.bool true]) (.list [.int 1]) = true ∧
    ¬ SameShape (.list [.bool true]) (.list [.int 1]) := by
  refine ⟨rfl, by decide +kernel, fun h => ?_⟩
  have hmem : (Value.bool true, Value.int 1) ∈ [Value.bool true].zip [Value.int 1] := by simp
  have hbool := (h.facing (.list hmem (.self _ _))).isBool_eq
  cases hbool

end Formwork.Value
