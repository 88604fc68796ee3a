import Formwork.Proofs.LongIntegers

/-!
# JSON values

Which values are JSON values, when two of them are equal as such, and which values can be written as
JSON. JSON equality is finer than the equality of a form: a Boolean equals no number, at any depth.
-/

namespace Formwork

namespace Value

variable {v w : Value} {xs : List Value} {es : List (String × Value)}

/-- A JSON value. No object has a key twice. -/
inductive IsJson : Value → Prop
  | null : IsJson .null
  | bool (b : Bool) : IsJson (.bool b)
  | int (n : Int) : IsJson (.int n)
  | float (x : Finite64) : IsJson (.float (.finite x))
  | text (s : String) : IsJson (.text s)
  | list {xs : List Value} (h : ∀ x ∈ xs, IsJson x) : IsJson (.list xs)
  | object {es : List (String × Value)} (hkeys : (es.map Prod.fst).Nodup)
      (h : ∀ e ∈ es, IsJson e.2) : IsJson (.object es)

/-! ## The JSON form -/

/-- A JSON value is its own JSON form. -/
theorem IsJson.toJson_eq (h : IsJson v) : v.toJson = v := by
  induction h with
  | null | bool _ | int _ | float _ | text _ => rfl
  | list _ ih =>
    rw [toJson, toJsonAll_eq_map]
    rw [List.map_congr_left ih, List.map_id']
  | @object es _ _ ih =>
    rw [toJson, toJsonEntries_eq_map]
    have hself : ∀ e ∈ es, (e.1, e.2.toJson) = e := fun e he => Prod.ext rfl (ih e he)
    rw [List.map_congr_left hself, List.map_id']

/-! ## Equality -/

/-- Equal numbers, of whatever kind. -/
def numberEq (v w : Value) : Bool :=
  match v.number?, w.number? with
  | some a, some b => a.eqv b
  | _, _ => false

mutual

/-- Equal as JSON values. Objects are equal whatever the order of their keys. -/
def jsonEq : Value → Value → Bool
  | null, null => true
  | bool a, bool b => a == b
  | text s, text t => s == t
  | list xs, list ys => jsonEqAll xs ys
  | object xs, object ys => xs.length == ys.length && jsonEqEntries xs ys
  | v, w => numberEq v w
termination_by structural v => v

/-- Equal one by one. -/
def jsonEqAll : List Value → List Value → Bool
  | [], [] => true
  | x :: xs, y :: ys => jsonEq x y && jsonEqAll xs ys
  | _, _ => false
termination_by structural xs => xs

/-- Each key bound to an equal value. -/
def jsonEqEntries : List (String × Value) → List (String × Value) → Bool
  | [], _ => true
  | (k, x) :: xs, ys => (ys.lookup k).any (jsonEq x) && jsonEqEntries xs ys
termination_by structural xs => xs

end

theorem jsonEqAll_iff {ys : List Value} :
    jsonEqAll xs ys = true ↔ List.Forall₂ (fun x y => jsonEq x y = true) xs ys := by
  induction xs generalizing ys with
  | nil => cases ys <;> simp [jsonEqAll]
  | cons x xs ih => cases ys <;> simp [jsonEqAll, ih]

theorem jsonEqEntries_iff {fs : List (String × Value)} :
    jsonEqEntries es fs = true ↔ ∀ e ∈ es, ∃ y, fs.lookup e.1 = some y ∧ jsonEq e.2 y = true := by
  induction es with
  | nil => simp [jsonEqEntries]
  | cons e es ih =>
    obtain ⟨k, x⟩ := e
    simp [jsonEqEntries, ih, Option.any_eq_true]

theorem IsJson.jsonEq_self (h : IsJson v) : jsonEq v v = true := by
  induction h with
  | null => rfl
  | bool b => exact beq_self_eq_true b
  | int n => exact beq_self_eq_true (Number.whole n).scaled
  | float x => exact beq_self_eq_true x.scaled
  | text s => exact beq_self_eq_true s
  | list _ ih => exact jsonEqAll_iff.mpr (List.forall₂_same.mpr ih)
  | @object es hkeys _ ih =>
    have hentries : jsonEqEntries es es = true :=
      jsonEqEntries_iff.mpr fun e he => ⟨e.2, lookup_of_mem hkeys he, ih e he⟩
    rw [jsonEq, hentries, beq_self_eq_true]
    rfl

theorem magnitude?_of_number? {a : Number} (h : v.number? = some a) :
    v.magnitude? = some a.scaled := by
  rcases v with _ | _ | n | (x | _ | _) | _ | _ | _ | _ | _ | _ | _ | _
  case int =>
    injection h with h
    rw [← h]
    rfl
  case float.finite =>
    injection h with h
    rw [← h]
    rfl
  all_goals cases h

theorem numberEq_iff :
    numberEq v w = true ↔
      ∃ a b, v.number? = some a ∧ w.number? = some b ∧ a.scaled = b.scaled := by
  rw [numberEq]
  cases v.number? <;> cases w.number? <;> simp [Number.eqv]

/-- Equal numbers have the same content. -/
theorem sameContent_of_numberEq (h : numberEq v w = true) : SameContent v w := by
  obtain ⟨a, b, ha, hb, hab⟩ := numberEq_iff.mp h
  refine ⟨.units a.scaled, scalar?_eq_units_iff.mpr (magnitude?_of_number? ha), ?_⟩
  rw [hab]
  exact scalar?_eq_units_iff.mpr (magnitude?_of_number? hb)

/-- Below the containers JSON values are equal in content. -/
theorem sameContent_of_jsonEq (hv : v.isContainer = false) (h : jsonEq v w = true) :
    SameContent v w := by
  cases v
  case null =>
    cases w
    case null => exact ⟨_, rfl, rfl⟩
    all_goals cases h
  case bool a =>
    cases w
    case bool b =>
      rw [eq_of_beq h]
      exact ⟨_, scalar?_eq_units_iff.mpr rfl, scalar?_eq_units_iff.mpr rfl⟩
    all_goals cases h
  case text s =>
    cases w
    case text t =>
      rw [eq_of_beq h]
      exact ⟨_, rfl, rfl⟩
    all_goals cases h
  case list | tuple | set | object => cases hv
  all_goals exact sameContent_of_numberEq (by simpa only [jsonEq] using h)

/-- What is equal as JSON is equal inside of a container. -/
theorem eqv_of_jsonEq (h : jsonEq v w = true) : eqv v w = true := by
  induction v using nested_induction generalizing w with
  | ofScalar v hv =>
    rw [eqv_of_scalar hv, scalarEqv_iff]
    exact sameContent_of_jsonEq hv h
  | ofList xs ih =>
    cases w
    case list ys =>
      have heach : ∀ x ∈ xs, ∀ y, jsonEq x y = true → eqv x y = true := fun x hx _ => ih x hx
      have hpairs := (List.forall₂_and_left xs ys).mpr ⟨heach, jsonEqAll_iff.mp h⟩
      exact eqv_list_iff.mpr ⟨ys, rfl, hpairs.imp fun x y hxy => hxy.1 y hxy.2⟩
    all_goals cases h
  | ofTuple xs ih => cases w <;> cases h
  | ofSet xs ih => cases w <;> cases h
  | ofObject es ih =>
    cases w
    case object fs =>
      rw [jsonEq, Bool.and_eq_true, beq_iff_eq] at h
      refine eqv_object_iff.mpr ⟨fs, rfl, h.1, fun e he => ?_⟩
      obtain ⟨y, hy, hey⟩ := jsonEqEntries_iff.mp h.2 e he
      exact ⟨y, hy, ih e he hey⟩
    all_goals cases h

theorem isBool_of_number? {a : Number} (h : v.number? = some a) : v.isBool = false := by
  cases v
  case bool => cases h
  all_goals rfl

/-- A Boolean is equal to Booleans only. -/
theorem isBool_eq_of_jsonEq (h : jsonEq v w = true) : v.isBool = w.isBool := by
  by_cases hnumber : numberEq v w = true
  · obtain ⟨a, b, ha, hb, -⟩ := numberEq_iff.mp hnumber
    rw [isBool_of_number? ha, isBool_of_number? hb]
  · cases v <;> cases w <;> first | rfl | exact absurd h hnumber

/-- What is equal as JSON is strictly equal. -/
theorem strictEq_of_jsonEq (h : jsonEq v w = true) : strictEq v w = true := by
  have hnan : v.isNaN = false := by
    rcases v with _ | _ | _ | (_ | _ | _) | _ | _ | _ | _ | _ | _ | _ | _
    case float.nan => simp [jsonEq, numberEq, number?] at h
    all_goals rfl
  exact strictEq_iff.mpr ⟨isBool_eq_of_jsonEq h, hnan, eqv_of_jsonEq h⟩

/-! ## Values that can be written -/

/-- The value has a JSON form of as many levels as it may have. -/
def HasJson (v : Value) : Prop := v.noJson? mostLevels = none

theorem noJsonAmong?_eq_none_iff {levels : Nat} :
    noJsonAmong? levels xs = none ↔ ∀ x ∈ xs, noJson? levels x = none := by
  induction xs with
  | nil => simp [noJsonAmong?]
  | cons x xs ih => simp [noJsonAmong?, Option.or_eq_none_iff, ih]

theorem noJsonUnder?_eq_none_iff {levels : Nat} :
    noJsonUnder? levels es = none ↔ ∀ e ∈ es, noJson? levels e.2 = none := by
  induction es with
  | nil => simp [noJsonUnder?]
  | cons e es ih =>
    obtain ⟨k, x⟩ := e
    simp [noJsonUnder?, Option.or_eq_none_iff, ih]

theorem hasText_list_iff : (list xs).hasText = true ↔ ∀ x ∈ xs, x.hasText = true := by
  rw [hasText]
  induction xs with
  | nil => simp [hasTextAll]
  | cons x xs ih => rw [hasTextAll, Bool.and_eq_true, ih, List.forall_mem_cons]

theorem hasText_object_iff : (object es).hasText = true ↔ ∀ e ∈ es, e.2.hasText = true := by
  rw [hasText]
  induction es with
  | nil => simp [hasTextEntries]
  | cons e es ih => rw [hasTextEntries, Bool.and_eq_true, ih, List.forall_mem_cons]

/-- There are no times in a JSON value. -/
theorem IsJson.hasText (h : IsJson v) : v.hasText = true := by
  induction h with
  | list _ ih => exact hasText_list_iff.mpr ih
  | object _ _ ih => exact hasText_object_iff.mpr ih
  | null | bool | int | float | text => rfl

/-- The short offset is at most the next whole second. -/
theorem natAbs_shortOffset_le {offset : Int} {seconds : Nat}
    (h : offset.natAbs ≤ seconds * microsecondsPerSecond) :
    (DateTime.shortOffset offset).natAbs ≤ seconds := by
  have hpos := twoPow_pos 31
  rw [microsecondsPerSecond] at h
  rw [DateTime.shortOffset, microsecondsPerSecond]
  generalize twoPow 31 = most at hpos
  split <;> omega

/-- An offset of less than a day has a short text. -/
theorem hasShortText_of_hasText {t : DateTime} (h : t.hasText = true) : t.hasShortText = true := by
  unfold DateTime.hasText at h
  unfold DateTime.hasShortText
  cases hoffset : t.offset with
  | none => rfl
  | some x =>
    rw [hoffset, decide_eq_true_eq, microsecondsPerDay] at h
    have hshort := natAbs_shortOffset_le (Nat.le_of_lt h)
    rw [secondsPerDay] at hshort
    show decide (DateTime.tensByte ((DateTime.shortOffset x).natAbs / 3600) < 128) = true
    rw [decide_eq_true_eq, DateTime.tensByte]
    omega

end Value

end Formwork
