import Formwork.Proofs.Encoding
import Formwork.Proofs.Naming

/-!
# The levels of a form

How many levels a value has, a condition, a field and a form. A document has `Value.mostLevels` of
them, and where a form holds JSON values only, nothing but this and the length of its integers can
keep it from having a document (`Form.noJson?_eq_none_iff_levels`). A test is a level above the value
that it compares with, and a group is a level above its tests, but one without a test has no level
at all: nothing in it is written that could be too deep.
-/

namespace Formwork

/-- The greatest of some numbers of levels, or zero. -/
def most (ns : List Nat) : Nat := ns.foldr max 0

theorem most_le_iff {ns : List Nat} {n : Nat} : most ns ≤ n ↔ ∀ m ∈ ns, m ≤ n := by
  induction ns with
  | nil => simp [most]
  | cons m ns ih =>
    rw [List.forall_mem_cons, ← ih]
    exact Nat.max_le

/-! ## Values -/

namespace Value

mutual

/-- How many levels a value has. A container is a level above its members. -/
def levels : Value → Nat
  | list xs => levelsAmong xs + 1
  | tuple xs => levelsAmong xs + 1
  | set xs => levelsAmong xs + 1
  | object es => levelsUnder es + 1
  | _ => 1
termination_by structural v => v

def levelsAmong : List Value → Nat
  | [] => 0
  | x :: xs => max (levels x) (levelsAmong xs)
termination_by structural xs => xs

def levelsUnder : List (String × Value) → Nat
  | [] => 0
  | (_, x) :: es => max (levels x) (levelsUnder es)
termination_by structural es => es

end

theorem levelsAmong_eq (xs : List Value) : levelsAmong xs = most (xs.map levels) := by
  induction xs with
  | nil => rfl
  | cons x xs ih =>
    rw [levelsAmong, ih]
    rfl

theorem levelsUnder_eq (es : List (String × Value)) :
    levelsUnder es = most (es.map fun e => e.2.levels) := by
  induction es with
  | nil => rfl
  | cons e es ih =>
    obtain ⟨k, x⟩ := e
    rw [levelsUnder, ih]
    rfl

variable {v : Value} {xs : List Value} {es : List (String × Value)} {n : Nat}

theorem levelsAmong_le_iff : levelsAmong xs ≤ n ↔ ∀ x ∈ xs, x.levels ≤ n := by
  rw [levelsAmong_eq, most_le_iff, List.forall_mem_map]

theorem levelsUnder_le_iff : levelsUnder es ≤ n ↔ ∀ e ∈ es, e.2.levels ≤ n := by
  rw [levelsUnder_eq, most_le_iff, List.forall_mem_map]

theorem one_le_levels (v : Value) : 1 ≤ v.levels := by
  cases v <;> unfold levels <;> omega

/-- A JSON value has a JSON form of as many levels as it has, and of more. -/
theorem IsJson.noJson?_eq_none_iff (h : IsJson v) : v.noJson? n = none ↔ v.levels ≤ n := by
  induction h generalizing n with
  | null | bool _ | int _ | float _ | text _ =>
    by_cases hn : n = 0
    · subst hn
      exact iff_of_false (by simp [noJson?]) (by simp [levels])
    · refine iff_of_true ?_ (Nat.pos_of_ne_zero hn)
      rw [noJson?, if_neg hn]
      all_goals simp
  | @list xs _ ih =>
    unfold noJson? levels
    by_cases hn : n = 0
    · rw [if_pos hn]
      exact iff_of_false (by simp) (by omega)
    · have hbelow : levelsAmong xs + 1 ≤ n ↔ levelsAmong xs ≤ n - 1 := by omega
      rw [if_neg hn, noJsonAmong?_eq_none_iff, hbelow, levelsAmong_le_iff]
      exact forall₂_congr fun x hx => ih x hx
  | @object es _ _ ih =>
    unfold noJson? levels
    by_cases hn : n = 0
    · rw [if_pos hn]
      exact iff_of_false (by simp) (by omega)
    · have hbelow : levelsUnder es + 1 ≤ n ↔ levelsUnder es ≤ n - 1 := by omega
      rw [if_neg hn, noJsonUnder?_eq_none_iff, hbelow, levelsUnder_le_iff]
      exact forall₂_congr fun e he => ih e he

/-- Null inside so many lists. -/
def nested : Nat → Value
  | 0 => null
  | n + 1 => list [nested n]

theorem levels_nested (n : Nat) : (nested n).levels = n + 1 := by
  induction n with
  | zero => rfl
  | succ n ih =>
    show max (nested n).levels 0 + 1 = n + 1 + 1
    rw [ih, Nat.max_zero]

theorem isJson_nested (n : Nat) : IsJson (nested n) := by
  induction n with
  | zero => exact .null
  | succ n ih => exact .list (List.forall_mem_singleton.mpr ih)

theorem short_nested (n : Nat) : (nested n).Short := by
  induction n with
  | zero => exact short_null
  | succ n ih => exact short_list_iff.mpr (List.forall_mem_singleton.mpr ih)

end Value

open Value (IsJson mostLevels)

/-! ## Conditions -/

namespace Condition

mutual

/-- How many levels a condition has, down to the innermost of a value that it compares with. -/
def levels : Condition → Nat
  | leaf _ _ value => value.levels + 1
  | group _ children =>
    let below := levelsAmong children
    if below = 0 then 0 else below + 1
termination_by structural c => c

def levelsAmong : List Condition → Nat
  | [] => 0
  | c :: cs => max (levels c) (levelsAmong cs)
termination_by structural cs => cs

end

theorem levelsAmong_eq (cs : List Condition) : levelsAmong cs = most (cs.map levels) := by
  induction cs with
  | nil => rfl
  | cons c cs ih =>
    rw [levelsAmong, ih]
    rfl

theorem levelsAmong_le_iff {cs : List Condition} {n : Nat} :
    levelsAmong cs ≤ n ↔ ∀ c ∈ cs, c.levels ≤ n := by
  rw [levelsAmong_eq, most_le_iff, List.forall_mem_map]

/-- The groups around a condition leave it fewer levels. -/
theorem noJson?_eq_none_iff {c : Condition} :
    ∀ {groups : Nat}, (∀ v ∈ c.values, IsJson v) →
      (c.noJson? groups = none ↔ c.levels ≤ Value.mostLevels - groups) := by
  induction c using Condition.induction with
  | ofLeaf field operator v =>
    intro groups hv
    have hjson : IsJson v := hv v (by simp [values, leaves])
    have hone : 1 ≤ v.levels := v.one_le_levels
    unfold noJson? levels
    rw [Option.map_eq_none_iff, hjson.noJson?_eq_none_iff]
    omega
  | ofGroup k cs ih =>
    intro groups hv
    rw [values_group, List.forall_mem_flatMap] at hv
    have hmembers : noJsonAmong? (groups + 1) cs = none ↔
        levelsAmong cs ≤ Value.mostLevels - (groups + 1) := by
      rw [noJsonAmong?_eq_none_iff, levelsAmong_le_iff]
      exact forall₂_congr fun c hc => ih c hc (hv c hc)
    unfold noJson? levels
    rw [hmembers]
    by_cases hnone : levelsAmong cs = 0
    · rw [if_pos hnone, hnone]
      omega
    · rw [if_neg hnone]
      omega

end Condition

/-! ## Fields and forms -/

/-- The most levels of a choice, of the condition and of the default value. -/
def Field.levels (f : Field) : Nat :=
  most (f.choices.map Value.levels ++ (f.condition.map Condition.levels).toList
    ++ (f.fallback.map Value.levels).toList)

/-- The most levels of a field. -/
def Form.levels (form : Form) : Nat := most (form.fields.map Field.levels)

theorem Field.levels_le_iff {f : Field} {n : Nat} :
    f.levels ≤ n ↔ (∀ v ∈ f.choices, v.levels ≤ n) ∧
      (∀ c, f.condition = some c → c.levels ≤ n) ∧ ∀ v, f.fallback = some v → v.levels ≤ n := by
  rw [levels, most_le_iff, List.forall_mem_append, List.forall_mem_append, List.forall_mem_map,
    and_assoc]
  simp only [Option.mem_toList, Option.map_eq_some_iff, forall_exists_index, and_imp,
    forall_apply_eq_imp_iff₂]

theorem Form.levels_le_iff {form : Form} {n : Nat} :
    form.levels ≤ n ↔ ∀ f ∈ form.fields, f.levels ≤ n := by
  rw [levels, most_le_iff, List.forall_mem_map]

/-- A field of JSON values has a document unless it has too many levels. -/
theorem Field.noJson?_eq_none_iff {f : Field} (hjson : ∀ v ∈ f.values, IsJson v) :
    f.noJson? = none ↔ f.levels ≤ mostLevels := by
  rw [noJson?, Option.or_eq_none_iff, Option.or_eq_none_iff, List.findSome?_eq_none_iff,
    Option.bind_eq_none_iff, Option.bind_eq_none_iff, levels_le_iff]
  refine and_congr ?_ (and_congr ?_ ?_)
  · refine forall₂_congr fun v hv => IsJson.noJson?_eq_none_iff (hjson v ?_)
    exact List.mem_append_left _ (List.mem_append_left _ hv)
  · refine forall₂_congr fun c hc => Condition.noJson?_eq_none_iff fun v hv => ?_
    exact hjson v (Field.mem_values_iff.mpr (.inr (.inl ⟨c, hc, hv⟩)))
  · refine forall₂_congr fun v hv => IsJson.noJson?_eq_none_iff (hjson v ?_)
    exact Field.mem_values_iff.mpr (.inr (.inr hv))

/-- A form of JSON values has a document unless it has too many levels or too long an integer. -/
theorem Form.noJson?_eq_none_iff_levels {form : Form} (hjson : ∀ v ∈ form.values, IsJson v) :
    form.noJson? = none ↔ form.levels ≤ mostLevels ∧ ∀ v ∈ form.values, v.Short := by
  rw [Form.noJson?_eq_none_iff, levels_le_iff]
  rw [Form.values, List.forall_mem_flatMap] at hjson
  exact and_congr_left' (forall₂_congr fun f hf => Field.noJson?_eq_none_iff (hjson f hf))

end Formwork
