import Formwork.Proofs.DecimalText
import Formwork.Proofs.Equality
import Formwork.Value.Json

/-!
# Long integers

An integer of more than 4300 digits cannot be written. `Value.Short` says of a value that it holds no
such integer, at any depth, which is what is tested before a value is written. The JSON form of a
value holds the same integers as the value, and no integer that is read from a text is too long.
-/

namespace Formwork.Value

variable {v w : Value} {n : Int} {xs : List Value} {es : List (String × Value)}

theorem length_decimalDigits_le_iff {n k : Nat} (hk : 0 < k) :
    (Text.decimalDigits n).length ≤ k ↔ n < tenPow k :=
  Nat.length_toDigits_le_iff (by decide) hk

-- Unfolded, the greatest integer that is written would be computed.
attribute [local irreducible] tenPow

/-- No integer inside has more digits than are written. -/
def Short (v : Value) : Prop := ∀ n, v.Holds (.int n) → n.natAbs < tenPow Literal.maxIntegerDigits

/-- An integer is short if it has at most so many digits. -/
theorem isShortInteger_iff_length :
    isShortInteger n = true ↔ (Text.decimalDigits n.natAbs).length ≤ Literal.maxIntegerDigits :=
  decide_eq_true_iff.trans (length_decimalDigits_le_iff (by decide)).symm

/-! ## Values of each kind -/

theorem Short.inside (hv : v.Short) (h : v.Holds w) : w.Short := fun n hn => hv n (h.trans hn)

theorem short_of_scalar (h : v.isContainer = false) (hint : ∀ n, v ≠ .int n) : v.Short :=
  fun n hn => absurd ((holds_scalar_iff h).mp hn).symm (hint n)

theorem short_null : null.Short := short_of_scalar rfl nofun

theorem short_bool (b : Bool) : (bool b).Short := short_of_scalar rfl nofun

theorem short_text (s : String) : (text s).Short := short_of_scalar rfl nofun

theorem short_int_iff : (int n).Short ↔ n.natAbs < tenPow Literal.maxIntegerDigits := by
  constructor
  · exact fun h => h n (.self _)
  · intro h m hm
    injection (holds_scalar_iff rfl).mp hm with hm
    rwa [hm]

theorem short_list_iff : (list xs).Short ↔ ∀ x ∈ xs, x.Short := by
  constructor
  · exact fun h x hx => h.inside (.list hx (.self x))
  · rintro h n (_ | ⟨hx, hn⟩)
    exact h _ hx n hn

theorem short_tuple_iff : (tuple xs).Short ↔ ∀ x ∈ xs, x.Short := by
  constructor
  · exact fun h x hx => h.inside (.tuple hx (.self x))
  · rintro h n (_ | _ | ⟨hx, hn⟩)
    exact h _ hx n hn

theorem short_set_iff : (set xs).Short ↔ ∀ x ∈ xs, x.Short := by
  constructor
  · exact fun h x hx => h.inside (.set hx (.self x))
  · rintro h n (_ | _ | _ | ⟨hx, hn⟩)
    exact h _ hx n hn

theorem short_object_iff : (object es).Short ↔ ∀ e ∈ es, e.2.Short := by
  constructor
  · exact fun h e he => h.inside (.object he (.self e.2))
  · rintro h n (_ | _ | _ | _ | ⟨he, hn⟩)
    exact h _ he n hn

theorem hasShortIntegersAll_iff :
    hasShortIntegersAll xs = true ↔ ∀ x ∈ xs, x.hasShortIntegers = true := by
  induction xs with
  | nil => simp [hasShortIntegersAll]
  | cons x xs ih => simp [hasShortIntegersAll, ih]

theorem hasShortIntegersEntries_iff :
    hasShortIntegersEntries es = true ↔ ∀ e ∈ es, e.2.hasShortIntegers = true := by
  induction es with
  | nil => simp [hasShortIntegersEntries]
  | cons e es ih => simp [hasShortIntegersEntries, ih]

/-- What is tested of a value is that it is short. -/
theorem hasShortIntegers_iff : v.hasShortIntegers = true ↔ v.Short := by
  induction v using nested_induction with
  | ofScalar v hv =>
    cases v
    case int n => exact decide_eq_true_iff.trans short_int_iff.symm
    case list | tuple | set | object => cases hv
    all_goals exact iff_of_true rfl (short_of_scalar rfl nofun)
  | ofList xs ih =>
    rw [hasShortIntegers, hasShortIntegersAll_iff, short_list_iff]
    exact forall₂_congr ih
  | ofTuple xs ih =>
    rw [hasShortIntegers, hasShortIntegersAll_iff, short_tuple_iff]
    exact forall₂_congr ih
  | ofSet xs ih =>
    rw [hasShortIntegers, hasShortIntegersAll_iff, short_set_iff]
    exact forall₂_congr ih
  | ofObject es ih =>
    rw [hasShortIntegers, hasShortIntegersEntries_iff, short_object_iff]
    exact forall₂_congr ih

instance (v : Value) : Decidable v.Short := decidable_of_iff _ hasShortIntegers_iff

/-- An integer of one digit is short. -/
theorem short_digit {d : Nat} (hd : d < tenPow 1) : (int d).Short := by
  rw [short_int_iff, Int.natAbs_natCast]
  exact hd.trans_le (tenPow_le (by decide : 1 ≤ Literal.maxIntegerDigits))

/-! ## Integers that are read -/

/-- An integer that is read from a text is not too long to be written. -/
theorem natAbs_lt_of_integer? {cs : List Char} (h : Literal.integer? cs = some n) :
    n.natAbs < tenPow Literal.maxIntegerDigits := by
  rw [Literal.integer?] at h
  split at h
  · rename_i negative ds hdigits
    split at h
    · rename_i hlength
      injection h with h
      obtain ⟨_, hgroup, heq⟩ := Option.map_eq_some_iff.mp hdigits
      injection heq with _ heq
      injection heq with heq _
      have hsmall : ∀ d ∈ ds, d < 10 := Literal.digits_lt_of_digitGroup? (heq ▸ hgroup)
      have hvalue : n.natAbs = Text.digitsValue ds := by
        rw [← h, Literal.signed]
        split
        · rw [Int.natAbs_neg, Int.natAbs_natCast]
        · exact Int.natAbs_natCast _
      rw [hvalue]
      exact (digitsValue_lt hsmall).trans_le (tenPow_le hlength)
    · cases h
  · cases h

/-- The number that a short value is or writes is short. -/
theorem short_of_toNumber? {m : Number} (h : v.toNumber? = some m) (hv : v.Short) :
    (ofNumber m).Short := by
  cases v
  case int n =>
    injection h with h
    exact h ▸ hv
  case float x =>
    cases x <;> cases h
    exact short_of_scalar rfl nofun
  case text s =>
    change Number.read? s = some m at h
    rw [Number.read?] at h
    split at h
    · rename_i n hn
      injection h with h
      exact h ▸ short_int_iff.mpr (natAbs_lt_of_integer? hn)
    · split at h
      · injection h with h
        exact h ▸ short_of_scalar rfl nofun
      · cases h
  all_goals cases h

/-! ## JSON forms -/

theorem toJsonAll_eq_map (xs : List Value) : toJsonAll xs = xs.map toJson := by
  induction xs with
  | nil => rfl
  | cons x xs ih => rw [toJsonAll, ih, List.map_cons]

theorem toJsonEntries_eq_map (es : List (String × Value)) :
    toJsonEntries es = es.map fun e => (e.1, e.2.toJson) := by
  induction es with
  | nil => rfl
  | cons e es ih =>
    obtain ⟨k, x⟩ := e
    rw [toJsonEntries, ih, List.map_cons]

/-- The JSON form of a value holds the same integers. -/
theorem short_toJson_iff : v.toJson.Short ↔ v.Short := by
  induction v using nested_induction with
  | ofScalar v hv =>
    cases v
    case float x =>
      refine iff_of_true ?_ (short_of_scalar rfl nofun)
      cases x <;> exact short_of_scalar rfl nofun
    case int => exact Iff.rfl
    case list | tuple | set | object => cases hv
    all_goals exact iff_of_true (short_of_scalar rfl nofun) (short_of_scalar rfl nofun)
  | ofList xs ih =>
    rw [toJson, toJsonAll_eq_map, short_list_iff, short_list_iff, List.forall_mem_map]
    exact forall₂_congr ih
  | ofTuple xs ih =>
    rw [toJson, toJsonAll_eq_map, short_list_iff, short_tuple_iff, List.forall_mem_map]
    exact forall₂_congr ih
  | ofSet xs ih =>
    rw [toJson, toJsonAll_eq_map, short_list_iff, short_set_iff, List.forall_mem_map]
    exact forall₂_congr ih
  | ofObject es ih =>
    rw [toJson, toJsonEntries_eq_map, short_object_iff, short_object_iff, List.forall_mem_map]
    exact forall₂_congr ih

/-! ## A long integer -/

/-- The least integer that is too long to be written. -/
@[irreducible]
def long : Value := int (tenPow Literal.maxIntegerDigits)

theorem exists_int_eq_long : ∃ n, long = int n := by
  unfold long
  exact ⟨_, rfl⟩

theorem not_short_long : ¬ long.Short := by
  unfold long
  exact fun h => Nat.lt_irrefl _ (short_int_iff.mp h)

theorem isNaN_long : long.isNaN = false := by
  obtain ⟨n, hn⟩ := exists_int_eq_long
  rw [hn]
  rfl

theorem strictEq_long : long.strictEq long = true := by
  obtain ⟨n, hn⟩ := exists_int_eq_long
  rw [hn]
  exact strictEq_refl (.scalar rfl) rfl

end Formwork.Value
