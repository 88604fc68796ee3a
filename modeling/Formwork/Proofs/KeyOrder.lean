import Formwork.Proofs.JsonValues
import Mathlib.Data.List.Forall2
import Mathlib.Data.List.Perm.Basic
import Mathlib.Data.List.Sort
import Mathlib.Data.String.Basic

/-!
# The order of keys

`Value.Same` relates values that differ in nothing but the order in which the keys of the objects
inside stand. The canonical text puts the keys in order, so it does not tell such values apart, and
whether a value can be written as JSON does not depend on the order either.
-/

namespace Formwork

/-! ## Entries in order -/

section Sorting

variable {α β : Type} {es fs : List (String × α)}

theorem sortByKey_perm (es : List (String × α)) : (Value.sortByKey es).Perm es :=
  List.mergeSort_perm _ _

theorem sortByKey_pairwise (es : List (String × α)) :
    (Value.sortByKey es).Pairwise fun a b => a.1 ≤ b.1 := by
  have hsorted := @List.pairwise_mergeSort (String × α) (fun a b => decide (a.1 ≤ b.1))
    (fun a b c hab hbc => by simpa using le_trans (of_decide_eq_true hab) (of_decide_eq_true hbc))
    (fun a b => by simpa using le_total a.1 b.1) es
  exact hsorted.imp fun h => of_decide_eq_true h

theorem sortByKey_map (f : α → β) (es : List (String × α)) :
    Value.sortByKey (es.map fun e => (e.1, f e.2)) =
      (Value.sortByKey es).map fun e => (e.1, f e.2) :=
  (List.map_mergeSort (f := fun e : String × α => (e.1, f e.2)) fun _ _ _ _ => rfl).symm

/-- Entries under different keys have one order only. -/
theorem sortByKey_eq_of_perm (hperm : es.Perm fs) (hkeys : (es.map Prod.fst).Nodup) :
    Value.sortByKey es = Value.sortByKey fs := by
  have hsorted := (sortByKey_perm es).trans (hperm.trans (sortByKey_perm fs).symm)
  refine @List.Perm.eq_of_pairwise _ (fun a b => a.1 ≤ b.1) _ _ ?_ (sortByKey_pairwise es)
    (sortByKey_pairwise fs) hsorted
  intro a b ha hb hab hba
  have ha' : a ∈ es := (sortByKey_perm es).mem_iff.mp ha
  have hb' : b ∈ es := hperm.mem_iff.mpr ((sortByKey_perm fs).mem_iff.mp hb)
  exact List.inj_on_of_nodup_map hkeys ha' hb' (le_antisymm hab hba)

theorem sortByKey_swap {a b : String × α} (h : a.1 < b.1) : Value.sortByKey [b, a] = [a, b] := by
  have hkeys : ([b, a].map Prod.fst).Nodup := by simp [h.ne']
  have hsorted : Value.sortByKey [a, b] = [a, b] :=
    List.mergeSort_of_pairwise (by simpa using h.le)
  rw [sortByKey_eq_of_perm (.swap ..) hkeys, hsorted]

end Sorting

namespace Value

variable {v w : Value} {xs ys : List Value} {es fs : List (String × Value)}

mutual

/-- The same value, but for the order of keys. -/
inductive Same : Value → Value → Prop
  | scalar {v : Value} (h : v.isContainer = false) : Same v v
  | list {xs ys : List Value} (h : SameAll xs ys) : Same (.list xs) (.list ys)
  | tuple {xs ys : List Value} (h : SameAll xs ys) : Same (.tuple xs) (.tuple ys)
  | set {xs ys : List Value} (h : SameAll xs ys) : Same (.set xs) (.set ys)
  | object {es fs gs : List (String × Value)} (horder : fs.Perm gs) (h : SameUnder es gs) :
      Same (.object es) (.object fs)

/-- The same one by one. -/
inductive SameAll : List Value → List Value → Prop
  | nil : SameAll [] []
  | cons {x y : Value} {xs ys : List Value} (h : Same x y) (hs : SameAll xs ys) :
      SameAll (x :: xs) (y :: ys)

/-- The same keys with the same one by one. -/
inductive SameUnder : List (String × Value) → List (String × Value) → Prop
  | nil : SameUnder [] []
  | cons {k : String} {x y : Value} {es fs : List (String × Value)} (h : Same x y)
      (hs : SameUnder es fs) : SameUnder ((k, x) :: es) ((k, y) :: fs)

end

/-- Entries with one key and the same value. -/
def SameEntry (e f : String × Value) : Prop := e.1 = f.1 ∧ Same e.2 f.2

theorem sameAll_iff : SameAll xs ys ↔ List.Forall₂ Same xs ys := by
  induction xs generalizing ys with
  | nil =>
    constructor
    · rintro ⟨⟩
      exact .nil
    · rintro ⟨⟩
      exact .nil
  | cons x xs ih =>
    constructor
    · rintro (_ | ⟨h, hs⟩)
      exact .cons h (ih.mp hs)
    · rintro (_ | ⟨h, hs⟩)
      exact .cons h (ih.mpr hs)

theorem sameUnder_iff : SameUnder es fs ↔ List.Forall₂ SameEntry es fs := by
  induction es generalizing fs with
  | nil =>
    constructor
    · rintro ⟨⟩
      exact .nil
    · rintro ⟨⟩
      exact .nil
  | cons e es ih =>
    constructor
    · rintro (_ | ⟨h, hs⟩)
      exact .cons ⟨rfl, h⟩ (ih.mp hs)
    · rintro (_ | @⟨_, ⟨k, y⟩, _, fs, ⟨hk, h⟩, hs⟩)
      obtain ⟨k', x⟩ := e
      obtain rfl : k' = k := hk
      exact .cons h (ih.mpr hs)

theorem same_list_iff : Same (.list xs) w ↔ ∃ ys, w = .list ys ∧ List.Forall₂ Same xs ys := by
  constructor
  · rintro (h | h)
    · cases h
    · exact ⟨_, rfl, sameAll_iff.mp h⟩
  · rintro ⟨ys, rfl, h⟩
    exact .list (sameAll_iff.mpr h)

theorem same_object_iff :
    Same (.object es) w ↔
      ∃ fs gs, w = .object fs ∧ fs.Perm gs ∧ List.Forall₂ SameEntry es gs := by
  constructor
  · intro h
    cases h with
    | scalar hc => cases hc
    | object horder h => exact ⟨_, _, rfl, horder, sameUnder_iff.mp h⟩
  · rintro ⟨fs, gs, rfl, horder, h⟩
    exact .object horder (sameUnder_iff.mpr h)

theorem same_scalar_iff (h : v.isContainer = false) : Same v w ↔ v = w := by
  constructor
  · rintro (_ | _)
    · rfl
    all_goals cases h
  · rintro rfl
    exact .scalar h

/-- What holds of every value that holds no others, and is handed on from members to containers,
holds of values that are the same. -/
theorem Same.induction {P : Value → Value → Prop}
    (ofScalar : ∀ v, v.isContainer = false → P v v)
    (ofList : ∀ xs ys, List.Forall₂ P xs ys → P (.list xs) (.list ys))
    (ofTuple : ∀ xs ys, List.Forall₂ P xs ys → P (.tuple xs) (.tuple ys))
    (ofSet : ∀ xs ys, List.Forall₂ P xs ys → P (.set xs) (.set ys))
    (ofObject : ∀ es fs gs, fs.Perm gs →
      List.Forall₂ (fun e g => e.1 = g.1 ∧ P e.2 g.2) es gs → P (.object es) (.object fs))
    {v w : Value} (h : Same v w) : P v w := by
  refine @Same.rec (fun v w _ => P v w) (fun xs ys _ => List.Forall₂ P xs ys)
    (fun es gs _ => List.Forall₂ (fun e g => e.1 = g.1 ∧ P e.2 g.2) es gs)
    (fun hv => ofScalar _ hv) (fun _ ih => ofList _ _ ih) (fun _ ih => ofTuple _ _ ih)
    (fun _ ih => ofSet _ _ ih) (fun horder _ ih => ofObject _ _ _ horder ih)
    .nil (fun _ _ ih ihs => .cons ih ihs) .nil ?_ v w h
  exact fun _ _ ih ihs => .cons ⟨rfl, ih⟩ ihs

theorem Same.refl (v : Value) : Same v v := by
  induction v using nested_induction with
  | ofScalar v hv => exact .scalar hv
  | ofList xs ih => exact .list (sameAll_iff.mpr (List.forall₂_same.mpr ih))
  | ofTuple xs ih => exact .tuple (sameAll_iff.mpr (List.forall₂_same.mpr ih))
  | ofSet xs ih => exact .set (sameAll_iff.mpr (List.forall₂_same.mpr ih))
  | ofObject es ih =>
    have hself : List.Forall₂ SameEntry es es := List.forall₂_same.mpr fun e he => ⟨rfl, ih e he⟩
    exact .object (.refl _) (sameUnder_iff.mpr hself)

/-! ## Different keys -/

theorem distinctKeys_list_iff : DistinctKeys (.list xs) ↔ ∀ x ∈ xs, x.DistinctKeys := by
  refine ⟨fun h => ?_, .list⟩
  cases h with
  | scalar hc => cases hc
  | list h => exact h

theorem distinctKeys_tuple_iff : DistinctKeys (.tuple xs) ↔ ∀ x ∈ xs, x.DistinctKeys := by
  refine ⟨fun h => ?_, .tuple⟩
  cases h with
  | scalar hc => cases hc
  | tuple h => exact h

theorem distinctKeys_set_iff : DistinctKeys (.set xs) ↔ ∀ x ∈ xs, x.DistinctKeys := by
  refine ⟨fun h => ?_, .set⟩
  cases h with
  | scalar hc => cases hc
  | set h => exact h

theorem distinctKeys_object_iff :
    DistinctKeys (.object es) ↔ (es.map Prod.fst).Nodup ∧ ∀ e ∈ es, e.2.DistinctKeys := by
  refine ⟨fun h => ?_, fun h => .object h.1 h.2⟩
  cases h with
  | scalar hc => cases hc
  | object hkeys h => exact ⟨hkeys, h⟩

/-! ## What the order of keys does not change -/

theorem map_eq_of_forall₂ {α β γ : Type} {f : α → γ} {g : β → γ} {l : List α} {m : List β}
    (h : List.Forall₂ (fun a b => f a = g b) l m) : l.map f = m.map g := by
  induction h with
  | nil => rfl
  | cons hab _ ih => rw [List.map_cons, List.map_cons, hab, ih]

/-- What is handed on between members that are related is handed on between lists of them. -/
theorem forall_mem_of_forall₂ {α β : Type} {P : α → Prop} {Q : β → Prop} {l : List α} {m : List β}
    (h : List.Forall₂ (fun a b => P a → Q b) l m) (hP : ∀ a ∈ l, P a) : ∀ b ∈ m, Q b := by
  induction h with
  | nil => exact fun b hb => by cases hb
  | cons hab _ ih =>
    rw [List.forall_mem_cons] at hP ⊢
    exact ⟨hab hP.1, ih hP.2⟩

theorem DistinctKeys.toJson (h : v.DistinctKeys) : v.toJson.DistinctKeys := by
  induction v using nested_induction with
  | ofScalar v hv =>
    refine .scalar ?_
    rcases v with _ | _ | _ | (_ | _ | _) | _ | _ | _ | _ | _ | _ | _ | _
    all_goals cases hv <;> rfl
  | ofList xs ih =>
    rw [Value.toJson, toJsonAll_eq_map]
    exact .list (List.forall_mem_map.mpr fun x hx => ih x hx (distinctKeys_list_iff.mp h x hx))
  | ofTuple xs ih =>
    rw [Value.toJson, toJsonAll_eq_map]
    exact .list (List.forall_mem_map.mpr fun x hx => ih x hx (distinctKeys_tuple_iff.mp h x hx))
  | ofSet xs ih =>
    rw [Value.toJson, toJsonAll_eq_map]
    exact .list (List.forall_mem_map.mpr fun x hx => ih x hx (distinctKeys_set_iff.mp h x hx))
  | ofObject es ih =>
    obtain ⟨hkeys, hvalues⟩ := distinctKeys_object_iff.mp h
    rw [Value.toJson, toJsonEntries_eq_map]
    refine .object ?_ (List.forall_mem_map.mpr fun e he => ih e he (hvalues e he))
    rw [List.map_map]
    exact hkeys

theorem forall_mem_iff_of_forall₂ {α β : Type} {P : α → Prop} {Q : β → Prop} {l : List α}
    {m : List β} (h : List.Forall₂ (fun a b => P a ↔ Q b) l m) :
    (∀ a ∈ l, P a) ↔ ∀ b ∈ m, Q b := by
  induction h with
  | nil => simp
  | cons hab _ ih => rw [List.forall_mem_cons, List.forall_mem_cons, hab, ih]

theorem Same.distinctKeys (h : Same v w) : v.DistinctKeys → w.DistinctKeys := by
  refine h.induction (P := fun v w => v.DistinctKeys → w.DistinctKeys)
    ?ofScalar ?ofList ?ofTuple ?ofSet ?ofObject
  case ofScalar => exact fun v _ hv => hv
  case ofList =>
    intro xs ys ih hv
    exact .list (forall_mem_of_forall₂ ih (distinctKeys_list_iff.mp hv))
  case ofTuple =>
    intro xs ys ih hv
    exact .tuple (forall_mem_of_forall₂ ih (distinctKeys_tuple_iff.mp hv))
  case ofSet =>
    intro xs ys ih hv
    exact .set (forall_mem_of_forall₂ ih (distinctKeys_set_iff.mp hv))
  case ofObject =>
    intro es fs gs horder ih hv
    obtain ⟨hkeys, hvalues⟩ := distinctKeys_object_iff.mp hv
    have hgs : ∀ g ∈ gs, g.2.DistinctKeys :=
      forall_mem_of_forall₂ (ih.imp fun e g heg => heg.2) hvalues
    refine .object ?_ fun f hf => hgs f (horder.mem_iff.mp hf)
    rw [(horder.map Prod.fst).nodup_iff, ← map_eq_of_forall₂ (ih.imp fun e g heg => heg.1)]
    exact hkeys

theorem Same.toJson (h : Same v w) : Same v.toJson w.toJson := by
  refine h.induction (P := fun v w => Same v.toJson w.toJson)
    ?ofScalar ?ofList ?ofTuple ?ofSet ?ofObject
  case ofScalar => exact fun v _ => .refl _
  case ofList | ofTuple | ofSet =>
    intro xs ys ih
    rw [Value.toJson, Value.toJson, toJsonAll_eq_map, toJsonAll_eq_map]
    refine .list (sameAll_iff.mpr ?_)
    rw [List.forall₂_map_left_iff, List.forall₂_map_right_iff]
    exact ih
  case ofObject =>
    intro es fs gs horder ih
    rw [Value.toJson, Value.toJson, toJsonEntries_eq_map, toJsonEntries_eq_map]
    refine .object (horder.map _) (sameUnder_iff.mpr ?_)
    rw [List.forall₂_map_left_iff, List.forall₂_map_right_iff]
    exact ih

/-- Whether a value can be written as JSON does not depend on the order of keys. -/
theorem Same.noJson?_eq_none_iff (h : Same v w) :
    ∀ levels, v.noJson? levels = none ↔ w.noJson? levels = none := by
  refine h.induction (P := fun v w => ∀ levels, v.noJson? levels = none ↔ w.noJson? levels = none)
    ?ofScalar ?ofList ?ofTuple ?ofSet ?ofObject
  case ofScalar => exact fun v _ levels => Iff.rfl
  case ofList | ofTuple | ofSet =>
    intro xs ys ih levels
    rw [noJson?, noJson?]
    by_cases hlevels : levels = 0
    · rw [if_pos hlevels, if_pos hlevels]
    · rw [if_neg hlevels, if_neg hlevels, noJsonAmong?_eq_none_iff, noJsonAmong?_eq_none_iff]
      exact forall_mem_iff_of_forall₂ (ih.imp fun x y hxy => hxy _)
  case ofObject =>
    intro es fs gs horder ih levels
    rw [noJson?, noJson?]
    by_cases hlevels : levels = 0
    · rw [if_pos hlevels, if_pos hlevels]
    · rw [if_neg hlevels, if_neg hlevels, noJsonUnder?_eq_none_iff, noJsonUnder?_eq_none_iff]
      refine (forall_mem_iff_of_forall₂ (ih.imp fun e g heg => heg.2 _)).trans ?_
      exact forall_congr' fun f => imp_congr_left horder.mem_iff.symm

/-- The same integers are inside, whatever the order of keys. -/
theorem Same.short_iff (h : Same v w) : v.Short ↔ w.Short := by
  refine h.induction (P := fun v w => v.Short ↔ w.Short) ?ofScalar ?ofList ?ofTuple ?ofSet ?ofObject
  case ofScalar => exact fun v _ => Iff.rfl
  case ofList =>
    intro xs ys ih
    rw [short_list_iff, short_list_iff]
    exact forall_mem_iff_of_forall₂ ih
  case ofTuple =>
    intro xs ys ih
    rw [short_tuple_iff, short_tuple_iff]
    exact forall_mem_iff_of_forall₂ ih
  case ofSet =>
    intro xs ys ih
    rw [short_set_iff, short_set_iff]
    exact forall_mem_iff_of_forall₂ ih
  case ofObject =>
    intro es fs gs horder ih
    rw [short_object_iff, short_object_iff]
    refine (forall_mem_iff_of_forall₂ (ih.imp fun e g heg => heg.2)).trans ?_
    exact forall_congr' fun f => imp_congr_left horder.mem_iff.symm

/-! ## The canonical text -/

theorem canonicalAll_eq_map (xs : List Value) : canonicalAll xs = xs.map canonicalChars := by
  induction xs with
  | nil => rfl
  | cons x xs ih => rw [canonicalAll, ih, List.map_cons]

theorem canonicalEntries_eq_map (es : List (String × Value)) :
    canonicalEntries es = es.map fun e => (e.1, e.2.canonicalChars) := by
  induction es with
  | nil => rfl
  | cons e es ih =>
    obtain ⟨k, x⟩ := e
    rw [canonicalEntries, ih, List.map_cons]

/-- The text of an entry: the key in quotes, a colon, and the value. -/
def entryChars (e : String × Value) : List Char := jsonQuoted e.1 ++ ':' :: e.2.canonicalChars

theorem canonicalChars_list (xs : List Value) :
    canonicalChars (.list xs) = '[' :: Text.joinChars [','] (xs.map canonicalChars) ++ [']'] := by
  rw [canonicalChars, canonicalAll_eq_map]

theorem canonicalChars_object (es : List (String × Value)) :
    canonicalChars (.object es) =
      '\x7b' :: Text.joinChars [','] ((sortByKey es).map entryChars) ++ ['\x7d'] := by
  rw [canonicalChars, canonicalEntries_eq_map, sortByKey_map, List.map_map]
  rfl

/-- Values that differ in the order of keys only have one text. -/
theorem Same.canonicalChars_eq (h : Same v w) :
    v.DistinctKeys → v.canonicalChars = w.canonicalChars := by
  have hall : ∀ {xs ys : List Value}, (∀ x ∈ xs, x.DistinctKeys) →
      List.Forall₂ (fun x y => DistinctKeys x → x.canonicalChars = y.canonicalChars) xs ys →
      canonicalAll xs = canonicalAll ys := by
    intro xs ys hxs ih
    have hpairs := (List.forall₂_and_left xs ys).mpr ⟨hxs, ih⟩
    rw [canonicalAll_eq_map, canonicalAll_eq_map]
    exact map_eq_of_forall₂ (hpairs.imp fun x y hxy => hxy.2 hxy.1)
  refine h.induction (P := fun v w => v.DistinctKeys → v.canonicalChars = w.canonicalChars)
    ?ofScalar ?ofList ?ofTuple ?ofSet ?ofObject
  case ofScalar => exact fun v _ _ => rfl
  case ofList =>
    intro xs ys ih hv
    rw [canonicalChars, canonicalChars, hall (distinctKeys_list_iff.mp hv) ih]
  case ofTuple =>
    intro xs ys ih hv
    rw [canonicalChars, canonicalChars, hall (distinctKeys_tuple_iff.mp hv) ih]
  case ofSet =>
    intro xs ys ih hv
    rw [canonicalChars, canonicalChars, hall (distinctKeys_set_iff.mp hv) ih]
  case ofObject =>
    intro es fs gs horder ih hv
    obtain ⟨hkeys, hvalues⟩ := distinctKeys_object_iff.mp hv
    have hpairs := (List.forall₂_and_left es gs).mpr ⟨hvalues, ih⟩
    have htexts : canonicalEntries es = canonicalEntries gs := by
      rw [canonicalEntries_eq_map, canonicalEntries_eq_map]
      refine map_eq_of_forall₂ (hpairs.imp fun e g heg => ?_)
      rw [heg.2.1, heg.2.2 heg.1]
    -- The entries of the two objects are in one order once they are sorted.
    have hsorted : sortByKey (canonicalEntries gs) = sortByKey (canonicalEntries fs) := by
      rw [canonicalEntries_eq_map, canonicalEntries_eq_map]
      refine sortByKey_eq_of_perm (horder.symm.map _) ?_
      rw [List.map_map]
      exact map_eq_of_forall₂ (ih.imp fun e g heg => heg.1) ▸ hkeys
    rw [canonicalChars, canonicalChars, htexts, hsorted]

end Value

end Formwork
