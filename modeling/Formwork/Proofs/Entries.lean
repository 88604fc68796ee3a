import Formwork.Value.Entries
import Mathlib.Data.List.Nodup

/-!
# Looking up entries

Which keys a list of entries has, and what is found under them. Entries with different keys stay as
they are when they are put one after another.
-/

namespace Formwork

section Keys

variable {κ α : Type} [BEq κ] [LawfulBEq κ] {entries : List (κ × α)} {k : κ} {a : α}

theorem mem_of_lookup (h : entries.lookup k = some a) : (k, a) ∈ entries := by
  obtain ⟨front, back, hentries, -⟩ := List.lookup_eq_some_iff.mp h
  rw [hentries]
  simp

theorem mem_keys_of_lookup (h : entries.lookup k = some a) : k ∈ entries.map Prod.fst :=
  List.mem_map_of_mem (mem_of_lookup h)

theorem exists_lookup_of_mem_keys (h : k ∈ entries.map Prod.fst) :
    ∃ a, entries.lookup k = some a := by
  obtain ⟨e, he, rfl⟩ := List.mem_map.mp h
  exact Option.isSome_iff_exists.mp (List.lookup_isSome_iff.mpr ⟨e, he, BEq.rfl⟩)

theorem lookup_eq_none_iff_notMem : entries.lookup k = none ↔ k ∉ entries.map Prod.fst := by
  constructor
  · intro h hk
    obtain ⟨a, ha⟩ := exists_lookup_of_mem_keys hk
    rw [h] at ha
    cases ha
  · intro hk
    cases h : entries.lookup k with
    | none => rfl
    | some a => exact absurd (mem_keys_of_lookup h) hk

/-! ## Different keys -/

theorem lookup_of_mem (hnodup : (entries.map Prod.fst).Nodup) (h : (k, a) ∈ entries) :
    entries.lookup k = some a := by
  induction entries with
  | nil => cases h
  | cons e entries ih =>
    obtain ⟨k', a'⟩ := e
    rw [List.map_cons, List.nodup_cons] at hnodup
    rw [List.lookup_cons]
    rcases List.mem_cons.mp h with heq | hmem
    · injection heq with hk ha
      rw [hk, ha, beq_self_eq_true]
    · have hk : k ≠ k' := by
        rintro rfl
        exact hnodup.1 (List.mem_map.mpr ⟨_, hmem, rfl⟩)
      rw [beq_false_of_ne hk]
      exact ih hnodup.2 hmem

end Keys

variable {α : Type} {entries : List (String × α)} {k : String} {a : α}

theorem putEntry_of_notMem (h : k ∉ entries.map Prod.fst) :
    putEntry entries k a = entries ++ [(k, a)] := by
  induction entries with
  | nil => rfl
  | cons e entries ih =>
    rw [List.map_cons, List.mem_cons, not_or] at h
    rw [putEntry, if_neg (by simpa using Ne.symm h.1), ih h.2, List.cons_append]

/-- Entries with new keys are put behind those that are there. -/
theorem foldl_putEntry {more : List (String × α)}
    (hnodup : ((entries ++ more).map Prod.fst).Nodup) :
    more.foldl (fun es e => putEntry es e.1 e.2) entries = entries ++ more := by
  induction more generalizing entries with
  | nil => rw [List.foldl_nil, List.append_nil]
  | cons e more ih =>
    have hnew : e.1 ∉ entries.map Prod.fst := by
      rw [List.map_append, List.map_cons] at hnodup
      exact fun he => (List.nodup_append.mp hnodup).2.2 _ he _ List.mem_cons_self rfl
    rw [List.append_cons] at hnodup
    rw [List.foldl_cons, putEntry_of_notMem hnew, ih hnodup, ← List.append_cons]

section FilterMap

variable {β γ : Type} {xs : List β}

/-- What some members of a list are turned into keeps their order. -/
theorem map_filterMap_sublist {f : β → Option α} {g : α → γ} {key : β → γ}
    (h : ∀ x a, f x = some a → g a = key x) : ((xs.filterMap f).map g).Sublist (xs.map key) := by
  induction xs with
  | nil => exact .slnil
  | cons x xs ih =>
    rw [List.filterMap_cons, List.map_cons]
    cases hx : f x with
    | none => exact ih.cons _
    | some a =>
      rw [List.map_cons, h x a hx]
      exact ih.cons_cons _

/-- Under the key of a member its own value is found, if it has one. -/
theorem lookup_filterMap {key : β → String} {value : β → Option α} {x : β}
    (hnodup : (xs.map key).Nodup) (hx : x ∈ xs) :
    (xs.filterMap fun x => (value x).map (key x, ·)).lookup (key x) = value x := by
  have hkeys : ((xs.filterMap fun x => (value x).map (key x, ·)).map Prod.fst).Nodup := by
    refine hnodup.sublist (map_filterMap_sublist fun x e he => ?_)
    obtain ⟨a, -, rfl⟩ := Option.map_eq_some_iff.mp he
    rfl
  cases ha : value x with
  | some a =>
    refine lookup_of_mem hkeys (List.mem_filterMap.mpr ⟨x, hx, ?_⟩)
    rw [ha, Option.map_some]
  | none =>
    rw [lookup_eq_none_iff_notMem]
    intro hmem
    obtain ⟨e, he, hek⟩ := List.mem_map.mp hmem
    obtain ⟨y, hy, hye⟩ := List.mem_filterMap.mp he
    obtain ⟨a, hya, rfl⟩ := Option.map_eq_some_iff.mp hye
    -- No other member has this key.
    have hyx : y = x := List.inj_on_of_nodup_map hnodup hy hx hek
    rw [hyx, ha] at hya
    cases hya

end FilterMap

end Formwork
