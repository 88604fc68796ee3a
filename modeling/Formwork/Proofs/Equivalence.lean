import Formwork.Proofs.KeyOrder
import Mathlib

/-!
# Strict equality is a partial equivalence

Equality is symmetric as long as the containers are what they seem: no object has a key twice and
no set a member twice. Lists and tuples are then compared place by place, and objects and sets of
one size by finding every member of one in the other. Distinct members find distinct partners, so
none of the other is left without one. Only a NaN does not strictly equal itself.
-/

namespace Formwork.Value

variable {u v w x : Value} {xs ys : List Value} {es fs : List (String × Value)}

/-! ## Values inside a value -/

theorem DistinctKeys.inside (hv : v.DistinctKeys) (h : v.Holds w) : w.DistinctKeys := by
  induction h with
  | self => exact hv
  | list hx _ ih => exact ih (distinctKeys_list_iff.mp hv _ hx)
  | tuple hx _ ih => exact ih (distinctKeys_tuple_iff.mp hv _ hx)
  | set hx _ ih => exact ih (distinctKeys_set_iff.mp hv _ hx)
  | object he _ ih => exact ih ((distinctKeys_object_iff.mp hv).2 _ he)

/-- No object inside has a key twice, and no set inside has a member twice. -/
structure Genuine (v : Value) : Prop where
  keys : v.DistinctKeys
  members : ∀ xs, v.Holds (.set xs) → xs.Pairwise fun x y => eqv x y = false

theorem Genuine.inside (hv : v.Genuine) (h : v.Holds w) : w.Genuine where
  keys := hv.keys.inside h
  members xs hxs := hv.members xs (h.trans hxs)

theorem genuine_of_scalar (h : v.isContainer = false) : v.Genuine where
  keys := .scalar h
  members xs hxs := by
    rw [← (holds_scalar_iff h).mp hxs] at h
    cases h

theorem genuine_list (h : ∀ x ∈ xs, x.Genuine) : (list xs).Genuine where
  keys := .list fun x hx => (h x hx).keys
  members ys hys := by
    rcases holds_list_iff.mp hys with hys | ⟨x, hx, hys⟩
    · cases hys
    · exact (h x hx).members ys hys

/-! ## Symmetry -/

theorem SameContent.symm (h : SameContent v w) : SameContent w v := by
  obtain ⟨k, hv, hw⟩ := h
  exact ⟨k, hw, hv⟩

theorem forall₂_symm (hsymm : ∀ x ∈ xs, ∀ y, eqv x y = true → eqv y x = true)
    (h : List.Forall₂ (fun x y => eqv x y = true) xs ys) :
    List.Forall₂ (fun y x => eqv y x = true) ys xs := by
  induction h with
  | nil => exact .nil
  | cons hxy _ ih =>
    rw [List.forall_mem_cons] at hsymm
    exact .cons (hsymm.1 _ hxy) (ih hsymm.2)

/-- Distinct members that all have partners in a list of the same size leave none there without
one. -/
theorem exists_partner (hlen : xs.length = ys.length)
    (hdistinct : xs.Pairwise fun x y => eqv x y = false)
    (hsymm : ∀ x ∈ xs, ∀ y, eqv x y = true → eqv y x = true)
    (h : ∀ x ∈ xs, ∃ y ∈ ys, eqv x y = true) : ∀ y ∈ ys, ∃ x ∈ xs, eqv y x = true := by
  have : Nonempty Value := ⟨.null⟩
  choose! partner hmem heqv using h
  have hnodup : (xs.map partner).Nodup := by
    refine List.pairwise_map.mpr (hdistinct.imp_of_mem fun {x x'} hx hx' hapart hsame => ?_)
    -- Two members with one partner would equal each other.
    have hback := hsymm x' hx' _ (heqv x' hx')
    rw [← hsame] at hback
    rw [eqv_trans (heqv x hx) hback] at hapart
    cases hapart
  have hperm : (xs.map partner).Perm ys := by
    refine (hnodup.subperm fun y hy => ?_).perm_of_length_le (by rw [List.length_map, hlen])
    obtain ⟨x, hx, rfl⟩ := List.mem_map.mp hy
    exact hmem x hx
  intro y hy
  obtain ⟨x, hx, rfl⟩ := List.mem_map.mp (hperm.mem_iff.mpr hy)
  exact ⟨x, hx, hsymm x hx _ (heqv x hx)⟩

/-- Objects of one size have the same keys if every key of one is a key of the other. -/
theorem keys_perm (hkeys : (es.map Prod.fst).Nodup) (hlen : es.length = fs.length)
    (h : ∀ e ∈ es, e.1 ∈ fs.map Prod.fst) : (es.map Prod.fst).Perm (fs.map Prod.fst) := by
  refine (hkeys.subperm fun k hk => ?_).perm_of_length_le (by simp [hlen])
  obtain ⟨e, he, rfl⟩ := List.mem_map.mp hk
  exact h e he

theorem eqv_symm (hv : v.Genuine) (h : eqv v w = true) : eqv w v = true := by
  induction v using nested_induction generalizing w with
  | ofScalar v hscalar =>
    have hw : w.isContainer = false := by rw [← isContainer_eq_of_eqv h, hscalar]
    rw [eqv_of_scalar hw, scalarEqv_iff]
    exact (sameContent_of_eqv hscalar h).symm
  | ofList xs ih =>
    obtain ⟨ys, rfl, hxy⟩ := eqv_list_iff.mp h
    have hsymm := fun x hx y => ih x hx (hv.inside (.list hx (.self x))) (w := y)
    exact eqv_list_iff.mpr ⟨xs, rfl, forall₂_symm hsymm hxy⟩
  | ofTuple xs ih =>
    obtain ⟨ys, rfl, hxy⟩ := eqv_tuple_iff.mp h
    have hsymm := fun x hx y => ih x hx (hv.inside (.tuple hx (.self x))) (w := y)
    exact eqv_tuple_iff.mpr ⟨xs, rfl, forall₂_symm hsymm hxy⟩
  | ofSet xs ih =>
    obtain ⟨ys, rfl, hlen, hxy⟩ := eqv_set_iff.mp h
    have hsymm := fun x hx y => ih x hx (hv.inside (.set hx (.self x))) (w := y)
    exact eqv_set_iff.mpr
      ⟨xs, rfl, hlen.symm, exists_partner hlen (hv.members xs (.self _)) hsymm hxy⟩
  | ofObject es ih =>
    obtain ⟨fs, rfl, hlen, hxy⟩ := eqv_object_iff.mp h
    have hkeys := (distinctKeys_object_iff.mp hv.keys).1
    have hperm := keys_perm hkeys hlen fun e he => by
      obtain ⟨y, hy, -⟩ := hxy e he
      exact mem_keys_of_lookup hy
    refine eqv_object_iff.mpr ⟨es, rfl, hlen.symm, fun f hf => ?_⟩
    obtain ⟨x, hx⟩ := exists_lookup_of_mem_keys
      (hperm.mem_iff.mpr (List.mem_map_of_mem (f := Prod.fst) hf))
    have he := mem_of_lookup hx
    obtain ⟨y, hy, heqv⟩ := hxy _ he
    -- The keys of the other object are distinct as well, so what is found there is this entry.
    rw [lookup_of_mem (hperm.nodup_iff.mp hkeys) hf] at hy
    injection hy with hy
    subst hy
    exact ⟨x, hx, ih _ he (hv.inside (.object he (.self _))) heqv⟩

theorem strictEq_symm (hv : v.Genuine) (h : strictEq v w = true) : strictEq w v = true := by
  obtain ⟨hbool, -, heqv⟩ := strictEq_iff.mp h
  exact strictEq_iff.mpr ⟨hbool.symm, isNaN_of_strictEq h, eqv_symm hv heqv⟩

theorem strictEq_comm (hv : v.Genuine) (hw : w.Genuine) : strictEq v w = strictEq w v :=
  Bool.eq_iff_iff.mpr ⟨strictEq_symm hv, strictEq_symm hw⟩

/-- Strict equality is symmetric and transitive, and everything without a NaN inside equals
itself. -/
theorem strictEq_partial_equivalence :
    (∀ a b : Value, a.Genuine → b.Genuine → strictEq a b = strictEq b a) ∧
    (∀ a b c : Value, strictEq a b = true → strictEq b c = true → strictEq a c = true) ∧
    ∀ a : Value, a.Genuine → (∀ mark, ¬ a.Holds (.float (.nan mark))) → strictEq a a = true := by
  refine ⟨fun a b => strictEq_comm, fun a b c => strictEq_trans, fun a ha hnan => ?_⟩
  refine strictEq_refl ha.keys ?_
  rcases a with _ | _ | _ | (_ | _ | mark) | _ | _ | _ | _ | _ | _ | _ | _
  case float.nan => exact absurd (.self _) (hnan mark)
  all_goals rfl

/-- Inside a list an integer equals the binary64 number of its value, and a Boolean the number that
it counts as. -/
theorem strictEq_partial_equivalence_list :
    let a := list [int (2 ^ 53), bool true]
    let b := list [float (Binary64.ofInt (2 ^ 53)), int 1]
    let c := list [int (2 ^ 53), float (Binary64.ofInt 1)]
    a.Genuine ∧ b.Genuine ∧ (∀ mark, ¬ a.Holds (.float (.nan mark))) ∧
      strictEq a b = true ∧ strictEq b c = true ∧
      strictEq b a = true ∧ strictEq a c = true ∧ strictEq a a = true := by
  intro a b c
  have hscalars : ∀ x ∈ [int (2 ^ 53), bool true, float (Binary64.ofInt (2 ^ 53)), int 1],
      x.isContainer = false := by simp [isContainer]
  have ha : a.Genuine :=
    genuine_list fun x hx => genuine_of_scalar (hscalars x (List.mem_append_left _ hx))
  have hb : b.Genuine :=
    genuine_list fun x hx => genuine_of_scalar (hscalars x (List.mem_append_right [_, _] hx))
  have hnan : ∀ mark, ¬ a.Holds (.float (.nan mark)) := by
    intro mark hmark
    rcases holds_list_iff.mp hmark with hmark | ⟨x, hx, hmark⟩
    · cases hmark
    · obtain rfl := (holds_scalar_iff (hscalars x (List.mem_append_left _ hx))).mp hmark
      simp at hx
  have hab : strictEq a b = true := by decide +kernel
  have hbc : strictEq b c = true := by decide +kernel
  obtain ⟨hsymm, htrans, hself⟩ := strictEq_partial_equivalence
  exact ⟨ha, hb, hnan, hab, hbc, by rw [hsymm b a hb ha, hab], htrans a b c hab hbc,
    hself a ha hnan⟩

end Formwork.Value
