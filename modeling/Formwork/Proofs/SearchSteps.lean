import Formwork.Proofs.SearchInvariant

/-!
# The steps of the cycle search

Each step of the search takes something off what is left: a reference that is still to be followed,
an id that is still to be left, or the id and the references of a fresh id. So the search from an id
ends after as many steps as the graph has ids and references at the most. On its way the stack is
the path, no id is on the path twice, and the open ids are those of the path. That is what the
search relies on when it looks an id up: an open id is found in the path, and a fresh one in the
graph. All of it is in `search_steps_safely`.
-/

namespace Formwork

namespace Search

variable {g : ReferenceGraph} {s t : Search} {done : List String}

/-! ## What is left -/

/-- For every id that is fresh, one for the id and one for each of its references. -/
def ahead (g : ReferenceGraph) (marks : List (String × Mark)) : Nat :=
  marks.foldr (fun e n => if e.2 = .fresh then (g.references e.1).length + 1 + n else n) 0

/-- How many ids and references there are. -/
def size (g : ReferenceGraph) : Nat :=
  g.ids.foldr (fun x n => (g.references x).length + 1 + n) 0

/-- What is left of the search, on the stack and ahead of it. -/
def remaining (g : ReferenceGraph) (s : Search) : Nat := pending s.stack + ahead g s.marks

section Ahead

variable {id : String} {m : Mark} {marks : List (String × Mark)}

theorem ahead_setMark_le (hm : m ≠ .fresh) (id : String) (marks : List (String × Mark)) :
    ahead g (setMark id m marks) ≤ ahead g marks := by
  induction marks with
  | nil => exact Nat.le_refl _
  | cons e rest ih =>
    obtain ⟨k, old⟩ := e
    simp only [ahead, setMark, List.foldr_cons] at ih ⊢
    by_cases hk : (k == id) = true
    · rw [if_pos hk, if_neg hm]
      split <;> omega
    · rw [if_neg hk]
      split <;> omega

/-- A fresh id is no longer ahead when it is marked, nor are its references. -/
theorem ahead_setMark (hm : m ≠ .fresh) (h : marks.lookup id = some .fresh) :
    ahead g (setMark id m marks) + ((g.references id).length + 1) ≤ ahead g marks := by
  induction marks with
  | nil => cases h
  | cons e rest ih =>
    obtain ⟨k, old⟩ := e
    have hle := ahead_setMark_le (g := g) hm id rest
    rw [List.lookup_cons] at h
    simp only [ahead, setMark, List.foldr_cons] at ih hle ⊢
    by_cases hk : k = id
    · subst hk
      rw [BEq.rfl] at h
      injection h with h
      subst h
      rw [if_pos BEq.rfl, if_neg hm, if_pos rfl]
      omega
    · have hki : (id == k) = false := by simpa using Ne.symm hk
      rw [hki] at h
      have hrest := ih h
      have hki' : (k == id) = false := by simpa using hk
      rw [hki']
      simp only [Bool.false_eq_true, if_false]
      split <;> omega

/-- Before the search all is ahead. -/
theorem ahead_fresh (g : ReferenceGraph) (ids : List String) :
    ahead g (ids.map (·, .fresh)) =
      ids.foldr (fun x n => (g.references x).length + 1 + n) 0 := by
  induction ids with
  | nil => rfl
  | cons x ids ih =>
    simp only [ahead, List.map_cons, List.foldr_cons, if_true] at ih ⊢
    rw [ih]

end Ahead

@[simp] theorem pending_cons (e : String × List String) (stack : List (String × List String)) :
    pending (e :: stack) = e.2.length + 1 + pending stack := rfl

theorem remaining_start (g : ReferenceGraph) : remaining g (start g) = size g := by
  have hmarks : (start g).marks = g.ids.map (·, .fresh) := by
    rw [start, ReferenceGraph.ids, List.map_map]
    rfl
  rw [remaining, hmarks, ahead_fresh]
  exact Nat.zero_add _

/-- Entering a fresh id moves what was ahead to the stack. -/
theorem remaining_enter_le {id : String} (h : s.marks.lookup id = some .fresh) :
    remaining g (s.enter g id) ≤ remaining g s := by
  have hahead := ahead_setMark (g := g) (m := .open) (by decide) h
  simp only [remaining, Search.enter, pending_cons]
  omega

/-- Every move takes something off. -/
theorem Move.remaining_lt (h : Move g s t) : remaining g t < remaining g s := by
  cases h with
  | @leave id below hs =>
    have hle := ahead_setMark_le (g := g) (m := .done) (by decide) id s.marks
    simp only [remaining, hs, pending_cons]
    omega
  | close hs hr =>
    simp only [remaining, hs, pending_cons, List.length_cons]
    omega
  | @enter id r rs below hs hr =>
    have hle := remaining_enter_le (g := g) (s := { s with stack := (id, rs) :: below }) hr
    refine hle.trans_lt ?_
    simp only [remaining, hs, pending_cons, List.length_cons]
    omega
  | pass hs hr =>
    simp only [remaining, hs, pending_cons, List.length_cons]
    omega

theorem remaining_lt (h : s.step? g = some t) : remaining g t < remaining g s :=
  (Move.of_step? h).remaining_lt

/-! ## Several steps -/

/-- The state after so many steps. -/
def after? (g : ReferenceGraph) : Nat → Search → Option Search
  | 0, s => some s
  | k + 1, s => (s.step? g).bind (after? g k)

/-- The run is over after some steps, and no more than are left. -/
theorem exists_after?_run (g : ReferenceGraph) (s : Search) :
    ∃ k, k + remaining g (run g s) ≤ remaining g s ∧ after? g k s = some (run g s) ∧
      (run g s).step? g = none := by
  induction s using run.induct g with
  | case1 s t hst ih =>
    obtain ⟨k, hk, hafter, hnone⟩ := ih
    rw [run_of_some hst]
    have hlt := remaining_lt hst
    refine ⟨k + 1, by omega, ?_, hnone⟩
    rw [after?, hst, Option.bind_some, hafter]
  | case2 s hst =>
    rw [run_of_none hst]
    exact ⟨0, by omega, rfl, hst⟩

/-! ## The states on the way -/

/-- The path is the stack from its bottom to its top, without an id twice, and has the open ids. An
open id that a reference leads to is found in the path, and a fresh one in the graph. -/
structure Safe (g : ReferenceGraph) (s : Search) : Prop where
  path_eq : s.path = (s.stack.map Prod.fst).reverse
  nodup : s.path.Nodup
  open_iff : ∀ x, s.marks.lookup x = some .open ↔ x ∈ s.path
  closes : ∀ r, s.marks.lookup r = some .open →
    ∃ i, s.path.idxOf? r = some i ∧ closeCycle s.path r = s.path.drop i ++ [r]
  enters : ∀ r, s.marks.lookup r = some .fresh →
    ∃ refs, g.lookup r = some refs ∧ g.references r = refs

/-- No id is open, and those that were seen are done. -/
structure Rests (s : Search) : Prop where
  stack_eq : s.stack = []
  path_eq : s.path = []
  seen_done : ∀ x m, s.marks.lookup x = some m → m = .fresh ∨ m = .done

/-- The cycle is cut off where the id is found first. -/
theorem exists_idxOf? {path : List String} {r : String} (h : r ∈ path) :
    ∃ i, path.idxOf? r = some i ∧ closeCycle path r = path.drop i ++ [r] := by
  induction path with
  | nil => cases h
  | cons x path ih =>
    by_cases hx : x = r
    · subst hx
      exact ⟨0, by simp [List.idxOf?_cons], by simp [closeCycle]⟩
    · obtain ⟨i, hi, hcut⟩ := ih ((List.mem_cons.mp h).resolve_left (Ne.symm hx))
      refine ⟨i + 1, by simp [List.idxOf?_cons, hx, hi], ?_⟩
      rw [List.drop_succ_cons, ← hcut]
      simp [closeCycle, hx]

theorem Inv.safe (h : Inv g done s) : Safe g s := by
  refine ⟨h.path_eq, h.nodup, h.open_iff, ?_, ?_⟩
  · intro r hr
    exact exists_idxOf? ((h.open_iff r).mp hr)
  · intro r hr
    obtain ⟨refs, hrefs⟩ := exists_lookup_of_mem_keys (h.mem_ids_iff.mpr ⟨_, hr⟩)
    refine ⟨refs, hrefs, ?_⟩
    rw [ReferenceGraph.references, hrefs, Option.getD_some]

theorem Inv.rests (h : Inv g done s) (hs : s.stack = []) : Rests s := by
  refine ⟨hs, h.path_eq_nil hs, ?_⟩
  rintro x (_ | _ | _) hx
  · exact Or.inl rfl
  · rw [h.open_iff, h.path_eq_nil hs] at hx
    cases hx
  · exact Or.inr rfl

/-- The search so far, before the next id of the graph. -/
theorem exists_inv_foldl (hg : ∀ x, (g.references x).Nodup) {front back : List String}
    (hids : g.ids = front ++ back) :
    ∃ done, Inv g done (front.foldl (explore g) (start g)) ∧
      (front.foldl (explore g) (start g)).stack = [] := by
  have hfront : front ⊆ g.ids := by
    rw [hids]
    exact List.subset_append_left ..
  obtain ⟨done, h, hs, -⟩ := (Inv.start g).foldl_explore hg hfront rfl
  exact ⟨done, h, hs⟩

/-- Steps keep the invariant. -/
theorem Inv.exists_inv_after (hg : ∀ x, (g.references x).Nodup) {k : Nat} (h : Inv g done s)
    (ht : after? g k s = some t) : ∃ done', Inv g done' t := by
  induction k generalizing s done with
  | zero =>
    injection ht with ht
    exact ⟨done, ht ▸ h⟩
  | succ k ih =>
    obtain ⟨u, hu, ht⟩ := Option.bind_eq_some_iff.mp ht
    obtain ⟨done', h', -⟩ := h.step hg hu
    exact ih h' ht

/-! ## The way as a whole -/

theorem remaining_explore_le (g : ReferenceGraph) (s : Search) (id : String) :
    remaining g (explore g s id) ≤ remaining g s := by
  unfold explore
  split
  · rename_i hfresh
    obtain ⟨k, hk, -⟩ := exists_after?_run g (s.enter g id)
    have hle := remaining_enter_le (g := g) hfresh
    omega
  · exact Nat.le_refl _

theorem remaining_foldl_explore_le (g : ReferenceGraph) (s : Search) (ids : List String) :
    remaining g (ids.foldl (explore g) s) ≤ remaining g s := by
  induction ids generalizing s with
  | nil => exact Nat.le_refl _
  | cons id ids ih => exact (ih (explore g s id)).trans (remaining_explore_le g s id)

/-- What the search from one id does, after it went from others. -/
structure Explores (g : ReferenceGraph) (s : Search) (id : String) : Prop where
  before : Rests s
  safe : s.marks.lookup id = some .fresh →
    ∀ k t, after? g k (s.enter g id) = some t → Safe g t
  /-- There are no more steps than ids and references. -/
  ends : s.marks.lookup id = some .fresh → ∃ k, k ≤ size g ∧
    after? g k (s.enter g id) = some (explore g s id) ∧ (explore g s id).step? g = none
  after : Rests (explore g s id)
  done : (explore g s id).marks.lookup id = some .done

theorem explores (hg : ∀ x, (g.references x).Nodup) {front back : List String} {id : String}
    (hids : g.ids = front ++ id :: back) :
    Explores g (front.foldl (explore g) (start g)) id := by
  obtain ⟨done, h, hs⟩ := exists_inv_foldl hg hids
  have hid : id ∈ g.ids := by
    rw [hids]
    simp
  obtain ⟨done', h', hs', hseen⟩ := h.explore hg hs hid
  refine ⟨h.rests hs, ?_, ?_, h'.rests hs', (h'.done_iff id).mpr (hseen id (Or.inr rfl))⟩
  · intro hfresh k t ht
    obtain ⟨done'', h''⟩ := (h.enter_first hs hfresh).exists_inv_after hg ht
    exact h''.safe
  · intro hfresh
    rw [explore, if_pos hfresh]
    obtain ⟨k, hk, hafter⟩ :=
      exists_after?_run g ((front.foldl (explore g) (start g)).enter g id)
    refine ⟨k, ?_, hafter⟩
    have henter := remaining_enter_le (g := g) hfresh
    have hfront := remaining_foldl_explore_le g (start g) front
    rw [remaining_start] at hfront
    omega

end Search

open Search ReferenceGraph

/-- Whatever the fields are, and from whichever id of theirs the search goes on: it is safe after
each step, ends after as many steps as there are ids and references at the most, and rests then with
the id done. In the end all ids are done. -/
theorem search_steps_safely (fields : List Field) :
    let g := ofFields fields
    (∀ front id back, g.ids = front ++ id :: back →
      Explores g (front.foldl (explore g) (start g)) id) ∧
    Rests (complete g) ∧ ∀ x, Declared fields x → (complete g).marks.lookup x = some .done := by
  intro g
  have hg : ∀ x, (g.references x).Nodup := nodup_references_ofFields fields
  obtain ⟨done, h, hs, hall⟩ := Inv.complete hg
  refine ⟨fun front id back hids => explores hg hids, h.rests hs, fun x hx => ?_⟩
  exact (h.done_iff x).mpr (hall x (mem_ids_ofFields.mpr hx))

end Formwork
