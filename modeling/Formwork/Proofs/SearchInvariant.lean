import Formwork.Form.Cycles
import Formwork.Proofs.Entries
import Formwork.Proofs.References
import Mathlib.Data.List.Chain

/-!
# What the cycle search keeps true

`Search.step?` makes one of four moves. The invariant `Search.Inv` ties the state to the list of the
ids that are done, the last first:

1. The stack is the path upside down, the open ids are those of the path, and the id above an entry
   is the reference that was followed last.
2. A reference that was followed is answered: it leads out of the graph or to an id that is done, or
   it closes a cycle that was found. When an id is done all its references are answered, so the
   references that close no cycle lead to ids that were done before.
3. Every cycle that was found is one, and no two are closed by the same reference, since a
   reference is followed once.
-/

namespace Formwork.Search

variable {g : ReferenceGraph} {s t : Search} {done : List String}

/-! ## Marks -/

theorem keys_setMark (id : String) (m : Mark) (marks : List (String × Mark)) :
    (setMark id m marks).map Prod.fst = marks.map Prod.fst := by
  induction marks with
  | nil => rfl
  | cons e rest ih => rw [setMark, List.map_cons, ih, List.map_cons]

theorem lookup_setMark_ne {id x : String} (hx : x ≠ id) (m : Mark) (marks : List (String × Mark)) :
    (setMark id m marks).lookup x = marks.lookup x := by
  induction marks with
  | nil => rfl
  | cons e rest ih =>
    obtain ⟨k, old⟩ := e
    rw [setMark, List.lookup_cons, List.lookup_cons, ih]
    by_cases hk : k = id
    · subst hk
      have hxk : (x == k) = false := by simpa using hx
      rw [hxk]
    · have hki : (k == id) = false := by simpa using hk
      rw [hki]
      rfl

theorem lookup_setMark_self {id : String} {m : Mark} {marks : List (String × Mark)}
    (h : id ∈ marks.map Prod.fst) : (setMark id m marks).lookup id = some m := by
  induction marks with
  | nil => simp at h
  | cons e rest ih =>
    obtain ⟨k, old⟩ := e
    by_cases hk : k = id
    · subst hk
      rw [setMark, BEq.rfl, List.lookup_cons, BEq.rfl]
      rfl
    · have hki : (id == k) = false := by simpa using Ne.symm hk
      have hrest : id ∈ rest.map Prod.fst := by
        rcases List.mem_cons.mp h with h | h
        · exact absurd h.symm hk
        · exact h
      rw [setMark, List.lookup_cons, hki]
      exact ih hrest

/-! ## The moves -/

/-- What a step does: it leaves an id without further references, closes a cycle at an open id,
enters a fresh id, or passes over what is done or no id. -/
inductive Move (g : ReferenceGraph) (s : Search) : Search → Prop
  | leave {id : String} {below : List (String × List String)} (hs : s.stack = (id, []) :: below) :
      Move g s { s with
        marks := setMark id .done s.marks, path := s.path.dropLast, stack := below }
  | close {id r : String} {rs : List String} {below : List (String × List String)}
      (hs : s.stack = (id, r :: rs) :: below) (hr : s.marks.lookup r = some .open) :
      Move g s { s with
        stack := (id, rs) :: below, cycles := s.cycles ++ [closeCycle s.path r] }
  | enter {id r : String} {rs : List String} {below : List (String × List String)}
      (hs : s.stack = (id, r :: rs) :: below) (hr : s.marks.lookup r = some .fresh) :
      Move g s (enter g { s with stack := (id, rs) :: below } r)
  | pass {id r : String} {rs : List String} {below : List (String × List String)}
      (hs : s.stack = (id, r :: rs) :: below)
      (hr : s.marks.lookup r = some .done ∨ s.marks.lookup r = none) :
      Move g s { s with stack := (id, rs) :: below }

theorem Move.of_step? (h : s.step? g = some t) : Move g s t := by
  unfold step? at h
  split at h
  · simp at h
  · rename_i id below hs
    injection h with h
    exact h ▸ .leave hs
  · rename_i id r rs below hs
    simp only at h
    split at h <;> injection h with h <;> subst h
    · rename_i hr
      exact .close hs hr
    · rename_i hr
      exact .enter hs hr
    · rename_i hr
      exact .pass hs (Or.inl hr)
    · rename_i hr
      exact .pass hs (Or.inr hr)

/-- The search goes on as long as an id is open. -/
theorem step?_eq_none (h : s.step? g = none) : s.stack = [] := by
  unfold step? at h
  split at h
  · assumption
  · simp at h
  · simp only at h
    split at h <;> simp at h

/-! ## Answered references -/

/-- Some cycle of the list is closed by the reference from `x` to `y`. -/
def Closes (cycles : List (List String)) (x y : String) : Prop := ∃ c ∈ cycles, [x, y] <:+ c

/-- The reference from `x` to `y` leads out of the graph or to an id that is done, or it closes a
cycle. -/
def Answered (g : ReferenceGraph) (cycles : List (List String)) (done : List String)
    (x y : String) : Prop :=
  y ∈ g.ids → y ∈ done ∨ Closes cycles x y

/-- The references of every id are answered by the ids that were done before it. -/
def Settled (g : ReferenceGraph) (cycles : List (List String)) : List String → Prop
  | [] => True
  | x :: earlier => (∀ y ∈ g.references x, Answered g cycles earlier x y) ∧ Settled g cycles earlier

/-- For every entry of a stack the references that were followed are answered, but for the one to
the id above it, `child`. -/
def Trail (g : ReferenceGraph) (cycles : List (List String)) (done : List String)
    (child : Option String) : List (String × List String) → Prop
  | [] => True
  | (x, rest) :: below =>
    (∃ followed, g.references x = followed ++ rest ∧ (∀ y, child = some y → y ∈ followed) ∧
      ∀ y ∈ followed, child = some y ∨ Answered g cycles done x y) ∧
    Trail g cycles done (some x) below

section Answers

variable {cs cs' : List (List String)} {done' : List String} {x y id r : String}
  {child : Option String} {rs : List String} {stack below : List (String × List String)}

theorem Closes.mono (h : Closes cs x y) (hcs : cs ⊆ cs') : Closes cs' x y := by
  obtain ⟨c, hc, hxy⟩ := h
  exact ⟨c, hcs hc, hxy⟩

theorem Answered.mono (h : Answered g cs done x y) (hcs : cs ⊆ cs') (hd : done ⊆ done') :
    Answered g cs' done' x y := by
  intro hy
  rcases h hy with h | h
  · exact Or.inl (hd h)
  · exact Or.inr (h.mono hcs)

theorem Settled.mono (h : Settled g cs done) (hcs : cs ⊆ cs') : Settled g cs' done := by
  induction done with
  | nil => trivial
  | cons x earlier ih =>
    exact ⟨fun y hy => (h.1 y hy).mono hcs (List.Subset.refl _), ih h.2⟩

theorem Trail.mono (h : Trail g cs done child stack) (hcs : cs ⊆ cs') (hd : done ⊆ done') :
    Trail g cs' done' child stack := by
  induction stack generalizing child with
  | nil => trivial
  | cons e below ih =>
    obtain ⟨⟨followed, hrefs, hchild, hall⟩, hbelow⟩ := h
    refine ⟨⟨followed, hrefs, hchild, fun y hy => ?_⟩, ih hbelow⟩
    exact (hall y hy).imp_right fun ha => ha.mono hcs hd

/-- The next reference is followed. -/
theorem Trail.advance (h : Trail g cs done none ((id, r :: rs) :: below)) :
    Trail g cs done (some r) ((id, rs) :: below) := by
  obtain ⟨⟨followed, hrefs, -, hall⟩, hbelow⟩ := h
  refine ⟨⟨followed ++ [r], ?_, ?_, ?_⟩, hbelow⟩
  · rw [hrefs, List.append_assoc]
    rfl
  · rintro y ⟨⟩
    simp
  · intro y hy
    rcases List.mem_append.mp hy with hy | hy
    · exact Or.inr ((hall y hy).resolve_left (by simp))
    · rw [List.mem_singleton] at hy
      exact Or.inl (congrArg some hy.symm)

/-- The reference to the id above is answered as well. -/
theorem Trail.answer (h : Trail g cs done (some r) stack)
    (hr : ∀ x, (stack.map Prod.fst).head? = some x → Answered g cs done x r) :
    Trail g cs done none stack := by
  match stack, h with
  | [], _ => trivial
  | (x, rest) :: below, ⟨⟨followed, hrefs, _, hall⟩, hbelow⟩ =>
    refine ⟨⟨followed, hrefs, by simp, fun y hy => Or.inr ?_⟩, hbelow⟩
    rcases hall y hy with h | h
    · injection h with h
      exact h ▸ hr x rfl
    · exact h

/-- The ids of the stack refer to those above them. -/
theorem Trail.chain (h : Trail g cs done child stack) :
    (child.toList ++ stack.map Prod.fst).IsChain (fun y x => y ∈ g.references x) := by
  induction stack generalizing child with
  | nil => cases child <;> simp
  | cons e below ih =>
    obtain ⟨x, rest⟩ := e
    obtain ⟨⟨followed, hrefs, hchild, -⟩, hbelow⟩ := h
    have hx : (x :: below.map Prod.fst).IsChain (fun y x => y ∈ g.references x) := ih hbelow
    cases child with
    | none => exact hx
    | some y =>
      refine List.isChain_cons_cons.mpr ⟨?_, hx⟩
      rw [hrefs]
      exact List.mem_append_left rest (hchild y rfl)

end Answers

/-! ## Cycles -/

/-- A walk along references from an id back to it on which no other id comes twice. -/
structure Loop (g : ReferenceGraph) (c : List String) : Prop where
  chain : c.IsChain (fun x y => y ∈ g.references x)
  closed : ∃ x mid, c = x :: mid ++ [x] ∧ (x :: mid).Nodup
  ids : ∀ x ∈ c, x ∈ g.ids

theorem closeCycle_eq {path : List String} {r : String} (h : r ∈ path) :
    ∃ mid, closeCycle path r = r :: mid ++ [r] ∧ r :: mid <:+ path := by
  induction path with
  | nil => simp at h
  | cons x path ih =>
    by_cases hx : x = r
    · subst hx
      exact ⟨path, by simp [closeCycle], List.suffix_refl _⟩
    · have hr : r ∈ path := (List.mem_cons.mp h).resolve_left (Ne.symm hx)
      obtain ⟨mid, hmid, hsuf⟩ := ih hr
      refine ⟨mid, ?_, hsuf.trans (List.suffix_cons x path)⟩
      rw [← hmid]
      simp [closeCycle, hx]

/-- Two ids at the end of one list are the same two ids. -/
theorem eq_of_suffix {x y u v : String} {c : List String} (h : [x, y] <:+ c) (h' : [u, v] <:+ c) :
    x = u ∧ y = v := by
  have hs : [x, y] <:+ [u, v] := List.suffix_of_suffix_length_le h h' (le_refl 2)
  have he : [x, y] = [u, v] := hs.eq_of_length rfl
  simpa using he

section Closing

variable {front : List String} {id r : String}

/-- The reference that leads back to the path closes the cycle. -/
theorem suffix_closeCycle (h : r ∈ front ++ [id]) : [id, r] <:+ closeCycle (front ++ [id]) r := by
  obtain ⟨mid, hmid, pre, hpre⟩ := closeCycle_eq h
  have hlast : (r :: mid).getLast? = some id := by
    rw [← List.getLast?_append_of_ne_nil pre (by simp), hpre]
    simp
  obtain ⟨init, hinit⟩ := List.getLast?_eq_some_iff.mp hlast
  rw [hmid, hinit]
  exact ⟨init, by simp⟩

theorem loop_closeCycle (hchain : (front ++ [id]).IsChain (fun x y => y ∈ g.references x))
    (hids : ∀ x ∈ front ++ [id], x ∈ g.ids) (hnodup : (front ++ [id]).Nodup)
    (hr : r ∈ front ++ [id]) (href : r ∈ g.references id) :
    Loop g (closeCycle (front ++ [id]) r) := by
  obtain ⟨mid, hmid, hsuf⟩ := closeCycle_eq hr
  refine ⟨?_, ⟨r, mid, hmid, hnodup.sublist hsuf.sublist⟩, ?_⟩
  · obtain ⟨init, hinit⟩ := suffix_closeCycle hr
    have hsplit : init ++ [id] = r :: mid := by
      rw [hmid, show [id, r] = [id] ++ [r] from rfl, ← List.append_assoc] at hinit
      exact List.append_cancel_right hinit
    rw [hmid, ← hsplit, List.append_assoc]
    refine List.isChain_append_cons_cons.mpr ⟨?_, href, List.isChain_singleton r⟩
    exact hsplit ▸ hchain.suffix hsuf
  · rw [hmid]
    intro x hx
    have hx' : x ∈ r :: mid := by
      rcases List.mem_append.mp hx with hx | hx
      · exact hx
      · exact List.mem_singleton.mp hx ▸ List.mem_cons_self
    exact hids x (hsuf.subset hx')

end Closing

/-! ## The invariant -/

/-- The state between two steps, with the ids that are done, the last first. -/
structure Inv (g : ReferenceGraph) (done : List String) (s : Search) : Prop where
  keys : s.marks.map Prod.fst = g.ids
  path_eq : s.path = (s.stack.map Prod.fst).reverse
  nodup : s.path.Nodup
  open_iff : ∀ x, s.marks.lookup x = some .open ↔ x ∈ s.path
  done_iff : ∀ x, s.marks.lookup x = some .done ↔ x ∈ done
  trail : Trail g s.cycles done none s.stack
  settled : Settled g s.cycles done
  loops : ∀ c ∈ s.cycles, Loop g c
  /-- The reference that closes a cycle is not followed any more. -/
  followed : ∀ c ∈ s.cycles, ∀ x y, [x, y] <:+ c →
    x ∈ done ∨ ∃ rest, (x, rest) ∈ s.stack ∧ y ∉ rest
  apart : s.cycles.Pairwise fun c d => ∀ x y, [x, y] <:+ c → ¬ [x, y] <:+ d

namespace Inv

theorem mem_ids_iff (h : Inv g done s) {x : String} :
    x ∈ g.ids ↔ ∃ m, s.marks.lookup x = some m := by
  rw [← h.keys]
  exact ⟨exists_lookup_of_mem_keys, fun ⟨_, hm⟩ => mem_keys_of_lookup hm⟩

theorem path_ids (h : Inv g done s) {x : String} (hx : x ∈ s.path) : x ∈ g.ids :=
  h.mem_ids_iff.mpr ⟨_, (h.open_iff x).mpr hx⟩

theorem path_chain (h : Inv g done s) : s.path.IsChain (fun x y => y ∈ g.references x) := by
  rw [h.path_eq, List.isChain_reverse]
  exact h.trail.chain

theorem path_of_cons (h : Inv g done s) {id : String} {rest : List String}
    {below : List (String × List String)} (hs : s.stack = (id, rest) :: below) :
    s.path = (below.map Prod.fst).reverse ++ [id] := by
  rw [h.path_eq, hs, List.map_cons, List.reverse_cons]

theorem mem_path (h : Inv g done s) {id : String} {rest : List String}
    {below : List (String × List String)} (hs : s.stack = (id, rest) :: below) : id ∈ s.path := by
  rw [h.path_of_cons hs]
  simp

/-- The id on top of the stack is not below. -/
theorem not_mem_below (h : Inv g done s) {id : String} {rest : List String}
    {below : List (String × List String)} (hs : s.stack = (id, rest) :: below) :
    id ∉ below.map Prod.fst := by
  intro hm
  have hnodup := h.nodup
  rw [h.path_of_cons hs, List.nodup_append] at hnodup
  exact hnodup.2.2 id (List.mem_reverse.mpr hm) id (List.mem_singleton.mpr rfl) rfl

/-- An open id is not done. -/
theorem not_mem_done (h : Inv g done s) {x : String} (hx : x ∈ s.path) : x ∉ done := by
  intro hd
  have hopen := (h.open_iff x).mpr hx
  rw [(h.done_iff x).mpr hd] at hopen
  cases hopen

/-! ### One move -/

variable {id r : String} {rs : List String} {below : List (String × List String)}

/-- Following one more reference leaves what was followed before as it is. -/
theorem followed_advance (h : Inv g done s) (hs : s.stack = (id, r :: rs) :: below) :
    ∀ c ∈ s.cycles, ∀ x y, [x, y] <:+ c →
      x ∈ done ∨ ∃ rest, (x, rest) ∈ (id, rs) :: below ∧ y ∉ rest := by
  intro c hc x y hxy
  rcases h.followed c hc x y hxy with hd | ⟨rest, hmem, hy⟩
  · exact Or.inl hd
  · rw [hs] at hmem
    rcases List.mem_cons.mp hmem with he | hmem
    · injection he with hx hrest
      subst hx hrest
      exact Or.inr ⟨rs, List.mem_cons_self, fun h => hy (List.mem_cons_of_mem r h)⟩
    · exact Or.inr ⟨rest, List.mem_cons_of_mem _ hmem, hy⟩

theorem trail_advance (h : Inv g done s) (hs : s.stack = (id, r :: rs) :: below) :
    Trail g s.cycles done (some r) ((id, rs) :: below) := by
  have ht := h.trail
  rw [hs] at ht
  exact ht.advance

/-- A reference that is still to be followed closes no cycle. -/
theorem not_closing (h : Inv g done s) (hs : s.stack = (id, r :: rs) :: below) :
    ∀ c ∈ s.cycles, ¬ [id, r] <:+ c := by
  intro c hc hclose
  rcases h.followed c hc id r hclose with hd | ⟨rest, hrest, hnot⟩
  · exact h.not_mem_done (h.mem_path hs) hd
  · rw [hs] at hrest
    rcases List.mem_cons.mp hrest with he | hrest
    · injection he with _ he
      exact hnot (he ▸ List.mem_cons_self)
    · exact h.not_mem_below hs (List.mem_map_of_mem (f := Prod.fst) hrest)

theorem leave (h : Inv g done s) (hs : s.stack = (id, []) :: below) :
    Inv g (id :: done) { s with
      marks := setMark id .done s.marks, path := s.path.dropLast, stack := below } := by
  have hpath := h.path_of_cons hs
  have hnodup := h.nodup
  rw [hpath, List.nodup_append] at hnodup
  have hkey : id ∈ s.marks.map Prod.fst := h.keys ▸ h.path_ids (h.mem_path hs)
  obtain ⟨⟨all, hrefs, -, hall⟩, hbelow⟩ := hs ▸ h.trail
  have hfront := h.not_mem_below hs
  refine ⟨?_, ?_, ?_, ?_, ?_, ?_, ?_, h.loops, ?_, h.apart⟩
  · rw [keys_setMark, h.keys]
  · rw [hpath, List.dropLast_concat]
  · rw [hpath, List.dropLast_concat]
    exact hnodup.1
  · intro x
    rw [hpath, List.dropLast_concat]
    by_cases hx : x = id
    · subst hx
      rw [lookup_setMark_self hkey]
      simpa using hfront
    · rw [lookup_setMark_ne hx, h.open_iff, hpath, List.mem_append, List.mem_singleton]
      exact or_iff_left hx
  · intro x
    by_cases hx : x = id
    · subst hx
      simp [lookup_setMark_self hkey]
    · rw [lookup_setMark_ne hx, h.done_iff, List.mem_cons]
      exact (or_iff_right hx).symm
  · refine Trail.answer (hbelow.mono (List.Subset.refl _) (List.subset_cons_self id done)) ?_
    exact fun x _ _ => Or.inl List.mem_cons_self
  · refine ⟨fun y hy => ?_, h.settled⟩
    rw [hrefs, List.append_nil] at hy
    exact (hall y hy).resolve_left (by simp)
  · intro c hc x y hxy
    rcases h.followed c hc x y hxy with hd | ⟨rest, hmem, hy⟩
    · exact Or.inl (List.mem_cons_of_mem id hd)
    · rw [hs] at hmem
      rcases List.mem_cons.mp hmem with he | hmem
      · injection he with hx
        exact Or.inl (hx ▸ List.mem_cons_self)
      · exact Or.inr ⟨rest, hmem, hy⟩

theorem pass (h : Inv g done s) (hs : s.stack = (id, r :: rs) :: below)
    (hr : s.marks.lookup r = some .done ∨ s.marks.lookup r = none) :
    Inv g done { s with stack := (id, rs) :: below } := by
  have hpath := h.path_eq
  rw [hs] at hpath
  refine ⟨h.keys, hpath, h.nodup, h.open_iff, h.done_iff, ?_, h.settled, h.loops,
    h.followed_advance hs, h.apart⟩
  refine (h.trail_advance hs).answer fun _ _ hids => ?_
  rcases hr with hr | hr
  · exact Or.inl ((h.done_iff r).mp hr)
  · obtain ⟨m, hm⟩ := h.mem_ids_iff.mp hids
    rw [hr] at hm
    cases hm

theorem close (hg : ∀ x, (g.references x).Nodup) (h : Inv g done s)
    (hs : s.stack = (id, r :: rs) :: below) (hr : s.marks.lookup r = some .open) :
    Inv g done { s with
      stack := (id, rs) :: below, cycles := s.cycles ++ [closeCycle s.path r] } := by
  have hpath := h.path_of_cons hs
  have hmem : r ∈ s.path := (h.open_iff r).mp hr
  have hpe := h.path_eq
  rw [hs] at hpe
  obtain ⟨⟨followed, hrefs, -, -⟩, -⟩ := hs ▸ h.trail
  have hrs : r ∉ rs := by
    have hn := hg id
    rw [hrefs, List.nodup_append] at hn
    exact (List.nodup_cons.mp hn.2.1).1
  have hclose : [id, r] <:+ closeCycle s.path r := by
    rw [hpath] at hmem ⊢
    exact suffix_closeCycle hmem
  have hsub : s.cycles ⊆ s.cycles ++ [closeCycle s.path r] := List.subset_append_left _ _
  refine ⟨h.keys, hpe, h.nodup, h.open_iff, h.done_iff, ?_, h.settled.mono hsub, ?_, ?_, ?_⟩
  · refine ((h.trail_advance hs).mono hsub (List.Subset.refl _)).answer fun x hx _ => Or.inr ?_
    injection hx with hx
    subst hx
    exact ⟨_, List.mem_append_right _ (List.mem_singleton.mpr rfl), hclose⟩
  · intro c hc
    rcases List.mem_append.mp hc with hc | hc
    · exact h.loops c hc
    · rw [List.mem_singleton.mp hc, hpath]
      refine loop_closeCycle (hpath ▸ h.path_chain) ?_ (hpath ▸ h.nodup) (hpath ▸ hmem) ?_
      · exact fun x hx => h.path_ids (hpath ▸ hx)
      · rw [hrefs]
        simp
  · intro c hc x y hxy
    rcases List.mem_append.mp hc with hc | hc
    · exact h.followed_advance hs c hc x y hxy
    · rw [List.mem_singleton.mp hc] at hxy
      obtain ⟨rfl, rfl⟩ := eq_of_suffix hclose hxy
      exact Or.inr ⟨rs, List.mem_cons_self, hrs⟩
  · rw [List.pairwise_append]
    refine ⟨h.apart, List.pairwise_singleton _ _, ?_⟩
    intro c hc d hd x y hxy hxy'
    -- The reference that closes the new cycle was still to be followed.
    rw [List.mem_singleton.mp hd] at hxy'
    obtain ⟨rfl, rfl⟩ := eq_of_suffix hclose hxy'
    exact h.not_closing hs c hc hxy

/-- A fresh id is entered from a stack that the path fits. -/
theorem enter (h : Inv g done s) {stack : List (String × List String)}
    (hpath : s.path = (stack.map Prod.fst).reverse)
    (htrail : Trail g s.cycles done (some r) stack)
    (hfollowed : ∀ c ∈ s.cycles, ∀ x y, [x, y] <:+ c →
      x ∈ done ∨ ∃ rest, (x, rest) ∈ stack ∧ y ∉ rest)
    (hr : s.marks.lookup r = some .fresh) :
    Inv g done (Search.enter g { s with stack := stack } r) := by
  have hkey : r ∈ s.marks.map Prod.fst := mem_keys_of_lookup hr
  have hopen : r ∉ s.path := by
    intro hm
    rw [(h.open_iff r).mpr hm] at hr
    cases hr
  have hdone : r ∉ done := by
    intro hm
    rw [(h.done_iff r).mpr hm] at hr
    cases hr
  refine ⟨?_, ?_, ?_, ?_, ?_, ?_, h.settled, h.loops, ?_, h.apart⟩
  · rw [Search.enter, keys_setMark, h.keys]
  · simp only [Search.enter, hpath, List.map_cons, List.reverse_cons]
  · exact h.nodup.append (List.nodup_singleton r) (by simpa using hopen)
  · intro x
    simp only [Search.enter, List.mem_append, List.mem_singleton]
    by_cases hx : x = r
    · subst hx
      simp [lookup_setMark_self hkey]
    · rw [lookup_setMark_ne hx, h.open_iff]
      exact (or_iff_left hx).symm
  · intro x
    simp only [Search.enter]
    by_cases hx : x = r
    · subst hx
      simp [lookup_setMark_self hkey, hdone]
    · rw [lookup_setMark_ne hx, h.done_iff]
  · exact ⟨⟨[], rfl, by simp, by simp⟩, htrail⟩
  · intro c hc x y hxy
    rcases hfollowed c hc x y hxy with hd | ⟨rest, hmem, hy⟩
    · exact Or.inl hd
    · exact Or.inr ⟨rest, List.mem_cons_of_mem _ hmem, hy⟩

end Inv

/-! ## Runs -/

/-- A step keeps the invariant, and an id that was seen stays so. -/
theorem Inv.step (hg : ∀ x, (g.references x).Nodup) (h : Inv g done s)
    (hst : s.step? g = some t) :
    ∃ done', Inv g done' t ∧ ∀ x, x ∈ done ∨ x ∈ s.path → x ∈ done' ∨ x ∈ t.path := by
  cases Move.of_step? hst with
  | @leave id below hs =>
    refine ⟨id :: done, h.leave hs, ?_⟩
    rintro x (hx | hx)
    · exact Or.inl (List.mem_cons_of_mem id hx)
    · rw [h.path_of_cons hs, List.mem_append, List.mem_singleton] at hx
      rcases hx with hx | rfl
      · right
        rw [h.path_of_cons hs, List.dropLast_concat]
        exact hx
      · exact Or.inl List.mem_cons_self
  | close hs hr => exact ⟨done, h.close hg hs hr, fun _ hx => hx⟩
  | enter hs hr =>
    refine ⟨done, h.enter ?_ (h.trail_advance hs) (h.followed_advance hs) hr, ?_⟩
    · rw [h.path_eq, hs]
      rfl
    · rintro x (hx | hx)
      · exact Or.inl hx
      · exact Or.inr (List.mem_append_left _ hx)
  | pass hs hr => exact ⟨done, h.pass hs hr, fun _ hx => hx⟩

theorem run_of_some (h : s.step? g = some t) : run g s = run g t := by
  rw [run]
  split
  · rename_i t' ht'
    rw [h] at ht'
    injection ht' with ht'
    rw [ht']
  · rename_i hn
    rw [h] at hn
    cases hn

theorem run_of_none (h : s.step? g = none) : run g s = s := by
  rw [run]
  split
  · rename_i t ht
    rw [h] at ht
    cases ht
  · rfl

theorem Inv.path_eq_nil (h : Inv g done s) (hs : s.stack = []) : s.path = [] := by
  rw [h.path_eq, hs]
  rfl

/-- After all steps no id is open, and those that were seen are done. -/
theorem Inv.run (hg : ∀ x, (g.references x).Nodup) (h : Inv g done s) :
    ∃ done', Inv g done' (run g s) ∧ (run g s).stack = [] ∧
      ∀ x, x ∈ done ∨ x ∈ s.path → x ∈ done' := by
  induction s using run.induct g generalizing done with
  | case1 s t hst ih =>
    obtain ⟨done₁, h₁, hseen₁⟩ := h.step hg hst
    obtain ⟨done₂, h₂, hstack, hseen₂⟩ := ih h₁
    rw [run_of_some hst]
    exact ⟨done₂, h₂, hstack, fun x hx => hseen₂ x (hseen₁ x hx)⟩
  | case2 s hst =>
    have hstack := step?_eq_none hst
    rw [run_of_none hst]
    refine ⟨done, h, hstack, ?_⟩
    rintro x (hx | hx)
    · exact hx
    · rw [h.path_eq_nil hstack] at hx
      cases hx

/-- The search starts from a fresh id when no other is open. -/
theorem Inv.enter_first (h : Inv g done s) (hs : s.stack = []) {id : String}
    (hfresh : s.marks.lookup id = some .fresh) : Inv g done (s.enter g id) := by
  have hst : s = { s with stack := [] } := by rw [← hs]
  rw [hst]
  refine h.enter (h.path_eq_nil hs) trivial (fun c hc x y hxy => ?_) hfresh
  have hf := h.followed c hc x y hxy
  rwa [hs] at hf

/-- An id that the search starts from is done afterwards. -/
theorem Inv.explore (hg : ∀ x, (g.references x).Nodup) (h : Inv g done s) (hs : s.stack = [])
    {id : String} (hid : id ∈ g.ids) :
    ∃ done', Inv g done' (explore g s id) ∧ (explore g s id).stack = [] ∧
      ∀ x, x ∈ done ∨ x = id → x ∈ done' := by
  have hpath := h.path_eq_nil hs
  rw [Search.explore]
  split
  · rename_i hfresh
    obtain ⟨done', h', hstack, hseen⟩ := (h.enter_first hs hfresh).run hg
    refine ⟨done', h', hstack, ?_⟩
    rintro x (hx | rfl)
    · exact hseen x (Or.inl hx)
    · exact hseen x (Or.inr (by simp [Search.enter]))
  · rename_i hfresh
    refine ⟨done, h, hs, ?_⟩
    rintro x (hx | rfl)
    · exact hx
    · obtain ⟨m, hm⟩ := h.mem_ids_iff.mp hid
      cases m with
      | fresh => exact absurd hm hfresh
      | «open» =>
        rw [h.open_iff, hpath] at hm
        cases hm
      | done => exact (h.done_iff x).mp hm

theorem lookup_start {x : String} {m : Mark} (h : (start g).marks.lookup x = some m) :
    m = .fresh := by
  have hmem : (x, m) ∈ g.map fun e => (e.1, Mark.fresh) := mem_of_lookup h
  obtain ⟨e, -, he⟩ := List.mem_map.mp hmem
  injection he with _ hm
  exact hm.symm

theorem Inv.start (g : ReferenceGraph) : Inv g [] (start g) := by
  refine ⟨?_, rfl, List.nodup_nil, ?_, ?_, trivial, trivial, ?_, ?_, List.Pairwise.nil⟩
  · simp [Search.start, ReferenceGraph.ids, Function.comp_def]
  · intro x
    refine ⟨fun hx => ?_, fun hx => ?_⟩
    · cases lookup_start hx
    · cases hx
  · intro x
    refine ⟨fun hx => ?_, fun hx => ?_⟩
    · cases lookup_start hx
    · cases hx
  · intro c hc
    cases hc
  · intro c hc
    cases hc

theorem Inv.foldl_explore (hg : ∀ x, (g.references x).Nodup) {todo : List String}
    (htodo : todo ⊆ g.ids) (h : Inv g done s) (hs : s.stack = []) :
    ∃ done', Inv g done' (todo.foldl (Search.explore g) s) ∧
      (todo.foldl (Search.explore g) s).stack = [] ∧ ∀ x, x ∈ done ∨ x ∈ todo → x ∈ done' := by
  induction todo generalizing s done with
  | nil => exact ⟨done, h, hs, fun x hx => hx.resolve_right (by simp)⟩
  | cons id todo ih =>
    obtain ⟨hid, htodo⟩ := List.cons_subset.mp htodo
    obtain ⟨done₁, h₁, hs₁, hseen₁⟩ := h.explore hg hs hid
    obtain ⟨done₂, h₂, hs₂, hseen₂⟩ := ih htodo h₁ hs₁
    refine ⟨done₂, h₂, hs₂, fun x hx => ?_⟩
    rcases hx with hx | hx
    · exact hseen₂ x (Or.inl (hseen₁ x (Or.inl hx)))
    · rcases List.mem_cons.mp hx with rfl | hx
      · exact hseen₂ x (Or.inl (hseen₁ x (Or.inr rfl)))
      · exact hseen₂ x (Or.inr hx)

/-- After the whole search every id of the graph is done. -/
theorem Inv.complete (hg : ∀ x, (g.references x).Nodup) :
    ∃ done, Inv g done (complete g) ∧ (complete g).stack = [] ∧ ∀ x ∈ g.ids, x ∈ done := by
  obtain ⟨done, h, hs, hseen⟩ := (Inv.start g).foldl_explore hg (List.Subset.refl g.ids) rfl
  exact ⟨done, h, hs, fun x hx => hseen x (Or.inr hx)⟩

end Formwork.Search
