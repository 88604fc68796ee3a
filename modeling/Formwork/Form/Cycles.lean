import Formwork.Form.References

/-!
# Circular references

A depth-first search through the references of a form. A reference to an id that is still open on
the way to it closes a cycle; the search finds one cycle for each such reference.
-/

namespace Formwork

/-- How far the search has come with an id. -/
inductive Mark where
  | fresh
  | open
  | done
deriving DecidableEq

/-- The state of the search. -/
structure Search where
  /-- The mark of every id of the graph. -/
  marks : List (String × Mark)
  /-- The open ids from the start to where the search stands. -/
  path : List String
  /-- The same ids, the last first, each with the references that are still to be followed. -/
  stack : List (String × List String)
  /-- The cycles found so far, in their order. -/
  cycles : List (List String)

namespace Search

/-- The marks with the mark of one id changed. -/
def setMark (id : String) (m : Mark) : List (String × Mark) → List (String × Mark)
  | [] => []
  | (k, old) :: rest => (k, if k == id then m else old) :: setMark id m rest

/-- The part of a path from an id on, closed by the id. -/
def closeCycle (path : List String) (id : String) : List String :=
  path.dropWhile (· != id) ++ [id]

/-- An id becomes open, and the search moves there. -/
def enter (g : ReferenceGraph) (s : Search) (id : String) : Search :=
  { s with
    marks := setMark id .open s.marks
    path := s.path ++ [id]
    stack := (id, g.references id) :: s.stack }

/-- One step: follow the next reference of the last open id, or leave the id when none is left.
A reference to an id that is no field's is passed over. -/
def step? (g : ReferenceGraph) (s : Search) : Option Search :=
  match s.stack with
  | [] => none
  | (id, []) :: rest =>
    some { s with marks := setMark id .done s.marks, path := s.path.dropLast, stack := rest }
  | (id, r :: rs) :: rest =>
    let s := { s with stack := (id, rs) :: rest }
    match s.marks.lookup r with
    | some .open => some { s with cycles := s.cycles ++ [closeCycle s.path r] }
    | some .fresh => some (s.enter g r)
    | some .done => some s
    | none => some s

/-- How many ids the search has not seen. -/
def freshCount (marks : List (String × Mark)) : Nat := marks.countP (·.2 == .fresh)

/-- How many references are still to be followed and ids to be left. -/
def pending (stack : List (String × List String)) : Nat :=
  stack.foldr (fun e n => e.2.length + 1 + n) 0

theorem freshCount_setMark_le (id : String) (m : Mark) (hm : m ≠ .fresh)
    (marks : List (String × Mark)) : freshCount (setMark id m marks) ≤ freshCount marks := by
  induction marks with
  | nil => simp [setMark]
  | cons e rest ih =>
    obtain ⟨k, old⟩ := e
    simp only [setMark, freshCount, List.countP_cons] at ih ⊢
    by_cases hk : k = id
    · simp only [hk, BEq.rfl, ↓reduceIte, beq_iff_eq, hm]
      omega
    · simp only [beq_iff_eq, hk, ↓reduceIte]
      omega

theorem freshCount_setMark_lt {id : String} {m : Mark} (hm : m ≠ .fresh)
    {marks : List (String × Mark)} (h : marks.lookup id = some .fresh) :
    freshCount (setMark id m marks) < freshCount marks := by
  induction marks with
  | nil => simp at h
  | cons e rest ih =>
    obtain ⟨k, old⟩ := e
    have hle := freshCount_setMark_le id m hm rest
    simp only [setMark, freshCount, List.countP_cons] at ih hle ⊢
    by_cases hk : id = k
    · subst hk
      simp only [List.lookup_cons, BEq.rfl, Option.some.injEq] at h
      simp only [BEq.rfl, ↓reduceIte, beq_iff_eq, hm, h]
      omega
    · have hk' : (id == k) = false := by simpa using hk
      simp only [List.lookup_cons, hk'] at h
      have hk'' : ¬ k = id := fun e => hk e.symm
      simp only [beq_iff_eq, hk'', ↓reduceIte]
      have := ih h
      omega

/-- A step opens a fresh id, or leaves the fresh ids and has less to follow. -/
theorem step?_decreases {g : ReferenceGraph} {s t : Search} (h : s.step? g = some t) :
    Prod.Lex (· < ·) (· < ·) (freshCount t.marks, pending t.stack)
      (freshCount s.marks, pending s.stack) := by
  unfold step? at h
  split at h
  · simp at h
  · rename_i id rest hs
    injection h with h; subst h
    have hle := freshCount_setMark_le id .done (by decide) s.marks
    rcases Nat.lt_or_eq_of_le hle with hlt | heq
    · exact Prod.Lex.left _ _ hlt
    · simp only [heq, hs]
      exact Prod.Lex.right _ (by simp [pending])
  · rename_i id r rs rest hs
    simp only at h
    split at h <;> injection h with h <;> subst h
    · simp only [hs]; exact Prod.Lex.right _ (by simp [pending])
    · rename_i hr
      exact Prod.Lex.left _ _ (freshCount_setMark_lt (by decide) hr)
    · simp only [hs]; exact Prod.Lex.right _ (by simp [pending])
    · simp only [hs]; exact Prod.Lex.right _ (by simp [pending])

/-- All steps, until no id is open. -/
def run (g : ReferenceGraph) (s : Search) : Search :=
  match _h : s.step? g with
  | some t => run g t
  | none => s
termination_by (freshCount s.marks, pending s.stack)
decreasing_by exact step?_decreases _h

/-- The search from one id, if it has not been seen. -/
def explore (g : ReferenceGraph) (s : Search) (id : String) : Search :=
  if s.marks.lookup id = some .fresh then run g (s.enter g id) else s

/-- Before the search, when every id of the graph is fresh. -/
def start (g : ReferenceGraph) : Search := ⟨g.map fun e => (e.1, .fresh), [], [], []⟩

/-- The search from every id in turn. -/
def complete (g : ReferenceGraph) : Search := g.ids.foldl (explore g) (start g)

end Search

/-- The cycles of a list of fields, each from an id over its references back to the id. -/
def findCycles (fields : List Field) : List (List String) :=
  (Search.complete (ReferenceGraph.ofFields fields)).cycles

end Formwork
