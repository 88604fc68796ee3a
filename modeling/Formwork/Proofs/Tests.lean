import Formwork.Form.Basic
import Mathlib.Data.List.Nodup

/-!
# The tests of a condition

A condition tests the fields that its leaves name, at any depth. A test stands at a place: the
positions in the groups that lead to it, from the outermost in. No two tests stand at one place, and
read from left to right the places show the leaves.
-/

namespace Formwork

namespace Condition

/-- What holds of every test, and of a group if it holds of its members, holds of a condition. -/
theorem induction {P : Condition → Prop}
    (ofLeaf : ∀ field operator v, P (.leaf field operator v))
    (ofGroup : ∀ combinator cs, (∀ c ∈ cs, P c) → P (.group combinator cs)) (c : Condition) : P c :=
  @Condition.rec P (fun cs => ∀ c ∈ cs, P c) ofLeaf (fun k cs ih => ofGroup k cs ih)
    (List.forall_mem_nil _) (fun _ _ hc hcs => List.forall_mem_cons.mpr ⟨hc, hcs⟩) c

theorem leavesAll_eq_flatMap (cs : List Condition) : leavesAll cs = cs.flatMap leaves := by
  induction cs with
  | nil => rfl
  | cons c cs ih => rw [leavesAll, ih, List.flatMap_cons]

/-! ## Tests at any depth -/

/-- A condition, or one that is somewhere inside it, tests the field with an id. -/
inductive Tests : Condition → String → Prop
  | leaf {id : String} (operator : Operator) (value : Value) : Tests (.leaf id operator value) id
  | group {combinator : Combinator} {cs : List Condition} {c : Condition} {id : String}
      (hc : c ∈ cs) (h : Tests c id) : Tests (.group combinator cs) id

/-- The tests of a condition are its leaves. -/
theorem tests_iff {c : Condition} {id : String} : c.Tests id ↔ id ∈ c.leaves.map (·.1) := by
  induction c using Condition.induction with
  | ofLeaf field operator value =>
    rw [leaves, List.map_singleton, List.mem_singleton]
    constructor
    · rintro ⟨⟩
      rfl
    · rintro rfl
      exact .leaf operator value
  | ofGroup combinator cs ih =>
    rw [leaves, leavesAll_eq_flatMap, List.map_flatMap, List.mem_flatMap]
    constructor
    · rintro (_ | ⟨hc, h⟩)
      exact ⟨_, hc, (ih _ hc).mp h⟩
    · rintro ⟨c, hc, h⟩
      exact .group hc ((ih c hc).mpr h)

/-! ## Places -/

/-- The test of a field with an id stands at a place. -/
inductive TestsAt : Condition → List Nat → String → Prop
  | leaf {id : String} (operator : Operator) (value : Value) :
      TestsAt (.leaf id operator value) [] id
  | group {combinator : Combinator} {cs : List Condition} {c : Condition} {n : Nat}
      {place : List Nat} {id : String} (hc : cs[n]? = some c) (h : TestsAt c place id) :
      TestsAt (.group combinator cs) (n :: place) id

mutual

/-- The places of the tests with the ids of the fields that they test. -/
def places : Condition → List (List Nat × String)
  | leaf id _ _ => [([], id)]
  | group _ cs => placesAmong 0 cs
termination_by structural c => c

/-- The same for members of a group, from a position on. -/
def placesAmong (n : Nat) : List Condition → List (List Nat × String)
  | [] => []
  | c :: cs => (places c).map (fun p => (n :: p.1, p.2)) ++ placesAmong (n + 1) cs
termination_by structural cs => cs

end

variable {c : Condition} {cs : List Condition} {n : Nat} {place : List Nat} {id : String}

theorem mem_placesAmong_iff :
    (place, id) ∈ placesAmong n cs ↔
      ∃ i c rest, cs[i]? = some c ∧ place = (n + i) :: rest ∧ (rest, id) ∈ c.places := by
  induction cs generalizing n with
  | nil => simp [placesAmong]
  | cons c cs ih =>
    rw [placesAmong, List.mem_append, List.mem_map, ih]
    constructor
    · rintro (⟨p, hp, heq⟩ | ⟨i, d, rest, hd, rfl, hrest⟩)
      · injection heq with hplace hid
        exact ⟨0, c, p.1, rfl, hplace.symm, hid ▸ hp⟩
      · exact ⟨i + 1, d, rest, hd, by rw [Nat.add_right_comm, Nat.add_assoc], hrest⟩
    · rintro ⟨i, d, rest, hd, rfl, hrest⟩
      cases i with
      | zero =>
        injection hd with hd
        exact Or.inl ⟨(rest, id), hd ▸ hrest, rfl⟩
      | succ i => exact Or.inr ⟨i, d, rest, hd, by rw [Nat.add_right_comm, Nat.add_assoc], hrest⟩

/-- The places are those at which a test stands. -/
theorem mem_places_iff : (place, id) ∈ c.places ↔ c.TestsAt place id := by
  induction c using Condition.induction generalizing place with
  | ofLeaf field operator value =>
    rw [places, List.mem_singleton, Prod.mk.injEq]
    constructor
    · rintro ⟨rfl, rfl⟩
      exact .leaf operator value
    · rintro ⟨⟩
      exact ⟨rfl, rfl⟩
  | ofGroup combinator cs ih =>
    rw [places, mem_placesAmong_iff]
    constructor
    · rintro ⟨i, c, rest, hc, rfl, hrest⟩
      rw [Nat.zero_add]
      exact .group hc ((ih c (List.mem_of_getElem? hc)).mp hrest)
    · rintro (_ | ⟨hc, h⟩)
      exact ⟨_, _, _, hc, by rw [Nat.zero_add], (ih _ (List.mem_of_getElem? hc)).mpr h⟩

theorem nodup_placesAmong (h : ∀ c ∈ cs, (c.places.map Prod.fst).Nodup) :
    ((placesAmong n cs).map Prod.fst).Nodup := by
  induction cs generalizing n with
  | nil => exact List.nodup_nil
  | cons c cs ih =>
    obtain ⟨hc, hcs⟩ := List.forall_mem_cons.mp h
    rw [placesAmong, List.map_append, List.map_map]
    refine List.Nodup.append ?_ (ih hcs) ?_
    · have hcons := hc.map (f := (n :: ·)) fun a b hab => List.cons_inj_right n |>.mp hab
      rwa [List.map_map] at hcons
    · intro place hfront hback
      obtain ⟨p, -, rfl⟩ := List.mem_map.mp hfront
      obtain ⟨⟨place, id⟩, hq, heq⟩ := List.mem_map.mp hback
      obtain ⟨i, -, rest, -, rfl, -⟩ := mem_placesAmong_iff.mp hq
      injection heq with heq
      omega

/-- No two tests stand at one place. -/
theorem nodup_places (c : Condition) : (c.places.map Prod.fst).Nodup := by
  induction c using Condition.induction with
  | ofLeaf field operator value => exact List.nodup_singleton _
  | ofGroup combinator cs ih => exact nodup_placesAmong ih

theorem map_snd_placesAmong (h : ∀ c ∈ cs, c.places.map Prod.snd = c.leaves.map (·.1)) :
    (placesAmong n cs).map Prod.snd = (leavesAll cs).map (·.1) := by
  induction cs generalizing n with
  | nil => rfl
  | cons c cs ih =>
    obtain ⟨hc, hcs⟩ := List.forall_mem_cons.mp h
    rw [placesAmong, leavesAll, List.map_append, List.map_append, List.map_map, ih hcs, ← hc]
    rfl

/-- From left to right the tests are the leaves. -/
theorem map_snd_places (c : Condition) : c.places.map Prod.snd = c.leaves.map (·.1) := by
  induction c using Condition.induction with
  | ofLeaf field operator value => rfl
  | ofGroup combinator cs ih => exact map_snd_placesAmong ih

end Condition

/-! ## The tests of a field -/

namespace Field

variable {f : Field} {place : List Nat} {id : String}

/-- The condition of the field tests the field with an id. -/
def Tests (f : Field) (id : String) : Prop := ∃ c, f.condition = some c ∧ c.Tests id

/-- The condition of the field has the test of a field with an id at a place. -/
def TestsAt (f : Field) (place : List Nat) (id : String) : Prop :=
  ∃ c, f.condition = some c ∧ c.TestsAt place id

/-- The places of the tests of the field. -/
def testPlaces (f : Field) : List (List Nat × String) :=
  (f.condition.map Condition.places).getD []

theorem mem_references_iff : id ∈ f.references ↔ f.Tests id := by
  rw [references, Tests]
  cases f.condition with
  | none => simp
  | some c => simp [Condition.tests_iff]

theorem mem_testPlaces_iff : (place, id) ∈ f.testPlaces ↔ f.TestsAt place id := by
  rw [testPlaces, TestsAt]
  cases f.condition with
  | none => simp
  | some c => simp [Condition.mem_places_iff]

theorem nodup_testPlaces (f : Field) : (f.testPlaces.map Prod.fst).Nodup := by
  rw [testPlaces]
  cases f.condition with
  | none => exact List.nodup_nil
  | some c => exact c.nodup_places

theorem map_snd_testPlaces (f : Field) : f.testPlaces.map Prod.snd = f.references := by
  rw [testPlaces, references]
  cases f.condition with
  | none => rfl
  | some c => exact c.map_snd_places

/-- Every test of the field stands at some place. -/
theorem tests_iff_exists_testsAt : f.Tests id ↔ ∃ place, f.TestsAt place id := by
  rw [← mem_references_iff, ← map_snd_testPlaces, List.mem_map]
  simp only [← mem_testPlaces_iff]
  constructor
  · rintro ⟨⟨place, _⟩, h, rfl⟩
    exact ⟨place, h⟩
  · rintro ⟨place, h⟩
    exact ⟨_, h, rfl⟩

end Field

end Formwork
