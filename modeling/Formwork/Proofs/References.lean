import Formwork.Form.References
import Formwork.Proofs.Tests

/-!
# The reference graph of a list of fields

The graph is built field by field. These lemmas tell what it holds in terms of the fields alone: its
ids are the ids of the fields, and an id refers to what the condition of some field with that id
tests, each reference once.
-/

namespace Formwork

/-- Some field has the id. -/
def Declared (fields : List Field) (x : String) : Prop := ∃ f ∈ fields, f.id = x

/-- The condition of some field with the first id tests the field with the second. -/
def Tests (fields : List Field) (x y : String) : Prop := ∃ f ∈ fields, f.id = x ∧ f.Tests y

/-- The condition of some field with the first id tests that with the second, and there is one. -/
def Refers (fields : List Field) (x y : String) : Prop := Tests fields x y ∧ Declared fields y

namespace ReferenceGraph

/-! ## Collecting references -/

theorem mem_addReference {refs : List String} {r x : String} :
    x ∈ addReference refs r ↔ x ∈ refs ∨ x = r := by
  unfold addReference
  split
  · rename_i h
    have hr : r ∈ refs := by simpa using h
    constructor
    · exact Or.inl
    · rintro (hx | rfl)
      · exact hx
      · exact hr
  · simp

theorem mem_foldl_addReference {rs refs : List String} {x : String} :
    x ∈ rs.foldl addReference refs ↔ x ∈ refs ∨ x ∈ rs := by
  induction rs generalizing refs with
  | nil => simp
  | cons r rs ih => rw [List.foldl_cons, ih, mem_addReference, List.mem_cons, or_assoc]

theorem nodup_addReference {refs : List String} (h : refs.Nodup) (r : String) :
    (addReference refs r).Nodup := by
  unfold addReference
  split
  · exact h
  · rename_i hr
    have hr : List.Disjoint refs [r] := by simpa using hr
    exact h.append (List.nodup_singleton r) hr

theorem nodup_foldl_addReference {rs refs : List String} (h : refs.Nodup) :
    (rs.foldl addReference refs).Nodup := by
  induction rs generalizing refs with
  | nil => exact h
  | cons r rs ih => exact ih (nodup_addReference h r)

/-! ## One more field -/

theorem mem_ids_addField {g : ReferenceGraph} {f : Field} {x : String} :
    x ∈ (addField g f).ids ↔ x ∈ g.ids ∨ x = f.id := by
  induction g with
  | nil => simp [addField, ids]
  | cons e g ih =>
    obtain ⟨k, refs⟩ := e
    by_cases hk : k = f.id
    · subst hk
      simp only [addField, ids, BEq.rfl, ↓reduceIte, List.map_cons, List.mem_cons]
      tauto
    · simp only [addField, ids, beq_iff_eq, hk, ↓reduceIte, List.map_cons, List.mem_cons] at ih ⊢
      rw [ih, or_assoc]

theorem references_cons {g : ReferenceGraph} {k x : String} {refs : List String} :
    references ((k, refs) :: g) x = if x = k then refs else g.references x := by
  by_cases h : x = k
  · subst h
    simp [references]
  · have hb : (x == k) = false := by simpa using h
    simp [references, List.lookup_cons, hb, h]

theorem references_addField {g : ReferenceGraph} {f : Field} {x : String} :
    (addField g f).references x =
      if x = f.id then f.references.foldl addReference (g.references x) else g.references x := by
  induction g with
  | nil =>
    rw [addField, references_cons]
    by_cases h : x = f.id <;> simp [h, references]
  | cons e g ih =>
    obtain ⟨k, refs⟩ := e
    by_cases hk : k = f.id
    · subst hk
      simp only [addField, BEq.rfl, ↓reduceIte, references_cons]
      split <;> rfl
    · simp only [addField, beq_iff_eq, hk, ↓reduceIte, references_cons, ih]
      by_cases hx : x = k
      · subst hx
        simp [hk]
      · simp [hx]

/-! ## All fields -/

theorem mem_ids_foldl_addField {fields : List Field} {g : ReferenceGraph} {x : String} :
    x ∈ ids (fields.foldl addField g) ↔ x ∈ g.ids ∨ Declared fields x := by
  induction fields generalizing g with
  | nil => simp [Declared]
  | cons f fields ih =>
    rw [List.foldl_cons, ih, mem_ids_addField, or_assoc]
    simp only [Declared, List.exists_mem_cons_iff, eq_comm (a := x)]

theorem mem_references_foldl_addField {fields : List Field} {g : ReferenceGraph} {x y : String} :
    y ∈ references (fields.foldl addField g) x ↔ y ∈ g.references x ∨ Tests fields x y := by
  induction fields generalizing g with
  | nil => simp [Tests]
  | cons f fields ih =>
    rw [List.foldl_cons, ih, references_addField]
    simp only [Tests, List.exists_mem_cons_iff]
    by_cases hx : x = f.id
    · subst hx
      simp [mem_foldl_addReference, Field.mem_references_iff, or_assoc]
    · simp [hx, Ne.symm hx]

theorem nodup_references_foldl_addField {fields : List Field} {g : ReferenceGraph}
    (h : ∀ x, (g.references x).Nodup) (x : String) :
    (references (fields.foldl addField g) x).Nodup := by
  induction fields generalizing g with
  | nil => exact h x
  | cons f fields ih =>
    refine ih fun z => ?_
    rw [references_addField]
    split
    · exact nodup_foldl_addReference (h z)
    · exact h z

/-- The ids of the graph are those of the fields. -/
theorem mem_ids_ofFields {fields : List Field} {x : String} :
    x ∈ (ofFields fields).ids ↔ Declared fields x := by
  rw [ofFields, mem_ids_foldl_addField]
  simp [ids]

/-- Fields with the same id refer together. -/
theorem mem_references_ofFields {fields : List Field} {x y : String} :
    y ∈ (ofFields fields).references x ↔ Tests fields x y := by
  rw [ofFields, mem_references_foldl_addField]
  simp [references]

/-- No reference is kept twice. -/
theorem nodup_references_ofFields (fields : List Field) (x : String) :
    ((ofFields fields).references x).Nodup :=
  nodup_references_foldl_addField (fun _ => by simp [references]) x

end ReferenceGraph

end Formwork
