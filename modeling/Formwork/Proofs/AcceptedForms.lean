import Formwork.Proofs.Levels
import Formwork.Proofs.Operations

/-!
# Forms without issues

`accepted_usable`: nothing that is done with a form of JSON values fails once the form has passed
its check, with one exception. It has validators under all names, schemas and samples, its names are
different, and its references find their fields. The exception is its own name, which is made of
its document: without a document there is no name, and no validator under it. So a service compiles
the form, in whatever state it is, exactly if the form has no more levels than a document and no
integer that is too long to be written. `deep_default_refused` has one level more.
-/

namespace Formwork

open Value (IsJson mostLevels nested)
open Service (withDefault momentOf someDay start)

variable {form : Form} {f : Field}

/-! ## References -/

/-- A test in a form without issues is one of the id of a field. -/
theorem declared_of_check (hcheck : form.check = .ok ()) (hf : f ∈ form.fields) {r : String}
    (hr : f.Tests r) : Declared form.fields r := by
  obtain ⟨i, hi⟩ := List.mem_iff_getElem?.mp hf
  obtain ⟨place, hplace⟩ := Field.tests_iff_exists_testsAt.mp hr
  by_contra hdangling
  exact (Form.check_ok_iff.mp hcheck).1 _ _ (.reference hi hplace hdangling)

/-- An id that some field has finds a field. -/
theorem exists_field?_of_declared {r : String} (h : Declared form.fields r) :
    ∃ g ∈ form.fields, form.field? r = some g ∧ g.id = r := by
  obtain ⟨f, hf, hid⟩ := h
  cases hfound : form.field? r with
  | none =>
    have hnone := List.find?_eq_none.mp hfound f hf
    exact absurd (beq_iff_eq.mpr hid) hnone
  | some g =>
    have hg := List.find?_some hfound
    exact ⟨g, List.mem_of_find?_eq_some hfound, rfl, eq_of_beq hg⟩

/-! ## Validators -/

/-- A form that passes its check has a validator under a name that is given. -/
theorem exists_build_named (hcheck : form.check = .ok ()) {name : String} (hname : name ≠ "") :
    ∃ v, Validator.build form (some name) = .ok v ∧ v.hash = name := by
  obtain ⟨items, -, hnamed⟩ := exists_named hcheck name
  refine ⟨⟨name, items⟩, ?_, rfl⟩
  unfold Validator.build
  simp only [String.isEmpty_iff, hname]
  exact hnamed

/-- It has one under its own name if it has a document. -/
theorem exists_build_iff (hcheck : form.check = .ok ()) :
    (∃ v, Validator.build form none = .ok v) ↔ form.noJson? = none := by
  constructor
  · rintro ⟨v, hv⟩
    exact noJson?_of_build hv
  · intro hjson
    obtain ⟨items, hitems⟩ := exists_items hcheck
    obtain ⟨hash, hbuild⟩ := exists_build_of_items hitems hjson
    exact ⟨_, hbuild⟩

/-- Whether a service compiles it does not depend on the state of the service. -/
theorem exists_compile_iff {source : Source} (h : source.Accepted form) (s : Service)
    (w : Surroundings) : (∃ v, (s.compile w source).1 = .ok v) ↔ form.noJson? = none := by
  constructor
  · rintro ⟨v, hv⟩
    cases hjson : form.noJson? with
    | none => rfl
    | some e =>
      rw [Service.compile_without_document h hjson] at hv
      cases hv
  · intro hjson
    exact Service.compile_of_accepted h hjson

/-! ## What can be done with a form -/

/-- The form has validators, schemas and samples, and names and references that lead to one field
each. -/
structure Form.Usable (form : Form) : Prop where
  named : ∀ name, name ≠ "" → ∃ v, Validator.build form (some name) = .ok v ∧ v.hash = name
  schema : ∀ title strict, ∃ schema, form.jsonSchema title strict = .ok schema
  sample : ∀ now, ∃ entries, form.sample now = .ok entries
  names : (form.fields.map Field.name).Nodup
  /-- A validator tells the names of the fields in their order. -/
  fieldNames : ∀ name v, Validator.build form name = .ok v →
    v.fieldNames = form.fields.map Field.name
  references : ∀ f ∈ form.fields, ∀ r, f.Tests r →
    ∃ g ∈ form.fields, form.field? r = some g ∧ g.id = r

theorem usable_of_check (hcheck : form.check = .ok ()) : form.Usable where
  named _ hname := exists_build_named hcheck hname
  schema title strict := by
    obtain ⟨schema, hschema, -⟩ := exists_jsonSchema (nodup_names hcheck)
      (fun f hf => exists_kind_of_check hcheck hf) title strict
    exact ⟨schema, hschema⟩
  sample now := exists_sample hcheck now
  names := nodup_names hcheck
  fieldNames _ _ hbuild := keys_of_build hbuild
  references _ hf _ hr := exists_field?_of_declared (declared_of_check hcheck hf hr)

/-- A form of JSON values that passes its check is usable. It has a validator under its own name,
and every service compiles it in every state, exactly if it has no more levels than a document and
no integer that is too long to be written. -/
theorem accepted_usable (hcheck : form.check = .ok ()) (hjson : ∀ v ∈ form.values, IsJson v) :
    form.Usable ∧
    ((∃ v, Validator.build form none = .ok v) ↔
      form.levels ≤ mostLevels ∧ ∀ v ∈ form.values, v.Short) ∧
    ∀ (s : Service) (w : Surroundings) (source : Source), source.form? = .ok form →
      ((∃ v, (s.compile w source).1 = .ok v) ↔
        form.levels ≤ mostLevels ∧ ∀ v ∈ form.values, v.Short) ∧
      ∀ title strict, ∃ schema, s.jsonSchema source title strict = .ok schema := by
  rw [← Form.noJson?_eq_none_iff_levels hjson]
  refine ⟨usable_of_check hcheck, exists_build_iff hcheck, fun s w source hform => ?_⟩
  have haccepted : source.Accepted form := ⟨hform, hcheck⟩
  refine ⟨exists_compile_iff haccepted s w, fun title strict => ?_⟩
  obtain ⟨schema, hschema, -⟩ := Service.jsonSchema_of_accepted haccepted title strict
  exact ⟨schema, hschema⟩

/-! ## A default value of many levels -/

theorem check_withDefault (v : Value) : (withDefault v).check = .ok () :=
  @Service.admits_withDefault .standard v rfl

theorem isJson_values_withDefault {v : Value} (hv : IsJson v) :
    ∀ w ∈ (withDefault v).values, IsJson w := List.forall_mem_singleton.mpr hv

theorem levels_withDefault (v : Value) : (withDefault v).levels = v.levels := by
  show max (max v.levels 0) 0 = v.levels
  rw [Nat.max_zero, Nat.max_zero]

/-- A default value may have as many levels as a document. -/
theorem accepted_usable_deepest :
    let form := withDefault (nested 254)
    form.check = .ok () ∧ (∀ v ∈ form.values, IsJson v) ∧ form.Usable ∧
      (∃ v, Validator.build form none = .ok v) ∧
      ∃ v, ((start .standard none).compile (momentOf someDay) (.form form)).1 = .ok v := by
  intro form
  have hcheck : form.check = .ok () := check_withDefault _
  have hjson : ∀ v ∈ form.values, IsJson v := isJson_values_withDefault (Value.isJson_nested 254)
  have hwritten : form.levels ≤ mostLevels ∧ ∀ v ∈ form.values, v.Short := by
    rw [levels_withDefault, Value.levels_nested]
    exact ⟨by decide, List.forall_mem_singleton.mpr (Value.short_nested 254)⟩
  obtain ⟨husable, hbuild, hservice⟩ := accepted_usable hcheck hjson
  exact ⟨hcheck, hjson, husable, hbuild.mpr hwritten, (hservice _ _ _ rfl).1.mpr hwritten⟩

/-- With one level more the form passes its check, and has no validator under its own name. -/
theorem deep_default_refused :
    let form := withDefault (nested 255)
    form.check = .ok () ∧ (∀ v ∈ form.values, IsJson v) ∧
      (¬ ∃ v, Validator.build form none = .ok v) ∧
      ¬ ∃ v, ((start .standard none).compile (momentOf someDay) (.form form)).1 = .ok v := by
  intro form
  have hcheck : form.check = .ok () := check_withDefault _
  have hjson : ∀ v ∈ form.values, IsJson v := isJson_values_withDefault (Value.isJson_nested 255)
  have hdeep : ¬ form.noJson? = none := by
    rw [Form.noJson?_eq_none_iff_levels hjson, levels_withDefault, Value.levels_nested]
    exact fun h => absurd h.1 (by decide)
  refine ⟨hcheck, hjson, ?_, ?_⟩
  · rw [exists_build_iff hcheck]
    exact hdeep
  · rw [@exists_compile_iff form (.form form) ⟨rfl, hcheck⟩]
    exact hdeep

end Formwork
