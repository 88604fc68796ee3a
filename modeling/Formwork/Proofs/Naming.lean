import Formwork.Proofs.Attempts
import Formwork.Submission.Validator

/-!
# Names of forms

A form with a JSON document is named by the digest of the document. A validator that is built under
the name of its form is the one that is built under no name.
-/

namespace Formwork

variable {form : Form} {name : String} {v : Validator}

theorem contentHash_eq_ok_iff :
    form.contentHash = .ok name ↔
      form.noJson? = none ∧ Sha256.digest form.encoding.toUTF8.toList = name := by
  rw [Form.contentHash]
  cases form.noJson? with
  | none => simp
  | some e => simp

theorem exists_contentHash_iff : (∃ name, form.contentHash = .ok name) ↔ form.noJson? = none := by
  simp [contentHash_eq_ok_iff]

theorem contentHash_eq_error_iff {e : Value.NoJson} :
    form.contentHash = .error e ↔ form.noJson? = some e := by
  rw [Form.contentHash]
  cases form.noJson? with
  | none => simp
  | some e => simp

theorem build_none (form : Form) :
    Validator.build form none = Validator.named form form.contentHash := rfl

theorem build_contentHash (h : form.contentHash = .ok name) :
    Validator.build form (some name) = Validator.build form none := by
  simp only [Validator.build, h, ite_self]

/-- A validator has the name of its form. -/
theorem hash_of_build (hname : form.contentHash = .ok name)
    (h : Validator.build form none = .ok v) : v.hash = name := by
  rw [build_none, hname, Validator.named] at h
  obtain ⟨items, -, h⟩ := bind_eq_ok_iff.mp h
  injection h with h
  rw [← h]

/-- A form with items and a document has a validator under its own name. -/
theorem exists_build_of_items {items : List Item}
    (hitems : form.fields.mapM Item.ofField = .ok items) (hjson : form.noJson? = none) :
    ∃ hash, Validator.build form none = .ok ⟨hash, items⟩ := by
  rw [build_none, Validator.named, hitems, contentHash_eq_ok_iff.mpr ⟨hjson, rfl⟩]
  exact ⟨_, rfl⟩

/-- A form with a validator under its own name has a document. -/
theorem noJson?_of_build (hbuild : Validator.build form none = .ok v) : form.noJson? = none := by
  cases hjson : form.noJson? with
  | none => rfl
  | some e =>
    rw [build_none, contentHash_eq_error_iff.mpr hjson, Validator.named] at hbuild
    obtain ⟨items, -, hbuild⟩ := bind_eq_ok_iff.mp hbuild
    cases hbuild

end Formwork
