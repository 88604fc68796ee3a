import Formwork.Proofs.Encoding
import Formwork.Proofs.Independence

/-!
# What a validator cannot tell

A validator takes or refuses every submission but for two reasons: the text of a date has a number
that is too long to be worked with, or a choice that is to be told is too long to be written. The
validator of a form that is named by its content has no such choice.
-/

namespace Formwork

namespace DateText

/-- Twenty-nine digits and the word for hours. -/
def manyHours : String := "11111111111111111111111111111h"

theorem read_manyHours (today : Date) : read today (Text.trim manyHours) = .error ⟨⟩ := by
  have htokens : tokens (Text.trim manyHours).toList = [List.replicate 29 '1', ['h']] := by decide
  have hstep : step today .none [] (List.replicate 29 '1') [['h']] = .error .overlong := rfl
  rw [read, htokens, walk, hstep]

end DateText

namespace Validator

variable {form : Form} {hash : Option String} {v : Validator} {locale : Locale} {today : Date}
variable {submission : Value} {entries : List (String × Value)}

/-- Every item can tell what it makes of its entry in the submission. -/
def Tells (v : Validator) (today : Date) (submission : Value) : Prop :=
  ∀ entries, submission = .object entries →
    ∀ item ∈ v.items, item.Tells today (entries.lookup item.key)

theorem tells_object_iff :
    v.Tells today (.object entries) ↔
      ∀ item ∈ v.items, item.Tells today (entries.lookup item.key) := by
  constructor
  · exact fun h => h entries rfl
  · rintro h _ ⟨⟩
    exact h

/-- A submission gets an answer exactly if it can be told. -/
theorem exists_answer_iff_tells :
    (∃ o, v.validate locale today submission = .ok o) ↔ v.Tells today submission := by
  by_cases hobject : ∃ entries, submission = .object entries
  · obtain ⟨entries, rfl⟩ := hobject
    rw [exists_answer_iff, tells_object_iff]
  · push Not at hobject
    exact iff_of_true ⟨_, validate_of_not_object hobject⟩
      fun entries hentries => absurd hentries (hobject entries)

theorem tells_iff_readable (hbuild : Validator.build form hash = .ok v)
    (hshort : form.OffersShort) :
    v.Tells today (.object entries) ↔ form.Readable today entries := by
  rw [← @exists_answer_iff_tells v .english, exists_answer_iff_readable hbuild hshort]

/-- The choices of a form with a document can be written. -/
theorem short_choices (hjson : form.noJson? = none) {f : Field} (hf : f ∈ form.fields) {c : Value}
    (hc : c ∈ f.choices) : c.Short := by
  have hmem := List.mem_flatMap.mpr ⟨f, hf, Field.mem_values_of_choice hc⟩
  exact (Form.noJson?_eq_none_iff.mp hjson).2 c hmem

/-- A form that is named by its content offers short choices only. -/
theorem offersShort_of_build (hbuild : Validator.build form none = .ok v) : form.OffersShort :=
  fun _ hf _ _ hc => short_choices (noJson?_of_build hbuild) hf hc

theorem isOk_validate_iff :
    (v.validate locale today submission).isOk = true ↔ v.Tells today submission := by
  rw [← @exists_answer_iff_tells v locale]
  cases v.validate locale today submission <;> simp [Except.isOk, Except.toBool]

end Validator

end Formwork
