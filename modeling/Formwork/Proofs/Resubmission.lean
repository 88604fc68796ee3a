import Formwork.Proofs.Acceptance
import Formwork.Proofs.Findings

/-!
# Submitting what was kept

A form without default values keeps what it kept before: what an item keeps of some entry it keeps
of itself, and where it keeps nothing it keeps nothing of nothing. So the findings on the data are
those on the submission, and the answer is the same.
-/

namespace Formwork

variable {form : Form} {hash : Option String} {v : Validator} {item : Item} {locale : Locale}
variable {today : Date} {entries data : List (String × Value)}

/-- Without a default value an item makes of what it keeps what it has made of the entry. -/
theorem Item.accept_again {entered o : Option Value} (hfallback : item.field.fallback = none)
    (hapart : item.content.offered.Pairwise Apart)
    (hkeys : ∀ c ∈ item.content.offered, c.DistinctKeys)
    (h : item.accept today entered = .ok (.ok o)) (today' : Date) :
    item.accept today' o = .ok (.ok o) := by
  have hmakes := makes_of_accept h
  cases o with
  | some w => exact accept_of_keeps (hmakes.keeps rfl (Or.inl hfallback)) hapart hkeys
  | none =>
    have hnothing := hmakes.acceptNothing_eq rfl hfallback
    rw [accept_eq_kept_iff, judge_eq_ok_iff, ← hnothing]
    exact .absent rfl hfallback

namespace Validator

variable {findings : List Finding}

/-- The findings on a submission that is accepted are those on the data that is kept. -/
theorem Finds.again (h : v.Finds today entries findings) (hkeys : (v.items.map Item.key).Nodup)
    (haccepted : ∀ x ∈ findings, violation? x = none) {today' : Date}
    (hagain : ∀ item ∈ v.items, ∀ entered o, item.accept today entered = .ok (.ok o) →
      item.accept today' o = .ok (.ok o)) : v.Finds today' (kept findings) findings where
  items := h.items
  accept x hx := by
    obtain ⟨o, ho⟩ : ∃ o, x.2 = .ok o := by
      cases hr : x.2 with
      | ok o => exact ⟨o, rfl⟩
      | error e => exact absurd (violation?_eq_some_iff.mpr hr) (by simp [haccepted x hx])
    have hvalue : value? x = o := by
      rw [value?, ho]
      cases o <;> rfl
    rw [h.lookup_kept hkeys hx, hvalue, ho]
    exact hagain x.1 (h.item_mem hx) _ o (ho ▸ h.accept x hx)
  told := h.told

end Validator

/-- What a form without default values accepts is accepted again, on whatever day and in whatever
language, and the same is kept of it. No choice is compared with itself in vain: an object has no
key twice, and a choice that equals nothing is not kept. -/
theorem validate_again (hcheck : form.check = .ok ()) (hbuild : Validator.build form hash = .ok v)
    (hfallback : ∀ f ∈ form.fields, f.fallback = none)
    (hdistinct : ∀ f ∈ form.fields, ∀ c ∈ f.choices, c.DistinctKeys)
    (h : v.validate locale today (.object entries) = .ok (.accepted data))
    (locale' : Locale) (today' : Date) :
    v.validate locale' today' (.object data) = .ok (.accepted data) := by
  obtain ⟨findings, hfinds, houtcome⟩ := Validator.validate_eq_ok_iff.mp h
  obtain ⟨haccepted, rfl⟩ := Validator.outcome_eq_accepted_iff.mp houtcome
  refine Validator.validate_eq_ok_iff.mpr
    ⟨findings, hfinds.again (nodup_keys hcheck hbuild) haccepted ?_, ?_⟩
  · intro item hitem entered o haccept
    have hf := field_mem_of_item hbuild hitem
    obtain ⟨kind, hkind, hcontent⟩ := content_of_item hbuild hitem
    refine Item.accept_again (hfallback _ hf) ?_ ?_ haccept today'
    · rw [hcontent]
      exact offered_apart hcheck hf hkind
    · rw [hcontent]
      exact fun c hc => hdistinct _ hf c (mem_choices_of_offered hc)
  · exact Validator.outcome_eq_accepted_iff.mpr ⟨haccepted, rfl⟩

/-- The data that is kept of the survey is kept again. -/
theorem validate_again_survey :
    survey.check = .ok () ∧
    ∃ v, Validator.build survey none = .ok v ∧
      v.validate .english ⟨2024, 1, 31, by decide⟩ (.object surveyData) =
        .ok (.accepted surveyData) := by
  obtain ⟨hash, hbuild⟩ := build_survey
  have hdistinct : ∀ f ∈ survey.fields, ∀ c ∈ f.choices, c.DistinctKeys := by
    have hscalar : ∀ f ∈ survey.fields, ∀ c ∈ f.choices, c.isContainer = false := by
      simp [survey, Field.choices, Value.isContainer]
    exact fun f hf c hc => .scalar (hscalar f hf c hc)
  have h := validate_survey hash .english ⟨2024, 1, 31, by decide⟩
  exact ⟨check_survey, _, hbuild,
    validate_again check_survey hbuild fallback_survey hdistinct h .english _⟩

end Formwork
