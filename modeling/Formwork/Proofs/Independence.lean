import Formwork.Proofs.Findings
import Formwork.Proofs.ShortTexts

/-!
# Fields are judged one by one

Every submission gets an answer unless the text of some date cannot be read, or a choice that is to
be told is too long to be written: the form must offer none of these if every submission that can be
read is to get an answer. The answer tells one complaint at most about each field, in the order of
the form, and accepts what there is no complaint about. What becomes of a field depends on the entry
under its own name and on no other: its finding is the same in every submission with that entry, and
both the complaints and the data are looked up by name in the findings.
-/

namespace Formwork

variable {form : Form} {f : Field} {hash : Option String} {v : Validator} {item : Item}
variable {locale locale' : Locale} {today : Date} {entries entries' : List (String × Value)}

namespace Outcome

def isSuccess : Outcome → Bool
  | accepted _ => true
  | rejected _ => false

def data? : Outcome → Option (List (String × Value))
  | accepted data => some data
  | rejected _ => none

def complaints : Outcome → List Complaint
  | accepted _ => []
  | rejected cs => cs

/-- The codes of the complaints under the names of their fields. -/
def codes (o : Outcome) : List (String × String) := o.complaints.map fun c => (c.field, c.code)

/-- A submission is accepted where there is nothing to complain about. Both the complaints and the
data are about fields with some names, in the order of these, and no two complaints about one. -/
structure Collects (names : List String) (o : Outcome) : Prop where
  success_iff_complaints : o.isSuccess = true ↔ o.complaints = []
  success_iff_data : o.isSuccess = true ↔ o.data?.isSome = true
  complaints : (o.complaints.map Complaint.field).Sublist names
  nodup : (o.complaints.map Complaint.field).Nodup
  data : ∀ data, o.data? = some data → (data.map Prod.fst).Sublist names

/-- Both tell the same code under a name or none, and the same value if both accept. -/
def AgreeOn (name : String) (o o' : Outcome) : Prop :=
  o.codes.lookup name = o'.codes.lookup name ∧
  ∀ data data', o.data? = some data → o'.data? = some data' →
    data.lookup name = data'.lookup name

end Outcome

/-- Every text that is entered for a date can be read, as a date or as none. -/
def Form.Readable (form : Form) (today : Date) (entries : List (String × Value)) : Prop :=
  ∀ f ∈ form.fields, f.kindName = "date" →
    ∀ s, entries.lookup f.name = some (.text s) → Text.isBlankText s = false →
      ∃ r, DateText.read today (Text.trim s) = .ok r

/-- Texts of few digits can be read. -/
theorem Form.readable_of_digitCount (h : ∀ e ∈ entries, ∀ s, e.2 = .text s →
    DateText.digitCount s.toList ≤ DateText.Amount.precision) : form.Readable today entries :=
  fun _ _ _ s hs _ => DateText.exists_read_trim (h _ (mem_of_lookup hs) s rfl) today

/-- No choice that the form offers is too long to be written. A select offers its choices, and so
does a checkbox that has more than one. -/
def Form.OffersShort (form : Form) : Prop :=
  ∀ f ∈ form.fields, (f.kindName = "select" ∨ f.kindName = "checkbox" ∧ 1 < f.choices.length) →
    ∀ c ∈ f.choices, c.Short

namespace Validator

variable {findings findings' : List Finding} {o : Outcome}

/-! ## Answers -/

/-- What is no submission gets one complaint. -/
theorem validate_of_not_object {submission : Value} (h : ∀ entries, submission ≠ .object entries) :
    v.validate locale today submission = .ok (.rejected [notASubmission locale]) := by
  cases submission
  case object entries => exact absurd rfl (h entries)
  all_goals rfl

theorem content_eq_date_iff (hbuild : Validator.build form hash = .ok v)
    (hitem : item ∈ v.items) : item.content = .date ↔ item.field.kindName = "date" := by
  obtain ⟨kind, hkind, hcontent⟩ := content_of_item hbuild hitem
  have hdate : Content.ofKind item.field kind = .date ↔ kind = .date := by
    cases kind <;> simp only [Content.ofKind] <;> try split
    all_goals simp
  rw [hcontent, hdate, ← kind?_eq_date_iff, hkind, Option.some.injEq]

theorem readable_iff (hbuild : Validator.build form hash = .ok v) :
    form.Readable today entries ↔ ∀ item ∈ v.items, ∀ s, item.content = .date →
      entries.lookup item.key = some (.text s) → Text.isBlankText s = false →
        ∃ r, DateText.read today (Text.trim s) = .ok r := by
  constructor
  · intro h item hitem s hdate hs hblank
    have hname := (content_eq_date_iff hbuild hitem).mp hdate
    exact h item.field (field_mem_of_item hbuild hitem) hname s hs hblank
  · intro h f hf hdate s hs hblank
    obtain ⟨item, hitem, rfl⟩ := exists_item hbuild hf
    exact h item hitem s ((content_eq_date_iff hbuild hitem).mpr hdate) hs hblank

theorem offersShort_iff (hbuild : Validator.build form hash = .ok v) :
    form.OffersShort ↔ ∀ item ∈ v.items, ∀ c ∈ item.content.offered, c.Short := by
  constructor
  · intro h item hitem c hc
    obtain ⟨kind, hkind, hcontent⟩ := content_of_item hbuild hitem
    rw [hcontent] at hc
    obtain ⟨hc, hoffers⟩ := (mem_offered_iff hkind).mp hc
    exact h item.field (field_mem_of_item hbuild hitem) hoffers c hc
  · intro h f hf hoffers c hc
    obtain ⟨item, hitem, rfl⟩ := exists_item hbuild hf
    obtain ⟨kind, hkind, hcontent⟩ := content_of_item hbuild hitem
    refine h item hitem c ?_
    rw [hcontent]
    exact (mem_offered_iff hkind).mpr ⟨hc, hoffers⟩

/-- A submission that gets an answer can be read. -/
theorem readable_of_answer (hbuild : Validator.build form hash = .ok v)
    (h : ∃ o, v.validate locale today (.object entries) = .ok o) : form.Readable today entries := by
  rw [readable_iff hbuild]
  exact fun item hitem => (exists_answer_iff.mp h item hitem).date

/-- Of a form that offers short choices only, every submission that can be read gets an answer. -/
theorem exists_answer_iff_readable (hbuild : Validator.build form hash = .ok v)
    (hshort : form.OffersShort) :
    (∃ o, v.validate locale today (.object entries) = .ok o) ↔ form.Readable today entries := by
  rw [exists_answer_iff, readable_iff hbuild]
  have hoffered := (offersShort_iff hbuild).mp hshort
  exact forall₂_congr fun item hitem => Item.tells_iff_of_short (hoffered item hitem)

/-- Something that is no choice makes a violation that shows all of them. -/
theorem offersShort_of_answers (hbuild : Validator.build form hash = .ok v)
    (h : ∀ entries, form.Readable today entries →
      ∃ o, v.validate locale today (.object entries) = .ok o) : form.OffersShort := by
  rw [offersShort_iff hbuild]
  intro item hitem c hc
  obtain ⟨w, htext, hmark, hsome, hread⟩ := Content.exists_unmatched hc
  have hreadable : form.Readable today [(item.key, w)] := fun f _ _ s hs _ =>
    absurd (List.mem_singleton.mp (mem_of_lookup hs)) (by simp [(htext s).symm])
  have htells := exists_answer_iff.mp (h _ hreadable) item hitem
  rw [List.lookup_cons_self] at htells
  exact htells.shown _ (.read hmark hsome (hread today _)) c hc

theorem complaints_outcome (locale : Locale) (findings : List Finding) :
    (outcome locale findings).complaints = complaints locale findings := by
  rw [outcome]
  cases complaints locale findings <;> rfl

theorem isSuccess_outcome_iff :
    (outcome locale findings).isSuccess = true ↔ complaints locale findings = [] := by
  rw [outcome]
  cases complaints locale findings <;> simp [Outcome.isSuccess]

theorem data?_outcome {data : List (String × Value)}
    (h : (outcome locale findings).data? = some data) : data = kept findings := by
  rw [outcome] at h
  cases hcs : complaints locale findings with
  | nil =>
    rw [hcs] at h
    injection h with h
    exact h.symm
  | cons c cs =>
    rw [hcs] at h
    cases h

/-! ## Order -/

/-- The complaints are about different fields, in the order of the items. -/
theorem Finds.complaints_sublist (h : v.Finds today entries findings) (locale : Locale) :
    ((complaints locale findings).map Complaint.field).Sublist (v.items.map Item.key) := by
  rw [complaints_eq, ← h.keys]
  refine map_filterMap_sublist fun x c hc => ?_
  obtain ⟨e, -, rfl⟩ := Option.map_eq_some_iff.mp hc
  rfl

/-- The values that are kept are in the order of the items. -/
theorem Finds.kept_sublist (h : v.Finds today entries findings)
    (hkeys : (v.items.map Item.key).Nodup) :
    ((kept findings).map Prod.fst).Sublist (v.items.map Item.key) := by
  rw [← h.keys] at hkeys ⊢
  rw [kept_eq hkeys]
  refine map_filterMap_sublist fun x e he => ?_
  obtain ⟨w, -, rfl⟩ := Option.map_eq_some_iff.mp he
  rfl

/-- An answer collects what the findings tell. -/
theorem Finds.collects (h : v.Finds today entries findings) (hkeys : (v.items.map Item.key).Nodup)
    (locale : Locale) : (outcome locale findings).Collects (v.items.map Item.key) where
  success_iff_complaints := by
    rw [isSuccess_outcome_iff, complaints_outcome]
  success_iff_data := by
    cases outcome locale findings <;> simp [Outcome.isSuccess, Outcome.data?]
  complaints := by
    rw [complaints_outcome]
    exact h.complaints_sublist locale
  nodup := by
    rw [complaints_outcome]
    exact hkeys.sublist (h.complaints_sublist locale)
  data _ hdata := by
    rw [data?_outcome hdata]
    exact h.kept_sublist hkeys

/-! ## Two submissions -/

/-- The codes are those of the violations, in the order of the findings. -/
theorem codes_outcome (locale : Locale) (findings : List Finding) :
    (outcome locale findings).codes =
      findings.filterMap fun x => ((violation? x).map (·.reason.code)).map (x.1.key, ·) := by
  rw [Outcome.codes, complaints_outcome, complaints_eq, List.map_filterMap]
  simp only [Option.map_map]
  rfl

/-- Under the key of an item is the code of the violation that its finding tells. -/
theorem Finds.lookup_codes (h : v.Finds today entries findings)
    (hkeys : (v.items.map Item.key).Nodup) {x : Finding} (hx : x ∈ findings) :
    (outcome locale findings).codes.lookup x.1.key = (violation? x).map (·.reason.code) := by
  rw [← h.keys] at hkeys
  rw [codes_outcome]
  exact lookup_filterMap hkeys hx

/-- An item makes the same finding in two submissions that have the same for it. -/
theorem Finds.exists_common (h : v.Finds today entries findings)
    (h' : v.Finds today entries' findings') (hitem : item ∈ v.items)
    (hentry : entries.lookup item.key = entries'.lookup item.key) :
    ∃ r, (item, r) ∈ findings ∧ (item, r) ∈ findings' := by
  obtain ⟨r, hr⟩ := h.exists_finding hitem
  obtain ⟨r', hr'⟩ := h'.exists_finding hitem
  have haccept := h.accept _ hr
  have haccept' := h'.accept _ hr'
  rw [hentry, haccept'] at haccept
  have heq : r' = r := Except.ok.inj haccept
  exact ⟨r, hr, heq ▸ hr'⟩

theorem Finds.agreeOn (h : v.Finds today entries findings) (h' : v.Finds today entries' findings')
    (hkeys : (v.items.map Item.key).Nodup) (hitem : item ∈ v.items)
    (hentry : entries.lookup item.key = entries'.lookup item.key) :
    Outcome.AgreeOn item.key (outcome locale findings) (outcome locale' findings') := by
  obtain ⟨r, hr, hr'⟩ := h.exists_common h' hitem hentry
  refine ⟨?_, fun data data' hdata hdata' => ?_⟩
  · exact (h.lookup_codes hkeys hr).trans (h'.lookup_codes hkeys hr').symm
  · rw [data?_outcome hdata, data?_outcome hdata']
    exact (h.lookup_kept hkeys hr).trans (h'.lookup_kept hkeys hr').symm

/-- What is no submission gets one complaint. A submission that gets an answer can be read, and all
that can be read get one exactly if no choice that the form offers is too long to be written. An
answer collects what there is to tell about the fields, and on a field with the same entry two
answers agree. -/
theorem validate_fieldwise (hcheck : form.check = .ok ())
    (hbuild : Validator.build form hash = .ok v) (today : Date) :
    (∀ locale submission, (∀ entries, submission ≠ .object entries) →
      ∃ c, v.validate locale today submission = .ok (.rejected [c]) ∧
        c.field = "_root" ∧ c.code = "invalid_payload") ∧
    (∀ locale entries, (∃ o, v.validate locale today (.object entries) = .ok o) →
      form.Readable today entries) ∧
    ((∀ locale entries, form.Readable today entries →
      ∃ o, v.validate locale today (.object entries) = .ok o) ↔ form.OffersShort) ∧
    (∀ locale entries o, v.validate locale today (.object entries) = .ok o →
      o.Collects (form.fields.map Field.name)) ∧
    ∀ locale locale' entries entries' o o', v.validate locale today (.object entries) = .ok o →
      v.validate locale' today (.object entries') = .ok o' →
      ∀ f ∈ form.fields, entries.lookup f.name = entries'.lookup f.name →
        Outcome.AgreeOn f.name o o' := by
  have hkeys := nodup_keys hcheck hbuild
  refine ⟨?_, fun _ _ => readable_of_answer hbuild, ⟨?_, ?_⟩, ?_, ?_⟩
  · intro locale submission h
    exact ⟨_, validate_of_not_object h, rfl, rfl⟩
  · exact fun h => offersShort_of_answers hbuild (h .english)
  · exact fun hshort locale entries => (exists_answer_iff_readable hbuild hshort).mpr
  · intro locale entries o h
    obtain ⟨findings, hfinds, rfl⟩ := validate_eq_ok_iff.mp h
    rw [← keys_of_build hbuild]
    exact hfinds.collects hkeys locale
  · intro locale locale' entries entries' o o' h h' f hf hentry
    obtain ⟨findings, hfinds, rfl⟩ := validate_eq_ok_iff.mp h
    obtain ⟨findings', hfinds', rfl⟩ := validate_eq_ok_iff.mp h'
    obtain ⟨item, hitem, rfl⟩ := exists_item hbuild hf
    exact hfinds.agreeOn hfinds' hkeys hitem hentry

/-- A submission of a date as text gets an answer, which agrees on the date with any answer to
another submission of it. -/
theorem validate_fieldwise_survey :
    let today : Date := ⟨2024, 1, 31, by decide⟩
    let entries := [("day", Value.text "2024-02-12")]
    survey.check = .ok () ∧
    ∃ v, Validator.build survey none = .ok v ∧
      ∃ o, v.validate .english today (.object entries) = .ok o ∧
        o.Collects ["email", "colors", "day", "news"] ∧
        ∀ o', v.validate .chinese today (.object (("news", .bool true) :: entries)) = .ok o' →
          Outcome.AgreeOn "day" o o' := by
  intro today entries
  obtain ⟨hash, hbuild⟩ := build_survey
  obtain ⟨-, -, hanswers, hcollects, hagree⟩ := validate_fieldwise check_survey hbuild today
  have hshort : survey.OffersShort := by
    simp only [Form.OffersShort, survey, List.forall_mem_cons]
    refine ⟨by simp, fun _ => ?_, by simp, ?_, List.forall_mem_nil _⟩
    · exact List.forall_mem_cons.mpr ⟨Value.short_text _,
        List.forall_mem_singleton.mpr (Value.short_text _)⟩
    · exact fun _ => List.forall_mem_nil _
  have hreadable : survey.Readable today entries := by
    refine Form.readable_of_digitCount (List.forall_mem_singleton.mpr ?_)
    rintro _ ⟨⟩
    decide
  obtain ⟨o, ho⟩ := hanswers.mpr hshort .english entries hreadable
  refine ⟨check_survey, _, hbuild, o, ho, hcollects _ _ _ ho, fun o' ho' => ?_⟩
  have hday : (⟨"d", "day", "date", "Day", false, none, none, none, none, false⟩ : Field) ∈
      survey.fields := by simp [survey]
  exact hagree _ _ _ _ _ _ ho ho' _ hday rfl

/-- A select with one choice, or with several of one. -/
def offering (multiple : Bool) (c : Value) : Field :=
  ⟨"c", "color", "select", "Color", false, none, some [⟨"Red", c⟩], none, none, multiple⟩

theorem check_offering (multiple : Bool) (c : Value) :
    Form.check ⟨"1", [offering multiple c]⟩ = .ok () := by cbv

theorem choice_long :
    Entry.choice [Value.long] (.text "red") = .error (.notOffered [Value.long]) := by
  have hequal : (Value.text "red").strictEq Value.long = false := by
    obtain ⟨n, hn⟩ := Value.exists_int_eq_long
    rw [hn]
    rfl
  rw [Entry.choice, List.find?_cons, hequal]
  rfl

/-- A refusal that would have to tell a long choice is none. -/
theorem accept_offering_long (today : Date) :
    Item.accept today ⟨offering false Value.long, .choice [Value.long]⟩ (some (.text "red")) =
      .error .longInteger := by
  have hblank : (Content.choice [Value.long]).isNothing (.text "red") = false := by decide
  rw [Item.accept_eq_longInteger_iff]
  refine ⟨[Value.long], ?_, _, .head _, Value.not_short_long⟩
  rw [Item.judge_of_entered (by simp), hblank, Content.read, choice_long]
  rfl

/-- Under a name of its own a form is compiled whose choice is too long to be written, and then
something else than the choice is neither accepted nor refused. -/
theorem long_choice_untold :
    let form : Form := ⟨"1", [offering false Value.long]⟩
    let today : Date := ⟨2024, 1, 31, by decide⟩
    let entries := [("color", Value.text "red")]
    form.check = .ok () ∧ form.Readable today entries ∧
      ∃ v, Validator.build form (some "h") = .ok v ∧
        v.validate .english today (.object entries) = .error .longInteger := by
  intro form today entries
  have hbuild : Validator.build form (some "h") =
      .ok ⟨"h", [⟨offering false Value.long, .choice [Value.long]⟩]⟩ := rfl
  refine ⟨check_offering _ _, ?_, _, hbuild, ?_⟩
  · exact List.forall_mem_singleton.mpr fun hdate => absurd hdate (by decide)
  · exact validate_of_accept_error (accept_offering_long today)

end Validator

end Formwork
