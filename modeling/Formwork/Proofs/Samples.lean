import Formwork.Proofs.AcceptedForms
import Formwork.Proofs.Choosing
import Formwork.Proofs.Writable

/-!
# Samples that are accepted

The sample of a form has an entry for each field. Most of these suit the field whatever it is: the
number is within all bounds, the time is read back from its ISO text, and a choice is offered. Two
do not. A text has one format only, so it does not suit a field whose words imply more; and a first
choice that counts as nothing is no value for a select that is required. `sample_accepted_iff`: the
validator of a form accepts the sample exactly if there is no such field, and
`email_refused_as_url` is a form with one.
-/

namespace Formwork

open Service (someDay)

variable {form : Form} {f : Field} {item : Item} {v : Validator} {w : Value}
variable {locale : Locale} {today : Date} {now : DateTime} {entries : List (String × Value)}

/-! ## Accepting all entries -/

/-- A validator accepts a submission exactly if each of its items accepts what is entered for it. -/
theorem Validator.accepts_iff :
    (∃ data, v.validate locale today (.object entries) = .ok (.accepted data)) ↔
      ∀ item ∈ v.items, ∃ kept, item.accept today (entries.lookup item.key) = .ok (.ok kept) := by
  constructor
  · rintro ⟨data, hdata⟩ item hitem
    obtain ⟨findings, hfinds, houtcome⟩ := validate_eq_ok_iff.mp hdata
    obtain ⟨haccepted, -⟩ := outcome_eq_accepted_iff.mp houtcome
    obtain ⟨r, hr⟩ := hfinds.exists_finding hitem
    have haccept := hfinds.accept _ hr
    cases r with
    | ok kept => exact ⟨kept, haccept⟩
    | error e => exact absurd (haccepted _ hr) nofun
  · intro h
    have htells : ∀ item ∈ v.items, item.Tells today (entries.lookup item.key) := by
      intro item hitem
      obtain ⟨kept, hkept⟩ := h item hitem
      exact Item.tells_iff.mpr ⟨_, Item.accept_eq_kept_iff.mp hkept, nofun⟩
    obtain ⟨o, ho⟩ := (@exists_answer_iff v .english today entries).mpr htells
    obtain ⟨findings, hfinds, -⟩ := validate_eq_ok_iff.mp ho
    have haccepted : ∀ x ∈ findings, violation? x = none := by
      intro x hx
      obtain ⟨kept, hkept⟩ := h x.1 (hfinds.item_mem hx)
      have hr : x.2 = .ok kept := Except.ok.inj ((hfinds.accept x hx).symm.trans hkept)
      rw [violation?, hr]
    exact ⟨kept findings, validate_eq_ok_iff.mpr ⟨findings, hfinds,
      outcome_eq_accepted_iff.mpr ⟨haccepted, rfl⟩⟩⟩

/-! ## Texts -/

theorem isBlankText_sampleText (formats : List TextFormat) :
    Text.isBlankText (sampleText formats) = false := by
  unfold sampleText
  split
  · rfl
  · split
    · rfl
    · split <;> rfl

/-- Of the formats none has the text of another one, so the text of a sample has all formats of a
field exactly if there is one at most. -/
theorem sampleText_suits_iff (f : Field) :
    (∀ format ∈ f.formats, format.accepts (sampleText f.formats) = true) ↔
      f.formats.length ≤ 1 := by
  have hsome : f.formats ∈ [TextFormat.email, .url, .phone].sublists :=
    List.mem_sublists.mpr List.filter_sublist
  have hall : ∀ formats ∈ [TextFormat.email, .url, .phone].sublists,
      (∀ format ∈ formats, format.accepts (sampleText formats) = true) ↔ formats.length ≤ 1 := by
    decide +kernel
  exact hall _ hsome

theorem accept_sampleText_iff (hcontent : item.content = .text f.formats) :
    (∃ kept, item.accept today (some (.text (sampleText f.formats))) = .ok (.ok kept)) ↔
      f.formats.length ≤ 1 := by
  simp only [← sampleText_suits_iff, Item.accept_eq_kept_iff,
    Item.judge_text hcontent (isBlankText_sampleText f.formats)]
  constructor
  · rintro ⟨kept, hkept⟩
    obtain ⟨s, hs, -⟩ := map_eq_ok_iff.mp (Except.ok.inj hkept)
    obtain ⟨htext, hsuits⟩ := Entry.text_eq_ok_iff.mp hs
    have hsame : sampleText f.formats = s := Value.text.inj htext
    intro format hformat
    rw [hsame]
    exact hsuits format hformat
  · intro hsuits
    have htext := Entry.text_eq_ok_iff.mpr ⟨rfl, hsuits⟩
    rw [htext]
    exact ⟨_, rfl⟩

/-! ## Numbers, dates and choices -/

theorem scaled_whole_le {m n : Int} (h : m ≤ n) :
    (Number.whole m).scaled ≤ (Number.whole n).scaled :=
  Int.mul_le_mul_of_nonneg_right h (Int.natCast_nonneg _)

/-- The number of a sample is within the bounds of every field. -/
theorem bounds_allow_sample (f : Field) : f.bounds.Allows (.whole 42) := by
  have hleast : ∀ {least : Int}, some 0 = some least →
      (Number.whole least).scaled ≤ (Number.whole 42).scaled := by
    rintro _ ⟨⟩
    exact scaled_whole_le (by decide)
  unfold Field.bounds
  split
  · refine ⟨fun _ => hleast, ?_⟩
    rintro _ ⟨⟩
    exact scaled_whole_le (by decide)
  · split
    · exact ⟨fun _ => hleast, nofun⟩
    · exact ⟨nofun, nofun⟩

/-- A date takes the ISO text of a time in UTC for that time. -/
theorem accept_iso (hcontent : item.content = .date) (hutc : now.offset = some 0) :
    item.accept today (some (.text now.iso)) = .ok (.ok (some (.dateTime now))) := by
  have hletter : 'T' ∈ now.iso.toList := by
    rw [DateText.toList_iso hutc]
    simp
  have hblank : Text.isBlankText now.iso = false := isBlankText_eq_false_iff.mpr ⟨_, hletter, rfl⟩
  have hdate : Entry.date today (.text now.iso) = .ok (.ok (.dateTime now)) := by
    rw [Entry.date_eq, Entry.dateOf?, DateText.read_iso hutc]
    rfl
  have hsome : Content.date.isNothing (.text now.iso) = false := hblank
  rw [Item.accept_eq_kept_iff, Item.judge_of_entered (by simp), hcontent, hsome, Content.read,
    hdate]
  rfl

/-- The first choice of a field of several choices is a selection. -/
theorem keeps_first {required : Bool} {choices : List Value} (hne : choices ≠ [])
    (hnan : ∀ c ∈ choices, c.isNaN = false) :
    (Content.selection choices).Keeps required (.list (choices.take 1)) := by
  obtain ⟨c, cs, rfl⟩ := List.exists_cons_of_ne_nil hne
  refine .selection (fun d hd => ?_) (List.pairwise_singleton _ _) fun _ => by simp
  obtain rfl : d = c := List.mem_singleton.mp hd
  exact ⟨List.mem_cons_self, hnan d List.mem_cons_self⟩

/-! ## What a field makes of its sample -/

/-- A field takes its sample unless it wants a text of several formats, or is a required select of
one choice and the first choice counts as nothing. -/
def Field.TakesSample (f : Field) : Prop :=
  (f.kindName = "text" ∨ f.kindName = "textarea" → f.formats.length ≤ 1) ∧
  (f.kindName = "select" → f.multiple = false → f.required = true →
    ∀ c ∈ f.choices.head?, ¬ CountsAsNothing c)

/-- The values of the choices can be compared: no key stands twice in an object, and there is no
NaN. -/
def Form.Comparable (form : Form) : Prop :=
  ∀ f ∈ form.fields, ∀ c ∈ f.choices, c.DistinctKeys ∧ c.isNaN = false

section Kinds

variable {kind : FieldKind} (hkind : f.kind? = some kind)
  (hw : (Content.ofKind f kind).sample now = .ok w)

include hkind hw

theorem accept_sample_of_text (hname : f.kindName = "text" ∨ f.kindName = "textarea") :
    (∃ kept, Item.accept today ⟨f, .ofKind f kind⟩ (some w) = .ok (.ok kept)) ↔
      f.TakesSample := by
  have hcontent : Content.ofKind f kind = .text f.formats := by
    rcases hname with hname | hname
    · rw [kind_eq hname hkind rfl]
      rfl
    · rw [kind_eq hname hkind rfl]
      rfl
  have hselect : f.kindName ≠ "select" := by
    rcases hname with hname | hname <;> simp [hname]
  rw [hcontent] at hw
  injection hw with hw
  rw [← hw, accept_sampleText_iff hcontent]
  exact ⟨fun hone => ⟨fun _ => hone, fun h => absurd h hselect⟩, fun h => h.1 hname⟩

/-- A single choice is the first that is offered. -/
theorem accept_sample_of_choice (hname : f.kindName = "select") (hsingle : f.multiple = false)
    (hapart : f.choices.Pairwise Apart) (hkeys : ∀ c ∈ f.choices, c.DistinctKeys)
    (hnan : ∀ c ∈ f.choices, c.isNaN = false) (hmark : Value.missing ∉ f.choices) :
    (∃ kept, Item.accept today ⟨f, .ofKind f kind⟩ (some w) = .ok (.ok kept)) ↔
      f.TakesSample := by
  have hcontent := content_of_select hkind hname hsingle
  have htakes : f.TakesSample ↔ (f.required = true → ∀ c ∈ f.choices.head?, ¬ CountsAsNothing c) :=
    ⟨fun h => h.2 hname hsingle, fun h => ⟨by simp [hname], fun _ _ => h⟩⟩
  rw [htakes]
  rw [hcontent] at hw
  cases hchoices : f.choices with
  | nil =>
    rw [hchoices] at hw
    cases hw
  | cons c cs =>
    rw [hchoices] at hw
    injection hw with hw
    subst hw
    have hc : c ∈ f.choices := hchoices ▸ List.mem_cons_self
    simp only [List.head?_cons, Option.mem_some_iff, forall_eq']
    by_cases hnothing : CountsAsNothing c
    · rw [accept_of_countsAsNothing hcontent hnothing]
      cases f.required <;> simp [hnothing]
    · have hne : c ≠ .missing := fun h => hmark (h ▸ hc)
      rw [accept_choice hcontent hapart hc (hkeys c hc) (hnan c hc) hne hnothing]
      exact iff_of_true ⟨_, rfl⟩ fun _ => hnothing

/-- Of several choices the first one is selected. -/
theorem accept_sample_of_selection (hmulti : f.isMulti = true) (hne : f.choices ≠ [])
    (hapart : f.choices.Pairwise Apart) (hkeys : ∀ c ∈ f.choices, c.DistinctKeys)
    (hnan : ∀ c ∈ f.choices, c.isNaN = false) :
    ∃ kept, Item.accept today ⟨f, .ofKind f kind⟩ (some w) = .ok (.ok kept) := by
  have hcontent := content_of_isMulti hkind hmulti
  rw [hcontent] at hw ⊢
  injection hw with hw
  rw [← hw]
  exact ⟨_, Item.accept_of_keeps (keeps_first hne hnan) hapart hkeys⟩

theorem accept_sample_of_number (hname : f.kindName = "number") :
    ∃ kept, Item.accept today ⟨f, .ofKind f kind⟩ (some w) = .ok (.ok kept) := by
  obtain rfl := kind_eq hname hkind rfl
  injection hw with hw
  have hkeeps : (Content.number f.bounds).Keeps f.required w :=
    hw ▸ .number (bounds_allow_sample f)
  exact ⟨_, Item.accept_of_keeps hkeeps .nil nofun⟩

theorem accept_sample_of_date (hname : f.kindName = "date") (hutc : now.offset = some 0) :
    ∃ kept, Item.accept today ⟨f, .ofKind f kind⟩ (some w) = .ok (.ok kept) := by
  obtain rfl := kind_eq hname hkind rfl
  injection hw with hw
  rw [← hw]
  exact ⟨_, accept_iso rfl hutc⟩

theorem accept_sample_of_checkbox (hname : f.kindName = "checkbox")
    (hapart : f.choices.Pairwise Apart) (hkeys : ∀ c ∈ f.choices, c.DistinctKeys)
    (hnan : ∀ c ∈ f.choices, c.isNaN = false) :
    ∃ kept, Item.accept today ⟨f, .ofKind f kind⟩ (some w) = .ok (.ok kept) := by
  by_cases hgroup : 1 < f.choices.length
  · have hmulti : f.isMulti = true := by
      rw [isMulti_of_checkbox hname, decide_eq_true hgroup]
    have hne : f.choices ≠ [] := List.length_pos_iff.mp (by omega)
    exact accept_sample_of_selection hkind hw hmulti hne hapart hkeys hnan
  · obtain rfl := kind_eq hname hkind rfl
    have hcontent : Content.ofKind f .checkbox = .flag := by
      rw [Content.ofKind, isCheckboxGroup_of_checkbox hname, if_neg (by simpa using hgroup)]
    rw [hcontent] at hw ⊢
    injection hw with hw
    rw [← hw]
    exact ⟨_, rfl⟩

end Kinds

/-- Only a text and a select of one choice can fail to take their samples. -/
theorem takesSample_of_other (htext : f.kindName ≠ "text" ∧ f.kindName ≠ "textarea")
    (hselect : f.kindName = "select" → f.multiple = true) : f.TakesSample := by
  refine ⟨fun h => absurd h (by simp [htext]), fun h hsingle => ?_⟩
  rw [hselect h] at hsingle
  cases hsingle

/-- An item accepts the sample of its field exactly if the field takes it. -/
theorem accept_sample_iff (hcheck : form.check = .ok ()) (hchoices : form.Comparable)
    (hjson : form.noJson? = none) (hutc : now.offset = some 0) (hf : f ∈ form.fields)
    (hitem : Item.ofField f = .ok item) (hw : f.sample now = .ok w) :
    (∃ kept, item.accept today (some w) = .ok (.ok kept)) ↔ f.TakesSample := by
  obtain ⟨kind, hkind, rfl⟩ := ofField_eq_ok_iff.mp hitem
  rw [Field.sample, hitem] at hw
  have hkeys : ∀ c ∈ f.choices, c.DistinctKeys := fun c hc => (hchoices f hf c hc).1
  have hnan : ∀ c ∈ f.choices, c.isNaN = false := fun c hc => (hchoices f hf c hc).2
  have hname := kind?_eq_some_iff.mp hkind
  simp only [FieldKind.words, List.mem_cons, Prod.mk.injEq, List.not_mem_nil, or_false] at hname
  rcases hname with ⟨hname, -⟩ | ⟨hname, -⟩ | ⟨hname, -⟩ | ⟨hname, -⟩ | ⟨hname, -⟩ | ⟨hname, -⟩
  · exact accept_sample_of_text hkind hw (.inl hname)
  · exact iff_of_true (accept_sample_of_number hkind hw hname)
      (takesSample_of_other (by simp [hname]) (by simp [hname]))
  · have hapart := choices_apart hcheck hf (.inl hname)
    cases hmultiple : f.multiple with
    | true =>
      have hmulti : f.isMulti = true := by rw [isMulti_of_select hname, hmultiple]
      exact iff_of_true (accept_sample_of_selection hkind hw hmulti
          (choices_ne_nil_of_check hcheck hf hname) hapart hkeys hnan)
        (takesSample_of_other (by simp [hname]) fun _ => hmultiple)
    | false =>
      -- The mark for no value is no choice of a form with a document.
      have hmark : Value.missing ∉ f.choices := fun hmem =>
        noJson?_missing _ ((noJson?_of_form hjson hf).1 _ hmem)
      exact accept_sample_of_choice hkind hw hname hmultiple hapart hkeys hnan hmark
  · exact iff_of_true (accept_sample_of_date hkind hw hname hutc)
      (takesSample_of_other (by simp [hname]) (by simp [hname]))
  · exact iff_of_true (accept_sample_of_checkbox hkind hw hname
        (choices_apart hcheck hf (.inr hname)) hkeys hnan)
      (takesSample_of_other (by simp [hname]) (by simp [hname]))
  · exact accept_sample_of_text hkind hw (.inr hname)

/-! ## Samples of forms -/

/-- A form that passes its check has a sample with an entry for each field in their order. Its
validator accepts the sample exactly if every field takes its own; the form has no validator where
it has no document. -/
theorem sample_accepted_iff (hcheck : form.check = .ok ()) (hchoices : form.Comparable)
    (hutc : now.offset = some 0) :
    ∃ entries, form.sample now = .ok entries ∧
      entries.map Prod.fst = form.fields.map Field.name ∧
      ∀ locale today,
        (∃ v, Validator.build form none = .ok v ∧
          ∃ data, v.validate locale today (.object entries) = .ok (.accepted data)) ↔
        form.noJson? = none ∧ ∀ f ∈ form.fields, f.TakesSample := by
  obtain ⟨entries, hsample⟩ := exists_sample hcheck now
  refine ⟨entries, hsample, keys_sample hcheck hsample, fun locale today => ?_⟩
  -- Where there is a validator, each item finds the sample of its field.
  have hfield : ∀ v, Validator.build form none = .ok v → form.noJson? = none →
      ∀ item ∈ v.items,
        ((∃ kept, item.accept today (entries.lookup item.key) = .ok (.ok kept)) ↔
          item.field.TakesSample) := by
    intro v hbuild hjson item hitem
    have hf := field_mem_of_item hbuild hitem
    obtain ⟨kind, hkind, hcontent⟩ := content_of_item hbuild hitem
    have hof : Item.ofField item.field = .ok item :=
      ofField_eq_ok_iff.mpr ⟨kind, hkind, by rw [← hcontent]⟩
    obtain ⟨w, hw, hlookup⟩ := lookup_sample hcheck hsample hf
    rw [Item.key, hlookup]
    exact accept_sample_iff hcheck hchoices hjson hutc hf hof hw
  constructor
  · rintro ⟨v, hbuild, haccepted⟩
    have hjson := noJson?_of_build hbuild
    refine ⟨hjson, fun f hf => ?_⟩
    obtain ⟨item, hitem, rfl⟩ := exists_item hbuild hf
    exact (hfield v hbuild hjson item hitem).mp (Validator.accepts_iff.mp haccepted item hitem)
  · rintro ⟨hjson, htakes⟩
    obtain ⟨v, hbuild⟩ := (exists_build_iff hcheck).mpr hjson
    refine ⟨v, hbuild, Validator.accepts_iff.mpr fun item hitem => ?_⟩
    exact (hfield v hbuild hjson item hitem).mpr (htakes _ (field_mem_of_item hbuild hitem))

/-- The morning of a day in UTC. -/
def someMorning : DateTime := ⟨someDay, ⟨9, 30, 15, 123456, by decide⟩, some 0⟩

/-- The sample of the survey is accepted. -/
theorem sample_accepted_survey :
    survey.check = .ok () ∧ survey.Comparable ∧ someMorning.offset = some 0 ∧
    ∃ entries, survey.sample someMorning = .ok entries ∧
      ∃ v, Validator.build survey none = .ok v ∧
        ∃ data, v.validate .english someDay (.object entries) = .ok (.accepted data) := by
  have hchoices : survey.Comparable := by
    have htext : ∀ f ∈ survey.fields, ∀ c ∈ f.choices, ∃ s, c = .text s := by
      simp [survey, Field.choices]
    intro f hf c hc
    obtain ⟨s, rfl⟩ := htext f hf c hc
    exact ⟨.scalar rfl, rfl⟩
  have htakes : ∀ f ∈ survey.fields, f.TakesSample := by
    have hformats : ∀ f ∈ survey.fields, f.formats.length ≤ 1 := by decide +kernel
    have hselect : ∀ f ∈ survey.fields, f.kindName = "select" → f.multiple = true := by
      simp [survey]
    refine fun f hf => ⟨fun _ => hformats f hf, fun h hsingle => ?_⟩
    rw [hselect f hf h] at hsingle
    cases hsingle
  obtain ⟨entries, hsample, -, haccepted⟩ :=
    sample_accepted_iff check_survey hchoices (show someMorning.offset = some 0 from rfl)
  exact ⟨check_survey, hchoices, rfl, entries, hsample,
    (haccepted .english someDay).mpr ⟨rfl, htakes⟩⟩

/-- A text that is named for an email address and for a URL. -/
def linkField : Field := ⟨"l", "emailUrl", "text", "Link", false, none, none, none, none, false⟩

def linkForm : Form := ⟨"1", [linkField]⟩

/-- The sample is an email address, which the validator refuses because it is no URL. -/
theorem email_refused_as_url :
    linkForm.check = .ok () ∧ linkForm.Comparable ∧
    linkForm.sample someMorning = .ok [("emailUrl", .text "user@example.com")] ∧
    ∃ v, Validator.build linkForm none = .ok v ∧
      ∃ o, v.validate .english someDay (.object [("emailUrl", .text "user@example.com")]) = .ok o ∧
        o.codes = [("emailUrl", "invalid_url")] := by
  have hitems : linkForm.fields.mapM Item.ofField = .ok [⟨linkField, .text [.email, .url]⟩] := by
    cbv
  obtain ⟨hash, hbuild⟩ := exists_build_of_items hitems rfl
  have hemail : TextFormat.email.accepts "user@example.com" = true := by decide +kernel
  have hurl : TextFormat.url.accepts "user@example.com" = false := by decide +kernel
  have hread : Entry.text [.email, .url] (.text "user@example.com") = .error .notUrl := by
    simp [Entry.text, hemail, hurl]
  have hfinds : Validator.Finds ⟨hash, [⟨linkField, .text [.email, .url]⟩]⟩ someDay
      [("emailUrl", .text "user@example.com")]
      [(⟨linkField, .text [.email, .url]⟩, .error .notUrl)] := by
    refine ⟨rfl, List.forall_mem_singleton.mpr ?_, List.forall_mem_singleton.mpr ?_⟩
    · show Item.accept _ _ (some (.text "user@example.com")) = _
      refine Item.accept_of_judge ?_ (by simp)
      rw [Item.judge_of_entered (by simp), Content.read, hread]
      rfl
    · rintro _ ⟨⟩
      rfl
  refine ⟨by cbv, by simp [Form.Comparable, linkForm, linkField, Field.choices], by cbv, _, hbuild,
    _, Validator.validate_eq_ok_iff.mpr ⟨_, hfinds, rfl⟩, rfl⟩

end Formwork
