import Formwork.Proofs.Findings

/-!
# Data that is accepted

`Field.Proper` says of a field, by the word for its kind, which values are of the shape that it
collects. What a form that passes its check accepts has a value under no other keys than the names
of its fields and under the name of every field that is required, and each value that is not a
default value is proper. The mark for no value counts as no entry; as a default value it lets a
required field be left out, which `required_left_out` shows.
-/

namespace Formwork

variable {form : Form} {f : Field} {hash : Option String} {v : Validator} {w : Value}
variable {locale : Locale} {today : Date}
variable {entries data : List (String × Value)}

/-- The values of the shape that a field collects. -/
inductive Field.Proper (f : Field) : Value → Prop
  | text {s : String} (hkind : f.kindName = "text" ∨ f.kindName = "textarea")
      (hblank : ∃ c ∈ s.toList, Text.isBlank c = false)
      (hformats : ∀ format ∈ f.formats, format.accepts s = true) : Proper f (.text s)
  | int {n : Int} (hkind : f.kindName = "number") (hbounds : f.bounds.Allows (.whole n)) :
      Proper f (.int n)
  | float {x : Finite64} (hkind : f.kindName = "number") (hbounds : f.bounds.Allows (.real x)) :
      Proper f (.float (.finite x))
  | date (hkind : f.kindName = "date") (d : Date) : Proper f (.date d)
  | dateTime (hkind : f.kindName = "date") (t : DateTime) : Proper f (.dateTime t)
  | choice {c : Value} (hkind : f.kindName = "select") (hsingle : f.multiple = false)
      (hc : c ∈ f.choices) : Proper f c
  /-- A select of several choices, or a checkbox for each of several choices. -/
  | selection {cs : List Value}
      (hkind : (f.kindName = "select" ∧ f.multiple = true) ∨
        (f.kindName = "checkbox" ∧ 1 < f.choices.length))
      (hcs : ∀ c ∈ cs, c ∈ f.choices) (hapart : cs.Pairwise Apart)
      (hsome : f.required = true → cs ≠ []) : Proper f (.list cs)
  | flag (hkind : f.kindName = "checkbox") (hsingle : f.choices.length ≤ 1) (b : Bool) :
      Proper f (.bool b)

/-! ## Kinds -/

theorem isMulti_of_select (h : f.kindName = "select") : f.isMulti = f.multiple := by
  rw [Field.isMulti, if_pos (by simp [h])]

theorem isCheckboxGroup_of_checkbox (h : f.kindName = "checkbox") :
    f.isCheckboxGroup = decide (1 < f.choices.length) := by
  simp [Field.isCheckboxGroup, h]

theorem isBlankText_eq_false_iff {s : String} :
    Text.isBlankText s = false ↔ ∃ c ∈ s.toList, Text.isBlank c = false := by
  simp [Text.isBlankText]

/-- What a number field keeps is an integer or a finite number. -/
theorem proper_ofNumber {n : Number} (hkind : f.kindName = "number")
    (hbounds : f.bounds.Allows n) : f.Proper (Value.ofNumber n) := by
  cases n with
  | whole n => exact .int hkind hbounds
  | real x => exact .float hkind hbounds

/-- What the field of a kind expects is what it collects. -/
theorem Content.Keeps.proper {kind : FieldKind} (hkind : f.kind? = some kind)
    (h : (Content.ofKind f kind).Keeps f.required w) : f.Proper w := by
  have hname := kind?_eq_some_iff.mp hkind
  simp only [FieldKind.words, List.mem_cons, Prod.mk.injEq, List.not_mem_nil, or_false] at hname
  rcases hname with ⟨hname, rfl⟩ | ⟨hname, rfl⟩ | ⟨hname, rfl⟩ | ⟨hname, rfl⟩ | ⟨hname, rfl⟩ |
    ⟨hname, rfl⟩
  · cases h with
    | text hblank hformats =>
      exact .text (Or.inl hname) (isBlankText_eq_false_iff.mp hblank) hformats
  · cases h with
    | number hbounds => exact proper_ofNumber hname hbounds
  · rw [Content.ofKind, isMulti_of_select hname] at h
    cases hmultiple : f.multiple with
    | true =>
      rw [if_pos hmultiple] at h
      cases h with
      | selection hcs hapart hsome =>
        exact .selection (Or.inl ⟨hname, hmultiple⟩) (fun c hc => (hcs c hc).1) hapart hsome
    | false =>
      rw [if_neg (by simp [hmultiple])] at h
      cases h with
      | choice hc _ _ _ => exact .choice hname hmultiple hc
  · cases h with
    | date d => exact .date hname d
    | dateTime t => exact .dateTime hname t
  · rw [Content.ofKind, isCheckboxGroup_of_checkbox hname] at h
    by_cases hgroup : 1 < f.choices.length
    · rw [if_pos (by simpa using hgroup)] at h
      cases h with
      | selection hcs hapart hsome =>
        exact .selection (Or.inr ⟨hname, hgroup⟩) (fun c hc => (hcs c hc).1) hapart hsome
    · rw [if_neg (by simpa using hgroup)] at h
      cases h with
      | flag b => exact .flag hname (Nat.le_of_not_lt hgroup) b
  · cases h with
    | text hblank hformats =>
      exact .text (Or.inr hname) (isBlankText_eq_false_iff.mp hblank) hformats

/-! ## The mark for no value -/

theorem noJson?_missing (levels : Nat) : Value.noJson? levels .missing ≠ none := by
  rw [Value.noJson?]
  split <;> simp

/-- A form with a name by its content does not have the mark for no value as a default value. -/
theorem fallback_ne_missing (hbuild : Validator.build form none = .ok v) (hf : f ∈ form.fields) :
    f.fallback ≠ some .missing := by
  intro hmark
  have hjson := noJson?_of_build hbuild
  rw [Form.noJson?, Option.or_eq_none_iff, List.findSome?_eq_none_iff] at hjson
  have hfield := hjson.1 f hf
  rw [Field.noJson?, hmark] at hfield
  simp only [Option.or_eq_none_iff, Option.bind_some] at hfield
  exact noJson?_missing _ hfield.2.2

/-! ## Accepted data -/

section Accepted

variable (hcheck : form.check = .ok ())
  (hbuild : Validator.build form hash = .ok v)
  (h : v.validate locale today (.object entries) = .ok (.accepted data))

include hcheck hbuild h

/-- What is accepted has values for fields only, and each is proper unless it is a default value. -/
theorem exists_field_of_accepted {k : String} (hmem : (k, w) ∈ data) :
    ∃ f ∈ form.fields, f.name = k ∧
      (f.fallback = none ∨ Item.Entered (entries.lookup k) → f.Proper w) := by
  obtain ⟨findings, hfinds, houtcome⟩ := Validator.validate_eq_ok_iff.mp h
  obtain ⟨-, rfl⟩ := Validator.outcome_eq_accepted_iff.mp houtcome
  obtain ⟨item, hitem, hkey, haccept⟩ :=
    hfinds.exists_of_mem_kept (nodup_keys hcheck hbuild) hmem
  obtain ⟨kind, hkind, hcontent⟩ := content_of_item hbuild hitem
  refine ⟨item.field, field_mem_of_item hbuild hitem, hkey, fun hown => ?_⟩
  have hkeeps := (Item.makes_of_accept haccept).keeps rfl hown
  rw [hcontent] at hkeeps
  exact hkeeps.proper hkind

/-- What is accepted has a value for every field that is required. -/
theorem mem_keys_of_required (hf : f ∈ form.fields) (hrequired : f.required = true)
    (hmark : f.fallback ≠ some .missing) : f.name ∈ data.map Prod.fst := by
  obtain ⟨findings, hfinds, houtcome⟩ := Validator.validate_eq_ok_iff.mp h
  obtain ⟨haccepted, rfl⟩ := Validator.outcome_eq_accepted_iff.mp houtcome
  obtain ⟨item, hitem, rfl⟩ := exists_item hbuild hf
  obtain ⟨r, hr⟩ := hfinds.exists_finding hitem
  obtain ⟨o, rfl⟩ : ∃ o, r = .ok o := by
    cases r with
    | ok o => exact ⟨o, rfl⟩
    | error e => exact absurd (haccepted _ hr) nofun
  have hmakes := Item.makes_of_accept (hfinds.accept _ hr)
  obtain ⟨w, rfl⟩ := hmakes.exists_of_required rfl hrequired hmark
  exact mem_keys_of_lookup (hfinds.lookup_kept (nodup_keys hcheck hbuild) hr)

end Accepted

/-- What is accepted has values for fields only and for every field that is required, and each of
them is proper unless it is a default value. A required field may be left out where the mark for no
value is its default value; a form with such a field has no name by its content. -/
theorem accepted_sound (hcheck : form.check = .ok ()) (hbuild : Validator.build form hash = .ok v)
    (h : v.validate locale today (.object entries) = .ok (.accepted data)) :
    (∀ k ∈ data.map Prod.fst, k ∈ form.fields.map Field.name) ∧
    (∀ f ∈ form.fields, f.required = true → hash = none ∨ f.fallback ≠ some .missing →
      f.name ∈ data.map Prod.fst) ∧
    ∀ f ∈ form.fields, f.fallback = none ∨ Item.Entered (entries.lookup f.name) →
      ∀ w, (f.name, w) ∈ data → f.Proper w := by
  refine ⟨?_, ?_, ?_⟩
  · intro k hk
    obtain ⟨⟨k', w⟩, hmem, rfl⟩ := List.mem_map.mp hk
    obtain ⟨f, hf, rfl, -⟩ := exists_field_of_accepted hcheck hbuild h hmem
    exact List.mem_map_of_mem hf
  · intro f hf hrequired hmark
    refine mem_keys_of_required hcheck hbuild h hf hrequired ?_
    rcases hmark with rfl | hmark
    · exact fallback_ne_missing hbuild hf
    · exact hmark
  · intro f hf hown w hmem
    obtain ⟨g, hg, hname, hproper⟩ := exists_field_of_accepted hcheck hbuild h hmem
    -- The names are different, so there is no other field that the value can be of.
    obtain rfl : g = f := List.inj_on_of_nodup_map (nodup_names hcheck) hg hf hname
    exact hproper hown

/-- What is kept of the survey is proper. -/
theorem accepted_sound_survey :
    survey.check = .ok () ∧
    (∃ v, Validator.build survey none = .ok v ∧
      v.validate .english ⟨2024, 1, 31, by decide⟩ (.object surveyEntries) =
        .ok (.accepted surveyData)) ∧
    ∀ f ∈ survey.fields, ∀ w, (f.name, w) ∈ surveyData → f.Proper w := by
  obtain ⟨hash, hbuild⟩ := build_survey
  have h := validate_survey hash .english ⟨2024, 1, 31, by decide⟩
  refine ⟨check_survey, ⟨_, hbuild, h⟩, fun f hf => ?_⟩
  exact (accepted_sound check_survey hbuild h).2.2 f hf (Or.inl (fallback_survey f hf))

/-- A form with a required text whose default value is the mark for no value. -/
def markedForm : Form :=
  ⟨"1", [⟨"a", "x", "text", "X", true, none, none, none, some .missing, false⟩]⟩

/-- Under a given name the form accepts a submission without the text, and keeps none. -/
theorem required_left_out :
    markedForm.check = .ok () ∧
    ∃ v, Validator.build markedForm (some "h") = .ok v ∧
      v.validate .english ⟨2024, 1, 31, by decide⟩ (.object []) = .ok (.accepted []) ∧
      ∃ f ∈ markedForm.fields, f.required = true ∧
        f.name ∉ ([] : List (String × Value)).map Prod.fst := by
  have hcheck : markedForm.check = .ok () := by cbv
  have hitems : markedForm.fields.mapM Item.ofField =
      .ok (markedForm.fields.map fun f => ⟨f, .text []⟩) := by cbv
  have hbuild : Validator.build markedForm (some "h") =
      .ok ⟨"h", markedForm.fields.map fun f => ⟨f, .text []⟩⟩ := by
    rw [Validator.build, Validator.named, hitems]
    rfl
  refine ⟨hcheck, _, hbuild, rfl, _, List.mem_singleton.mpr rfl, rfl, ?_⟩
  exact List.not_mem_nil

end Formwork
