import Formwork.Proofs.AcceptedForms
import Formwork.Proofs.Choosing

/-!
# Keys that are required

The schema of a form lists the names of the fields that are required. A validator asks for a value
of a required field too, but not where the field has a default value, which stands in for one that
is left out. `required_agrees_iff`: about a submission without a field the two agree exactly if the
field is not required, or has no default value and the submission can be told.
`default_listed_as_required` is a field about which they do not.
-/

namespace Formwork

open Validator (violation?)

variable {form : Form} {f : Field} {hash : Option String} {v : Validator} {item : Item}
variable {locale : Locale} {today : Date} {entries : List (String × Value)} {o : Outcome}

/-! ## The keys of a schema -/

/-- The document of a schema lists a name under the word for the keys that are required. -/
def JsonSchema.Lists (s : JsonSchema) (name : String) : Prop :=
  ∃ es names, s.toValue = .object es ∧ es.lookup "required" = some (.list names) ∧
    .text name ∈ names

theorem JsonSchema.lists_iff {s : JsonSchema} {name : String} :
    s.Lists name ↔ name ∈ s.required := by
  unfold Lists toValue
  cases hrequired : s.required with
  | nil => simp [List.lookup]
  | cons n ns => simp [List.lookup]

/-- A schema lists the name of a field exactly if the field is required. -/
theorem JsonSchema.Describes.lists_iff {s : JsonSchema} (h : s.Describes form)
    (hnames : (form.fields.map Field.name).Nodup) (hf : f ∈ form.fields) :
    s.Lists f.name ↔ f.required = true := by
  rw [JsonSchema.lists_iff, h.required]
  constructor
  · intro hmem
    obtain ⟨g, hg, hname⟩ := List.mem_map.mp hmem
    obtain ⟨hg, hrequired⟩ := List.mem_filter.mp hg
    obtain rfl : g = f := List.inj_on_of_nodup_map hnames hg hf hname
    exact hrequired
  · intro hrequired
    exact List.mem_map_of_mem (List.mem_filter.mpr ⟨hf, hrequired⟩)

/-! ## Fields that are left out -/

/-- A validator answers a submission with the complaint that a field is required. -/
def Validator.AsksFor (v : Validator) (locale : Locale) (today : Date)
    (entries : List (String × Value)) (name : String) : Prop :=
  ∃ o, v.validate locale today (.object entries) = .ok o ∧ o.codes.lookup name = some "required"

/-- What an item makes of a submission without it: its default value, or else nothing. -/
theorem exists_accept_none (today : Date) (item : Item) :
    ∃ r, item.accept today none = .ok r ∧
      ((violation? (item, r)).map (·.reason.code) = some "required" ↔
        item.field.required = true ∧ item.field.fallback = none) := by
  have hjudge := @Item.judge_of_absent today item none rfl
  cases hfallback : item.field.fallback with
  | some w =>
    rw [hfallback] at hjudge
    cases w <;> exact ⟨_, Item.accept_of_judge hjudge (by simp), by simp [violation?]⟩
  | none =>
    rw [hfallback] at hjudge
    refine ⟨_, Item.accept_of_judge hjudge fun choices => ?_, ?_⟩ <;> rw [Item.acceptNothing] <;>
      cases item.field.required <;> simp [violation?, Violation.reason, Reason.code]

/-- A field that is left out is asked for exactly if it is required and has no default value, in a
submission that can be told. -/
theorem asksFor_iff (hcheck : form.check = .ok ()) (hbuild : Validator.build form hash = .ok v)
    (hf : f ∈ form.fields) (hentry : entries.lookup f.name = none) :
    v.AsksFor locale today entries f.name ↔
      (f.required = true ∧ f.fallback = none) ∧ v.Tells today (.object entries) := by
  obtain ⟨item, hitem, rfl⟩ := exists_item hbuild hf
  obtain ⟨r, hr, hcode⟩ := exists_accept_none today item
  have haccept : item.accept today (entries.lookup item.key) = .ok r := by
    rw [← hr]
    exact congrArg _ hentry
  have hanswer : ∀ o, v.validate locale today (.object entries) = .ok o →
      (o.codes.lookup item.field.name = some "required" ↔
        item.field.required = true ∧ item.field.fallback = none) := by
    intro o ho
    rw [← hcode, ← (Validator.lookup_of_accept (nodup_keys hcheck hbuild) hitem haccept ho).1]
    rfl
  rw [← @Validator.exists_answer_iff_tells v locale]
  constructor
  · rintro ⟨o, ho, hrequired⟩
    exact ⟨(hanswer o ho).mp hrequired, o, ho⟩
  · rintro ⟨hrequired, o, ho⟩
    exact ⟨o, ho, (hanswer o ho).mpr hrequired⟩

/-- A form that passes its check has a schema, which lists a field exactly if every validator of the
form asks for it in every submission without it; except that a required field with a default value
is listed and never asked for, and that a submission may be impossible to tell. -/
theorem required_agrees_iff (hcheck : form.check = .ok ()) (hf : f ∈ form.fields)
    (title : Option String) (strict : Bool) :
    ∃ s, form.jsonSchema title strict = .ok s ∧
      ∀ hash v, Validator.build form hash = .ok v →
        ∀ locale today entries, entries.lookup f.name = none →
          ((s.Lists f.name ↔ v.AsksFor locale today entries f.name) ↔
            (f.required = true → f.fallback = none ∧ v.Tells today (.object entries))) := by
  obtain ⟨s, hs, hdescribes, -⟩ := exists_jsonSchema (nodup_names hcheck)
    (fun f hf => exists_kind_of_check hcheck hf) title strict
  refine ⟨s, hs, fun hash v hbuild locale today entries hentry => ?_⟩
  rw [hdescribes.lists_iff (nodup_names hcheck) hf, asksFor_iff hcheck hbuild hf hentry]
  tauto

/-- About the email address of the survey the two agree: it is listed, and asked for. -/
theorem required_agrees_survey :
    survey.check = .ok () ∧
    ∃ f ∈ survey.fields, f.name = "email" ∧ f.required = true ∧
      ∃ s, survey.jsonSchema none false = .ok s ∧
        ∃ v, Validator.build survey none = .ok v ∧
          v.Tells ⟨2024, 1, 31, by decide⟩ (.object []) ∧
          (s.Lists "email" ↔ v.AsksFor .english ⟨2024, 1, 31, by decide⟩ [] "email") := by
  have hf : survey.fields[0] ∈ survey.fields := List.getElem_mem _
  have hreadable : survey.Readable ⟨2024, 1, 31, by decide⟩ [] := fun _ _ _ _ hs => by cases hs
  obtain ⟨hash, hbuild⟩ := build_survey
  have htells := (Validator.tells_iff_readable hbuild (Validator.offersShort_of_build hbuild)).mpr
    hreadable
  obtain ⟨s, hs, hagrees⟩ := required_agrees_iff check_survey hf none false
  have hiff := (hagrees none _ hbuild .english ⟨2024, 1, 31, by decide⟩ [] rfl).mpr
    fun _ => ⟨rfl, htells⟩
  exact ⟨check_survey, _, hf, rfl, rfl, s, hs, _, hbuild, htells, hiff⟩

/-- A form of a country, which is required and has a default value. -/
def countryForm : Form :=
  ⟨"1", [⟨"c", "country", "text", "Country", true, none, none, none, some (.text "NZ"), false⟩]⟩

/-- The schema lists the country, and the validator takes a submission without it. -/
theorem default_listed_as_required :
    countryForm.check = .ok () ∧
    (∃ s, countryForm.jsonSchema none false = .ok s ∧ s.Lists "country") ∧
    ∃ v, Validator.build countryForm none = .ok v ∧
      v.validate .english ⟨2024, 1, 31, by decide⟩ (.object []) =
        .ok (.accepted [("country", .text "NZ")]) ∧
      ¬ v.AsksFor .english ⟨2024, 1, 31, by decide⟩ [] "country" := by
  have hcheck : countryForm.check = .ok () := by cbv
  have hf : countryForm.fields[0] ∈ countryForm.fields := List.getElem_mem _
  obtain ⟨s, hs, hdescribes, -⟩ := exists_jsonSchema (nodup_names hcheck)
    (fun f hf => exists_kind_of_check hcheck hf) none false
  have hlists : s.Lists "country" := (hdescribes.lists_iff (nodup_names hcheck) hf).mpr rfl
  have hitems : countryForm.fields.mapM Item.ofField =
      .ok (countryForm.fields.map fun f => ⟨f, .text []⟩) := by cbv
  obtain ⟨hash, hbuild⟩ := exists_build_of_items hitems rfl
  refine ⟨hcheck, ⟨s, hs, hlists⟩, _, hbuild, rfl, fun hasks => ?_⟩
  have hfallback := ((asksFor_iff hcheck hbuild hf rfl).mp hasks).1.2
  cases hfallback

end Formwork
