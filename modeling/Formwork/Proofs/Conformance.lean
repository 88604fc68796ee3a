import Formwork.Proofs.Levels
import Formwork.Proofs.SchemaSemantics
import Formwork.Proofs.Soundness

/-!
# Accepted data and the exported schema

The schema of a form tells field by field what is kept, by a dispatch of its own on the kinds of
fields. Every keyword of a field allows the JSON form of a value that is proper for the field, so
that data which a form accepts meets the schema that is exported of it, the strict one too, if it has
a JSON form at all: what is kept of a selection is a level above the choices, and with that it may
have too many levels (`accepted_conforms`).
-/

namespace Formwork

variable {form : Form} {f : Field} {kind : FieldKind} {v : Validator} {w : Value}
variable {hash title : Option String} {locale : Locale} {today : Date}
variable {entries data : List (String × Value)}

/-! ## Schemas of forms -/

theorem property_eq_ok_iff {p : String × List Keyword} :
    f.property = .ok p ↔ ∃ kind, f.kind? = some kind ∧ p = (f.name, f.keywords kind) := by
  rw [Field.property, Field.knownKind]
  cases f.kind? with
  | none => simp [Except.map]
  | some kind => simp [Except.map, eq_comm]

/-- The schema of a form has the keywords of each field under its name. -/
structure JsonSchema.Describes (s : JsonSchema) (form : Form) : Prop where
  keys : s.properties.map Prod.fst = form.fields.map Field.name
  properties : ∀ p ∈ s.properties, ∃ f ∈ form.fields, ∃ kind,
    f.kind? = some kind ∧ p = (f.name, f.keywords kind)
  required : s.required = (form.fields.filter (·.required)).map Field.name

/-- A form whose fields have different names and known kinds has a schema. -/
theorem exists_jsonSchema (hnames : (form.fields.map Field.name).Nodup)
    (hkinds : ∀ f ∈ form.fields, ∃ kind, f.kind? = some kind) (title : Option String)
    (strict : Bool) :
    ∃ s, form.jsonSchema title strict = .ok s ∧ s.Describes form ∧ s.isOpen = !strict := by
  obtain ⟨ps, hps⟩ : ∃ ps, form.fields.mapM Field.property = .ok ps := by
    refine exists_mapM_eq_ok_iff.mpr fun f hf => ?_
    obtain ⟨kind, hkind⟩ := hkinds f hf
    exact ⟨_, property_eq_ok_iff.mpr ⟨kind, hkind, rfl⟩⟩
  have hkeys : ps.map Prod.fst = form.fields.map Field.name := by
    refine map_mapM (fun f p hp => ?_) hps
    obtain ⟨kind, -, rfl⟩ := property_eq_ok_iff.mp hp
    rfl
  have hput : ps.foldl (fun ps p => putEntry ps p.1 p.2) [] = ps := by
    have hnodup : ((([] : List (String × List Keyword)) ++ ps).map Prod.fst).Nodup := by
      rw [List.nil_append, hkeys]
      exact hnames
    exact foldl_putEntry hnodup
  unfold Form.jsonSchema
  rw [hps, Except.map]
  refine ⟨_, rfl, ⟨(congrArg (List.map Prod.fst) hput).trans hkeys, fun p hp => ?_, rfl⟩, rfl⟩
  have hmem : p ∈ ps.foldl (fun ps p => putEntry ps p.1 p.2) [] := hp
  rw [hput] at hmem
  obtain ⟨f, hf, hfp⟩ := exists_of_mem_mapM hps hmem
  obtain ⟨kind, hkind, rfl⟩ := property_eq_ok_iff.mp hfp
  exact ⟨f, hf, kind, hkind, rfl⟩

/-! ## Fields -/

/-- Neither a text, a number nor a date collects a list. -/
theorem isMulti_of_other (hselect : f.kindName ≠ "select") (hcheckbox : f.kindName ≠ "checkbox") :
    f.isMulti = false := by
  simp [Field.isMulti, Field.isCheckboxGroup, hselect, hcheckbox]

theorem isMulti_of_checkbox (h : f.kindName = "checkbox") :
    f.isMulti = decide (1 < f.choices.length) := by
  rw [Field.isMulti, if_neg (by simp [h]), isCheckboxGroup_of_checkbox h]

theorem kind_eq {name : String} {kind' : FieldKind} (hname : f.kindName = name)
    (hkind : f.kind? = some kind) (hword : FieldKind.ofName? name = some kind') : kind = kind' := by
  rw [Field.kind?, hname, hword] at hkind
  exact (Option.some.inj hkind).symm

theorem valueKeywords_number (hname : f.kindName = "number") (hkind : f.kind? = some kind) :
    f.valueKeywords kind = [.type "number"] := by
  obtain rfl := kind_eq hname hkind rfl
  unfold Field.valueKeywords
  rw [if_neg (by simp [isMulti_of_other, hname])]

theorem valueKeywords_date (hname : f.kindName = "date") (hkind : f.kind? = some kind) :
    f.valueKeywords kind = [.type "string", .format "date-time"] := by
  obtain rfl := kind_eq hname hkind rfl
  unfold Field.valueKeywords
  rw [if_neg (by simp [isMulti_of_other, hname])]

theorem valueKeywords_choice (hname : f.kindName = "select") (hsingle : f.multiple = false)
    (hkind : f.kind? = some kind) : f.valueKeywords kind = [.choices f.choices] := by
  obtain rfl := kind_eq hname hkind rfl
  unfold Field.valueKeywords
  rw [if_neg (by simp [isMulti_of_select hname, hsingle])]

theorem valueKeywords_flag (hname : f.kindName = "checkbox") (hsingle : f.choices.length ≤ 1)
    (hkind : f.kind? = some kind) : f.valueKeywords kind = [.type "boolean"] := by
  obtain rfl := kind_eq hname hkind rfl
  unfold Field.valueKeywords
  rw [if_neg (by simp [isMulti_of_checkbox hname, hsingle])]

theorem formatKeywords_allow (formats : List TextFormat) (v : Value) :
    ∀ k ∈ formatKeywords formats, k.Allows v := by
  rw [formatKeywords]
  split_ifs <;> simp [Keyword.Allows]

theorem exampleKeywords_allow (placeholder : Option String) (v : Value) :
    ∀ k ∈ exampleKeywords placeholder, k.Allows v := by
  cases placeholder with
  | none => simp [exampleKeywords]
  | some s =>
    rw [exampleKeywords]
    split <;> simp [Keyword.Allows]

/-- The keywords of a text field allow a text with a character that is not blank. -/
theorem textKeywords_allow {s : String} (hmulti : f.isMulti = false)
    (hkind : kind = .text ∨ kind = .textarea) (hblank : ∃ c ∈ s.toList, Text.isBlank c = false) :
    ∀ k ∈ f.valueKeywords kind, k.Allows (.text s) := by
  have hlength : 1 ≤ s.length := by
    obtain ⟨c, hc, -⟩ := hblank
    rw [← String.length_toList]
    exact List.length_pos_of_mem hc
  have hkeywords : f.valueKeywords kind =
      [.type "string"] ++ (if f.required then [.minLength 1] else []) ++ formatKeywords f.formats
        ++ exampleKeywords f.placeholder := by
    unfold Field.valueKeywords
    rw [if_neg (by simp [hmulti])]
    rcases hkind with rfl | rfl <;> rfl
  rw [hkeywords]
  simp only [List.forall_mem_append]
  refine ⟨⟨⟨?_, ?_⟩, formatKeywords_allow _ _⟩, exampleKeywords_allow _ _⟩
  · simp [Keyword.Allows, Value.typeNames]
  · split
    · simpa [Keyword.Allows] using hlength
    · simp

/-- The keywords of a field that collects a list allow a list of different choices. -/
theorem multiKeywords_allow {cs : List Value} (hmulti : f.isMulti = true)
    (hjson : ∀ c ∈ f.choices, c.IsJson) (hcs : ∀ c ∈ cs, c ∈ f.choices)
    (hapart : cs.Pairwise Apart) (hsome : f.required = true → cs ≠ []) :
    ∀ k ∈ f.valueKeywords kind, k.Allows (.list cs) := by
  unfold Field.valueKeywords
  rw [if_pos hmulti]
  have hmembers : Keyword.Allows (.list cs) (.members f.choices) := by
    rintro _ ⟨⟩ c hc
    exact ⟨c, hcs c hc, (hjson c (hcs c hc)).jsonEq_self⟩
  have hunique : Keyword.Allows (.list cs) .uniqueMembers := by
    rintro _ ⟨⟩
    refine hapart.imp fun {c d} hcd => ?_
    by_contra hequal
    rw [Apart, Value.strictEq_of_jsonEq (by simpa using hequal)] at hcd
    cases hcd
  have hleast : f.required = true → Keyword.Allows (.list cs) (.minMembers 1) := by
    rintro hrequired _ ⟨⟩
    exact List.length_pos_iff.mpr (hsome hrequired)
  simp only [List.forall_mem_append, List.forall_mem_cons]
  refine ⟨⟨?_, hmembers, hunique, List.forall_mem_nil _⟩, ?_⟩
  · simp [Keyword.Allows, Value.typeNames]
  · split
    · rename_i hrequired
      simpa using hleast hrequired
    · simp

/-- The keywords of a field allow the JSON form of a proper value. -/
theorem Field.Proper.allowed (h : f.Proper w) (hkind : f.kind? = some kind)
    (hjson : ∀ c ∈ f.choices, c.IsJson) :
    ∀ k ∈ f.valueKeywords kind, k.Allows w.toJson := by
  cases h with
  | text hname hblank _ =>
    have hmulti : f.isMulti = false := by
      rcases hname with hname | hname <;> exact isMulti_of_other (by simp [hname]) (by simp [hname])
    refine textKeywords_allow hmulti ?_ hblank
    rcases hname with hname | hname
    · exact Or.inl (kind_eq hname hkind rfl)
    · exact Or.inr (kind_eq hname hkind rfl)
  | int hname _ =>
    rw [valueKeywords_number hname hkind]
    simp [Value.toJson, Keyword.Allows, Value.typeNames]
  | @float x hname _ =>
    rw [valueKeywords_number hname hkind]
    cases hwhole : x.whole?.isSome <;> simp [Value.toJson, Keyword.Allows, Value.typeNames, hwhole]
  | date hname d | dateTime hname t =>
    rw [valueKeywords_date hname hkind]
    simp [Value.toJson, Keyword.Allows, Value.typeNames]
  | choice hname hsingle hc =>
    rw [valueKeywords_choice hname hsingle hkind, (hjson w hc).toJson_eq]
    simp only [List.forall_mem_singleton]
    exact ⟨w, hc, (hjson w hc).jsonEq_self⟩
  | @selection cs hname hcs hapart hsome =>
    have hmulti : f.isMulti = true := by
      rcases hname with ⟨hname, hmultiple⟩ | ⟨hname, hlength⟩
      · rw [isMulti_of_select hname, hmultiple]
      · rw [isMulti_of_checkbox hname, decide_eq_true hlength]
    have hself : (Value.list cs).toJson = .list cs :=
      (Value.IsJson.list fun c hc => hjson c (hcs c hc)).toJson_eq
    rw [hself]
    exact multiKeywords_allow hmulti hjson hcs hapart hsome
  | flag hname hsingle b =>
    rw [valueKeywords_flag hname hsingle hkind]
    simp [Value.toJson, Keyword.Allows, Value.typeNames]

/-! ## Data -/

/-- A value that is proper has a JSON form unless it has too many levels, or is a time with an offset
too far. -/
theorem Field.Proper.hasJson_iff (h : f.Proper w) (hjson : ∀ c ∈ f.choices, c.IsJson)
    (htext : w.hasText = true) : w.HasJson ↔ w.levels ≤ Value.mostLevels := by
  have hone : 1 ≤ Value.mostLevels := by decide
  cases h with
  | text _ _ _ => exact (Value.IsJson.text _).noJson?_eq_none_iff
  | int _ _ => exact (Value.IsJson.int _).noJson?_eq_none_iff
  | float _ _ => exact (Value.IsJson.float _).noJson?_eq_none_iff
  | date _ d => exact iff_of_true rfl hone
  | dateTime _ t =>
    have hnone : (Value.dateTime t).noJson? Value.mostLevels =
        if t.hasShortText then none else some .tooFar := rfl
    refine iff_of_true ?_ hone
    rw [Value.HasJson, hnone, if_pos (Value.hasShortText_of_hasText htext)]
  | choice _ _ hc => exact (hjson _ hc).noJson?_eq_none_iff
  | selection _ hcs _ _ =>
    exact (Value.IsJson.list fun c hc => hjson c (hcs c hc)).noJson?_eq_none_iff
  | flag _ _ b => exact (Value.IsJson.bool b).noJson?_eq_none_iff

theorem keys_toJsonEntries (es : List (String × Value)) :
    (Value.toJsonEntries es).map Prod.fst = es.map Prod.fst := by
  rw [Value.toJsonEntries_eq_map, List.map_map]
  rfl

theorem mem_of_lookup_toJsonEntries {es : List (String × Value)} {k : String} {x : Value}
    (h : (Value.toJsonEntries es).lookup k = some x) : ∃ w, (k, w) ∈ es ∧ w.toJson = x := by
  have hmem := mem_of_lookup h
  rw [Value.toJsonEntries_eq_map] at hmem
  obtain ⟨⟨k', w⟩, he, hew⟩ := List.mem_map.mp hmem
  injection hew with hk hx
  exact ⟨w, hk ▸ he, hx⟩

/-- Data with the required values of a form, in which every value is proper for a field, has a JSON
form that meets the strict schema. -/
theorem meets_of_proper {s : JsonSchema} (hnames : (form.fields.map Field.name).Nodup)
    (hs : s.Describes form) (hfallback : ∀ f ∈ form.fields, f.fallback = none)
    (hjson : ∀ f ∈ form.fields, ∀ c ∈ f.choices, c.IsJson)
    (hproper : ∀ k w, (k, w) ∈ data → ∃ f ∈ form.fields, f.name = k ∧ f.Proper w)
    (hrequired : ∀ f ∈ form.fields, f.required = true → f.name ∈ data.map Prod.fst) :
    s.toValue.meets (Value.object data).toJson = true := by
  rw [Value.toJson]
  refine JsonSchema.meets_toValue (Or.inr ?_) ?_ ?_
  · intro k hk
    rw [keys_toJsonEntries] at hk
    obtain ⟨⟨k, w⟩, he, rfl⟩ := List.mem_map.mp hk
    obtain ⟨f, hf, hname, -⟩ := hproper k w he
    rw [hs.keys, ← hname]
    exact List.mem_map_of_mem hf
  · intro p hp x hx
    obtain ⟨f, hf, kind, hkind, rfl⟩ := hs.properties p hp
    obtain ⟨w, he, rfl⟩ := mem_of_lookup_toJsonEntries hx
    obtain ⟨g, hg, hname, hproper⟩ := hproper f.name w he
    -- The names are different, so there is no other field that the value can be of.
    obtain rfl : g = f := List.inj_on_of_nodup_map hnames hg hf hname
    have hallows := hproper.allowed hkind (hjson g hg)
    simpa [Field.keywords, hfallback g hg, Keyword.Allows] using hallows
  · intro k hk
    rw [hs.required] at hk
    obtain ⟨f, hf, rfl⟩ := List.mem_map.mp hk
    obtain ⟨hf, hf'⟩ := List.mem_filter.mp hf
    rw [keys_toJsonEntries]
    exact hrequired f hf hf'

/-- Data that a form without default values accepts has a JSON form, and that meets the strict schema
of the form, exactly if no value has more levels than a document. Every choice is a JSON value and no
offset is of a day or more. -/
theorem accepted_conforms (hcheck : form.check = .ok ())
    (hbuild : Validator.build form hash = .ok v) (hfallback : ∀ f ∈ form.fields, f.fallback = none)
    (hjson : ∀ f ∈ form.fields, ∀ c ∈ f.choices, c.IsJson)
    (h : v.validate locale today (.object entries) = .ok (.accepted data))
    (htext : (Value.object data).hasText = true) (title : Option String) :
    ((∀ e ∈ data, e.2.HasJson) ∧
      ∃ s, form.jsonSchema title true = .ok s ∧
        s.toValue.meets (Value.object data).toJson = true) ↔
      ∀ e ∈ data, e.2.levels ≤ Value.mostLevels := by
  have hnames := nodup_names hcheck
  have hproper : ∀ k w, (k, w) ∈ data → ∃ f ∈ form.fields, f.name = k ∧ f.Proper w := by
    intro k w he
    obtain ⟨f, hf, hname, hproper⟩ := exists_field_of_accepted hcheck hbuild h he
    exact ⟨f, hf, hname, hproper (Or.inl (hfallback f hf))⟩
  have hrequired : ∀ f ∈ form.fields, f.required = true → f.name ∈ data.map Prod.fst := by
    intro f hf hf'
    exact mem_keys_of_required hcheck hbuild h hf hf' (by simp [hfallback f hf])
  obtain ⟨s, hs, hdescribes, -⟩ :=
    exists_jsonSchema hnames (fun f hf => exists_kind hbuild hf) title true
  have hmeets := meets_of_proper hnames hdescribes hfallback hjson hproper hrequired
  rw [and_iff_left ⟨s, hs, hmeets⟩]
  refine forall₂_congr fun ⟨k, w⟩ he => ?_
  obtain ⟨f, hf, -, hproper⟩ := hproper k w he
  exact hproper.hasJson_iff (hjson f hf) (Value.hasText_object_iff.mp htext _ he)

/-- What is kept of the survey meets its schema. -/
theorem accepted_conforms_survey :
    survey.check = .ok () ∧ (∀ e ∈ surveyData, e.2.HasJson) ∧
    ∃ s, survey.jsonSchema none true = .ok s ∧
      s.toValue.meets (Value.object surveyData).toJson = true := by
  obtain ⟨hash, hbuild⟩ := build_survey
  have hjson : ∀ f ∈ survey.fields, ∀ c ∈ f.choices, c.IsJson := by
    have htext : ∀ f ∈ survey.fields, ∀ c ∈ f.choices, ∃ s, c = .text s := by
      simp [survey, Field.choices]
    intro f hf c hc
    obtain ⟨s, rfl⟩ := htext f hf c hc
    exact .text s
  have h := validate_survey hash .english ⟨2024, 1, 31, by decide⟩
  have hlevels : ∀ e ∈ surveyData, e.2.levels ≤ Value.mostLevels := by decide
  exact ⟨check_survey,
    (accepted_conforms check_survey hbuild fallback_survey hjson h rfl none).mpr hlevels⟩

/-! ## A choice of many levels -/

/-- A select of several choices. -/
def severalField (cs : List Choice) : Field :=
  ⟨"c", "colors", "select", "Colors", false, none, some cs, none, none, true⟩

theorem check_several (c : Choice) : Form.check ⟨"1", [severalField [c]]⟩ = .ok () := by cbv

/-- What equals itself can be selected alone. -/
theorem validate_several {c : Value} (hequal : c.strictEq c = true) (hkeys : c.DistinctKeys)
    (label name : String) (locale : Locale) (today : Date) :
    Validator.validate ⟨name, [⟨severalField [⟨label, c⟩], .selection [c]⟩]⟩ locale today
      (.object [("colors", .list [c])]) = .ok (.accepted [("colors", .list [c])]) := by
  have hkeeps : (Content.selection [c]).Keeps false (.list [c]) :=
    .selection (List.forall_mem_singleton.mpr ⟨.head _, (Value.strictEq_iff.mp hequal).2.1⟩)
      (List.pairwise_singleton _ _) nofun
  have haccept := @Item.accept_of_keeps today _ ⟨severalField [⟨label, c⟩], .selection [c]⟩ hkeeps
    (List.pairwise_singleton _ _) (List.forall_mem_singleton.mpr hkeys)
  refine Validator.validate_eq_ok_iff.mpr ⟨[(_, .ok (some (.list [c])))], ⟨rfl, ?_, ?_⟩, rfl⟩
  · exact List.forall_mem_singleton.mpr haccept
  · exact List.forall_mem_singleton.mpr nofun

/-- The choice is a document of its own, and a list of it is a level too deep. -/
theorem deep_choice_undocumented :
    let form : Form := ⟨"1", [severalField [⟨"Deep", Value.nested 254⟩]]⟩
    let today : Date := ⟨2024, 1, 31, by decide⟩
    let data := [("colors", Value.list [Value.nested 254])]
    form.check = .ok () ∧ (∀ f ∈ form.fields, f.fallback = none) ∧
      (∀ f ∈ form.fields, ∀ c ∈ f.choices, c.IsJson) ∧
      ∃ v, Validator.build form none = .ok v ∧
        v.validate .english today (.object data) = .ok (.accepted data) ∧
        (Value.object data).hasText = true ∧ ¬ ∀ e ∈ data, e.2.HasJson := by
  intro form today data
  have hjson : (Value.nested 254).IsJson := Value.isJson_nested 254
  have hchoices : ∀ f ∈ form.fields, ∀ c ∈ f.choices, c.IsJson :=
    List.forall_mem_singleton.mpr (List.forall_mem_singleton.mpr hjson)
  have hnone : form.noJson? = none := by
    have hvalues : ∀ w ∈ form.values, w.IsJson := List.forall_mem_singleton.mpr hjson
    refine (Form.noJson?_eq_none_iff_levels hvalues).mpr ⟨?_, ?_⟩
    · have hlevels : (Value.nested 254).levels ≤ Value.mostLevels := by
        rw [Value.levels_nested]
        decide
      refine Form.levels_le_iff.mpr (List.forall_mem_singleton.mpr (Field.levels_le_iff.mpr ?_))
      exact ⟨List.forall_mem_singleton.mpr hlevels, nofun, nofun⟩
    · exact List.forall_mem_singleton.mpr (Value.short_nested 254)
  obtain ⟨name, hbuild⟩ := @exists_build_of_items form _ rfl hnone
  refine ⟨check_several _, List.forall_mem_singleton.mpr rfl, hchoices, _, hbuild, ?_, ?_, ?_⟩
  · exact validate_several (Value.strictEq_of_jsonEq hjson.jsonEq_self) hjson.distinctKeys ..
  · refine Value.hasText_object_iff.mpr (List.forall_mem_singleton.mpr ?_)
    exact (Value.isJson_nested 255).hasText
  · intro h
    have hlevels := ((Value.isJson_nested 255).noJson?_eq_none_iff).mp (h _ (.head _))
    rw [Value.levels_nested] at hlevels
    exact absurd hlevels (by decide)

end Formwork
