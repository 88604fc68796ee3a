import Formwork.Proofs.Conformance
import Formwork.Proofs.Untold

/-!
# What can be written

A document has a limited number of levels, and a time has a text only where its offset is not too
far. What is kept for a form with a document can be written unless it is `Value.Unwritable`, and the
schema of a form unless some field is `Field.TooDeep`. Neither has an integer that is too long, as
long as the submission has none, and the form.
-/

namespace Formwork

open Value (mostLevels)

variable {form : Form} {f : Field} {v : Validator}

/-! ## Levels -/

theorem Value.noJson?_list_iff {levels : Nat} {cs : List Value} :
    (Value.list cs).noJson? (levels + 1) = none ↔ ∀ c ∈ cs, c.noJson? levels = none := by
  rw [Value.noJson?, if_neg (Nat.succ_ne_zero levels), Nat.add_sub_cancel,
    noJsonAmong?_eq_none_iff]

theorem Value.noJson?_object_iff {levels : Nat} {es : List (String × Value)} :
    (Value.object es).noJson? (levels + 1) = none ↔ ∀ e ∈ es, e.2.noJson? levels = none := by
  rw [Value.noJson?, if_neg (Nat.succ_ne_zero levels), Nat.add_sub_cancel,
    noJsonUnder?_eq_none_iff]

theorem Value.noJson?_dateTime_iff {levels : Nat} {t : DateTime} :
    (Value.dateTime t).noJson? (levels + 1) = none ↔ t.hasShortText = true := by
  rw [Value.noJson?, if_neg (Nat.succ_ne_zero levels)]
  split <;> simp_all

/-! ## Numbers that are not finite -/

namespace Value

variable {u : Value} {xs : List Value} {es : List (String × Value)}

/-- A number that is not finite stands in the value, at any depth. -/
def HoldsNonFinite (u : Value) : Prop := ∃ x, u.Holds (.float x) ∧ ∀ y, x ≠ .finite y

theorem hasFiniteFloatsAll_eq_false_iff :
    hasFiniteFloatsAll xs = false ↔ ∃ x ∈ xs, x.hasFiniteFloats = false := by
  induction xs with
  | nil => simp [hasFiniteFloatsAll]
  | cons x xs ih =>
    rw [hasFiniteFloatsAll, Bool.and_eq_false_iff, ih]
    simp

theorem hasFiniteFloatsEntries_eq_false_iff :
    hasFiniteFloatsEntries es = false ↔ ∃ e ∈ es, e.2.hasFiniteFloats = false := by
  induction es with
  | nil => simp [hasFiniteFloatsEntries]
  | cons e es ih =>
    rw [hasFiniteFloatsEntries, Bool.and_eq_false_iff, ih]
    simp

theorem holdsNonFinite_float_iff {x : Binary64} :
    (float x).HoldsNonFinite ↔ ∀ y, x ≠ .finite y := by
  constructor
  · rintro ⟨z, hz, hy⟩
    injection (holds_scalar_iff rfl).mp hz with hz
    exact hz ▸ hy
  · exact fun h => ⟨x, .self _, h⟩

theorem not_holdsNonFinite_of_scalar (h : u.isContainer = false) (hfloat : ∀ x, u ≠ .float x) :
    ¬ u.HoldsNonFinite :=
  fun ⟨x, hx, _⟩ => hfloat x ((holds_scalar_iff h).mp hx).symm

/-- What is tested of a value is that no such number stands in it. -/
theorem hasFiniteFloats_eq_false_iff : u.hasFiniteFloats = false ↔ u.HoldsNonFinite := by
  induction u using nested_induction with
  | ofScalar u hu =>
    cases u
    case float x =>
      rw [holdsNonFinite_float_iff]
      cases x <;> simp [hasFiniteFloats, Binary64.isFinite]
    case list | tuple | set | object => cases hu
    all_goals exact iff_of_false nofun (not_holdsNonFinite_of_scalar rfl fun x hx => by cases hx)
  | ofList xs ih =>
    rw [hasFiniteFloats, hasFiniteFloatsAll_eq_false_iff]
    constructor
    · rintro ⟨x, hx, h⟩
      obtain ⟨y, hy, hnot⟩ := (ih x hx).mp h
      exact ⟨y, .list hx hy, hnot⟩
    · rintro ⟨y, _ | ⟨hx, hy⟩, hnot⟩
      exact ⟨_, hx, (ih _ hx).mpr ⟨y, hy, hnot⟩⟩
  | ofTuple xs ih =>
    rw [hasFiniteFloats, hasFiniteFloatsAll_eq_false_iff]
    constructor
    · rintro ⟨x, hx, h⟩
      obtain ⟨y, hy, hnot⟩ := (ih x hx).mp h
      exact ⟨y, .tuple hx hy, hnot⟩
    · rintro ⟨y, _ | _ | ⟨hx, hy⟩, hnot⟩
      exact ⟨_, hx, (ih _ hx).mpr ⟨y, hy, hnot⟩⟩
  | ofSet xs ih =>
    rw [hasFiniteFloats, hasFiniteFloatsAll_eq_false_iff]
    constructor
    · rintro ⟨x, hx, h⟩
      obtain ⟨y, hy, hnot⟩ := (ih x hx).mp h
      exact ⟨y, .set hx hy, hnot⟩
    · rintro ⟨y, _ | _ | _ | ⟨hx, hy⟩, hnot⟩
      exact ⟨_, hx, (ih _ hx).mpr ⟨y, hy, hnot⟩⟩
  | ofObject es ih =>
    rw [hasFiniteFloats, hasFiniteFloatsEntries_eq_false_iff]
    constructor
    · rintro ⟨e, he, h⟩
      obtain ⟨y, hy, hnot⟩ := (ih e he).mp h
      exact ⟨y, .object he hy, hnot⟩
    · rintro ⟨y, _ | _ | _ | _ | ⟨he, hy⟩, hnot⟩
      exact ⟨_, he, (ih _ he).mpr ⟨y, hy, hnot⟩⟩

end Value

/-! ## Data -/

/-- A time with an offset too far to be written, or a selection of a choice that has as many levels
as a document. -/
def Value.Unwritable (w : Value) : Prop :=
  (∃ t, w = .dateTime t ∧ t.hasShortText = false) ∨
    ∃ cs, w = .list cs ∧ ∃ c ∈ cs, c.noJson? (mostLevels - 1) ≠ none

theorem Value.Unwritable.noJson? {w : Value} (h : w.Unwritable) :
    w.noJson? mostLevels ≠ none := by
  rcases h with ⟨t, rfl, ht⟩ | ⟨cs, rfl, c, hc, hnone⟩
  · exact fun h => by simp [Value.noJson?_dateTime_iff.mp h] at ht
  · exact fun h => hnone (Value.noJson?_list_iff.mp h c hc)

theorem noJson?_of_form (hjson : form.noJson? = none) (hf : f ∈ form.fields) :
    (∀ c ∈ f.choices, c.noJson? mostLevels = none) ∧
      ∀ w, f.fallback = some w → w.noJson? mostLevels = none := by
  have hfield := (Form.noJson?_eq_none_iff.mp hjson).1 f hf
  rw [Field.noJson?, Option.or_eq_none_iff, Option.or_eq_none_iff,
    List.findSome?_eq_none_iff] at hfield
  refine ⟨hfield.1, fun w hw => ?_⟩
  rw [hw] at hfield
  exact hfield.2.2

/-- What is proper for a field of a form with a document can be written, with two exceptions. -/
theorem Field.Proper.written_or {w : Value} (h : f.Proper w)
    (hchoices : ∀ c ∈ f.choices, c.noJson? mostLevels = none) :
    w.noJson? mostLevels = none ∨ w.Unwritable := by
  cases h with
  | text | int | float | date | flag => exact Or.inl rfl
  | dateTime _ t =>
    cases ht : t.hasShortText with
    | true => exact Or.inl (Value.noJson?_dateTime_iff.mpr ht)
    | false => exact Or.inr (Or.inl ⟨t, rfl, ht⟩)
  | choice _ _ hc => exact Or.inl (hchoices _ hc)
  | @selection cs =>
    by_cases hcs : ∀ c ∈ cs, c.noJson? (mostLevels - 1) = none
    · exact Or.inl (Value.noJson?_list_iff.mpr hcs)
    · push Not at hcs
      exact Or.inr (Or.inr ⟨cs, rfl, hcs⟩)

/-- Where nothing is entered the default value is kept. -/
theorem fallback_of_makes {item : Item} {today : Date} {entered : Option Value} {w : Value}
    {r : Except Violation (Option Value)} (h : item.Makes today entered r) (hr : r = .ok (some w))
    (hown : ¬ (item.field.fallback = none ∨ Item.Entered entered)) :
    item.field.fallback = some w := by
  cases h with
  | fallback _ hw _ =>
    cases hr
    exact hw
  | mark _ _ => cases hr
  | absent _ hnone => exact absurd (Or.inl hnone) hown
  | nothing hmark _ => exact absurd (Or.inr ⟨_, rfl, hmark⟩) hown
  | read hmark _ _ => exact absurd (Or.inr ⟨_, rfl, hmark⟩) hown

/-- What a validator of a form with a document keeps can be written, with two exceptions. -/
theorem written_or_of_accepted (hcheck : form.check = .ok ()) (hjson : form.noJson? = none)
    (hbuild : Validator.build form none = .ok v) {locale : Locale} {today : Date}
    {submission : Value} {data : List (String × Value)}
    (h : v.validate locale today submission = .ok (.accepted data)) {e : String × Value}
    (he : e ∈ data) : e.2.noJson? mostLevels = none ∨ e.2.Unwritable := by
  cases submission
  case object entries =>
    obtain ⟨findings, hfinds, houtcome⟩ := Validator.validate_eq_ok_iff.mp h
    obtain ⟨-, rfl⟩ := Validator.outcome_eq_accepted_iff.mp houtcome
    obtain ⟨k, w⟩ := e
    obtain ⟨item, hitem, hkey, haccept⟩ :=
      hfinds.exists_of_mem_kept (nodup_keys hcheck hbuild) he
    obtain ⟨hchoices, hfallback⟩ := noJson?_of_form hjson (field_mem_of_item hbuild hitem)
    obtain ⟨kind, hkind, hcontent⟩ := content_of_item hbuild hitem
    have hmakes := Item.makes_of_accept haccept
    by_cases hown : item.field.fallback = none ∨ Item.Entered (entries.lookup k)
    · have hkeeps := hmakes.keeps rfl hown
      rw [hcontent] at hkeeps
      exact (hkeeps.proper hkind).written_or hchoices
    · exact Or.inl (hfallback w (fallback_of_makes hmakes rfl hown))
  all_goals
    rw [Validator.validate_of_not_object (by simp)] at h
    cases h

/-! ## Data that is short -/

/-- What is read of a short value is short, as long as all choices that are offered are. -/
theorem Content.short_of_read {content : Content} {today : Date} {required : Bool} {u w : Value}
    (h : content.read today required u = .ok (.ok w)) (hu : u.Short)
    (hoffered : ∀ c ∈ content.offered, c.Short) : w.Short := by
  cases content with
  | text formats =>
    obtain ⟨s, -, rfl⟩ := map_eq_ok_iff.mp (Except.ok.inj h)
    exact Value.short_text s
  | number bounds =>
    obtain ⟨n, hn, -, rfl⟩ := Content.readNumber_eq_ok_iff.mp (Except.ok.inj h)
    exact Value.short_of_toNumber? hn hu
  | date =>
    rcases Entry.date_cases h with ⟨d, rfl⟩ | ⟨t, rfl⟩ <;> exact Value.short_of_scalar rfl nofun
  | choice choices => exact hoffered w (Entry.mem_of_choice (Except.ok.inj h)).1
  | selection choices =>
    obtain ⟨cs, hcs, -, rfl⟩ := Content.readSelection_eq_ok_iff.mp (Except.ok.inj h)
    obtain ⟨vs, -, hvs, -⟩ := Entry.selection_eq_ok_iff.mp hcs
    refine Value.short_list_iff.mpr fun c hc => ?_
    obtain ⟨x, -, hx⟩ := exists_of_mem_mapM hvs hc
    exact hoffered c (Entry.mem_of_choice hx).1
  | flag =>
    obtain ⟨b, -, rfl⟩ := map_eq_ok_iff.mp (Except.ok.inj h)
    exact Value.short_bool b

theorem Item.short_of_acceptNothing {item : Item} {w : Value}
    (h : item.acceptNothing = .ok (some w)) : w.Short := by
  obtain ⟨-, habsent⟩ := Item.acceptNothing_eq_ok_iff.mp h
  cases hcontent : item.content
  all_goals
    rw [hcontent] at habsent
    cases habsent
  exact Value.short_bool false

/-- What an item keeps is short if the entry is, and the default value, and all that is offered. -/
theorem Item.Makes.short {item : Item} {today : Date} {entered : Option Value} {w : Value}
    {r : Except Violation (Option Value)} (h : item.Makes today entered r) (hr : r = .ok (some w))
    (hentered : ∀ u, entered = some u → u.Short)
    (hfallback : ∀ u, item.field.fallback = some u → u.Short)
    (hoffered : ∀ c ∈ item.content.offered, c.Short) : w.Short := by
  cases h with
  | fallback _ hw _ =>
    cases hr
    exact hfallback w hw
  | mark _ _ => cases hr
  | absent _ _ => exact Item.short_of_acceptNothing hr
  | nothing _ _ => exact Item.short_of_acceptNothing hr
  | read _ _ hread =>
    obtain ⟨u, rfl, hu⟩ := map_eq_ok_iff.mp hr
    obtain rfl : u = w := Option.some.inj hu
    exact Content.short_of_read hread (hentered _ rfl) hoffered

/-- A validator of a form with a document keeps no integer that is too long of a short submission. -/
theorem short_of_accepted (hcheck : form.check = .ok ())
    (hbuild : Validator.build form none = .ok v) {locale : Locale} {today : Date}
    {submission : Value} {data : List (String × Value)}
    (h : v.validate locale today submission = .ok (.accepted data)) (hshort : submission.Short)
    {e : String × Value} (he : e ∈ data) : e.2.Short := by
  cases submission
  case object entries =>
    obtain ⟨findings, hfinds, houtcome⟩ := Validator.validate_eq_ok_iff.mp h
    obtain ⟨-, rfl⟩ := Validator.outcome_eq_accepted_iff.mp houtcome
    obtain ⟨k, w⟩ := e
    obtain ⟨item, hitem, -, haccept⟩ := hfinds.exists_of_mem_kept (nodup_keys hcheck hbuild) he
    refine (Item.makes_of_accept haccept).short rfl (fun u hu => ?_) (fun u hu => ?_) ?_
    · exact Value.short_object_iff.mp hshort _ (mem_of_lookup hu)
    · refine (Form.noJson?_eq_none_iff.mp (noJson?_of_build hbuild)).2 u ?_
      exact List.mem_flatMap.mpr
        ⟨item.field, field_mem_of_item hbuild hitem, Field.mem_values_of_fallback hu⟩
    · exact (Validator.offersShort_iff hbuild).mp (Validator.offersShort_of_build hbuild) item hitem
  all_goals
    rw [Validator.validate_of_not_object (by simp)] at h
    cases h

/-! ## Schemas that are too deep -/

/-- The field has a default value or a choice with more levels than the schema has left for it. -/
def Field.TooDeep (f : Field) : Prop :=
  (∃ w, f.fallback = some w ∧ w.noJson? (mostLevels - 2) ≠ none) ∨
  (f.isMulti = true ∧ ∃ c ∈ f.choices, c.noJson? (mostLevels - 4) ≠ none) ∨
  (f.isMulti = false ∧ f.kindName = "select" ∧ ∃ c ∈ f.choices, c.noJson? (mostLevels - 3) ≠ none)

/-- The keyword of a schema can be written in the levels that are left to it. -/
def Keyword.Written (k : Keyword) : Prop := k.entry.2.noJson? (mostLevels - 2) = none

namespace Keyword

theorem written_examples (texts : List String) : (examples texts).Written := by
  refine Value.noJson?_list_iff.mpr fun c hc => ?_
  obtain ⟨s, -, rfl⟩ := List.mem_map.mp hc
  rfl

theorem written_choices_iff {values : List Value} :
    (choices values).Written ↔ ∀ c ∈ values, c.noJson? (mostLevels - 3) = none :=
  Value.noJson?_list_iff

theorem written_members_iff {values : List Value} :
    (members values).Written ↔ ∀ c ∈ values, c.noJson? (mostLevels - 4) = none := by
  have hobject : (members values).Written ↔
      (Value.list values).noJson? (mostLevels - 3) = none := by
    refine Value.noJson?_object_iff.trans ?_
    rw [List.forall_mem_singleton]
    rfl
  exact hobject.trans Value.noJson?_list_iff

end Keyword

theorem written_formatKeywords (formats : List TextFormat) :
    ∀ k ∈ formatKeywords formats, k.Written := by
  rw [formatKeywords]
  split
  · exact List.forall_mem_singleton.mpr rfl
  · split
    · exact List.forall_mem_singleton.mpr rfl
    · simp

theorem written_exampleKeywords (placeholder : Option String) :
    ∀ k ∈ exampleKeywords placeholder, k.Written := by
  unfold exampleKeywords
  split
  · split
    · simp
    · exact List.forall_mem_singleton.mpr (Keyword.written_examples _)
  · simp

/-- Of the keywords for what a field keeps only those that list its choices can be too deep. -/
theorem written_valueKeywords_iff {kind : FieldKind} (hkind : f.kind? = some kind) :
    (∀ k ∈ f.valueKeywords kind, k.Written) ↔
      (f.isMulti = true → ∀ c ∈ f.choices, c.noJson? (mostLevels - 4) = none) ∧
      (f.isMulti = false → f.kindName = "select" →
        ∀ c ∈ f.choices, c.noJson? (mostLevels - 3) = none) := by
  have hselect : kind = .select ↔ f.kindName = "select" := by
    rw [← kind?_eq_select_iff, hkind, Option.some.injEq]
  have hmin : (Keyword.minMembers 1).Written := rfl
  have hlength : ∀ k ∈ (if f.required then [Keyword.minLength 1] else []), k.Written := by
    split
    · exact List.forall_mem_singleton.mpr rfl
    · simp
  have htype : ∀ name, (Keyword.type name).Written := fun _ => rfl
  have hunique : Keyword.uniqueMembers.Written := rfl
  unfold Field.valueKeywords
  cases hmulti : f.isMulti with
  | true =>
    rw [if_pos rfl]
    simp [Keyword.written_members_iff, htype, hunique, hmin]
  | false =>
    rw [if_neg (by simp), ← hselect]
    have htext : ∀ k ∈ [Keyword.type "string"] ++
        (if f.required then [Keyword.minLength 1] else []) ++ formatKeywords f.formats ++
          exampleKeywords f.placeholder, k.Written := by
      simp only [List.forall_mem_append, List.forall_mem_singleton]
      exact ⟨⟨⟨htype _, hlength⟩, written_formatKeywords _⟩, written_exampleKeywords _⟩
    have hformat : (Keyword.format "date-time").Written := rfl
    cases kind with
    | text | textarea => exact iff_of_true htext (by simp)
    | select => simp [Keyword.written_choices_iff]
    | number | date | checkbox => simp [htype, hformat]

/-- The keywords of a field can be written unless the field is too deep. -/
theorem written_keywords_iff {kind : FieldKind} (hkind : f.kind? = some kind) :
    (∀ k ∈ f.keywords kind, k.Written) ↔ ¬ f.TooDeep := by
  have htitle : (Keyword.title f.label).Written := rfl
  have hchoices : ((f.isMulti = true → ∀ c ∈ f.choices, c.noJson? (mostLevels - 4) = none) ∧
      (f.isMulti = false → f.kindName = "select" →
        ∀ c ∈ f.choices, c.noJson? (mostLevels - 3) = none)) ↔
      ¬ ((f.isMulti = true ∧ ∃ c ∈ f.choices, c.noJson? (mostLevels - 4) ≠ none) ∨
        (f.isMulti = false ∧ f.kindName = "select" ∧
          ∃ c ∈ f.choices, c.noJson? (mostLevels - 3) ≠ none)) := by
    push Not
    rfl
  rw [Field.keywords, List.cons_append, List.forall_mem_cons, List.forall_mem_append,
    written_valueKeywords_iff hkind, hchoices, Field.TooDeep]
  cases hfallback : f.fallback with
  | none => simp [htitle]
  | some w =>
    have hwritten : (Keyword.default w).Written ↔ w.noJson? (mostLevels - 2) = none := Iff.rfl
    simp only [List.forall_mem_singleton, hwritten, htitle, true_and, Option.some.injEq,
      exists_eq_left', not_or, ne_eq, not_not]
    exact and_comm

theorem JsonSchema.noJson?_toValue_iff (schema : JsonSchema) :
    schema.toValue.noJson? (mostLevels + 1) = none ↔
      ∀ p ∈ schema.properties, ∀ k ∈ p.2, k.Written := by
  have hrequired : ∀ e ∈ (if schema.required.isEmpty then []
      else [("required", Value.list (schema.required.map .text))]),
        e.2.noJson? mostLevels = none := by
    split
    · simp
    · refine List.forall_mem_singleton.mpr (Value.noJson?_list_iff.mpr fun c hc => ?_)
      obtain ⟨s, -, rfl⟩ := List.mem_map.mp hc
      rfl
  rw [toValue, Value.noJson?_object_iff, List.forall_mem_append]
  refine (and_iff_left hrequired).trans ⟨fun h p hp => ?_, fun h => ?_⟩
  · simp only [List.forall_mem_cons] at h
    obtain ⟨-, -, -, -, h, -⟩ := h
    have hproperties := Value.noJson?_object_iff.mp h
    have hproperty := Value.noJson?_object_iff.mp (hproperties _ (List.mem_map_of_mem hp))
    exact fun k hk => hproperty _ (List.mem_map_of_mem hk)
  · simp only [List.forall_mem_cons]
    refine ⟨rfl, rfl, rfl, rfl, Value.noJson?_object_iff.mpr fun e he => ?_, rfl, by simp⟩
    obtain ⟨p, hp, rfl⟩ := List.mem_map.mp he
    exact Value.noJson?_object_iff.mpr (List.forall_mem_map.mpr (h p hp))

/-- The schema of a form can be written unless some field is too deep. -/
theorem JsonSchema.Describes.noJson?_iff {schema : JsonSchema} (h : schema.Describes form)
    (hnames : (form.fields.map Field.name).Nodup) :
    schema.toValue.noJson? (mostLevels + 1) = none ↔ ∀ f ∈ form.fields, ¬ f.TooDeep := by
  rw [noJson?_toValue_iff]
  constructor
  · intro hwritten f hf
    obtain ⟨p, hp, hname⟩ : ∃ p ∈ schema.properties, p.1 = f.name := by
      have hmem : f.name ∈ schema.properties.map Prod.fst := by
        rw [h.keys]
        exact List.mem_map_of_mem hf
      exact List.mem_map.mp hmem
    obtain ⟨g, hg, kind, hkind, rfl⟩ := h.properties p hp
    obtain rfl : g = f := List.inj_on_of_nodup_map hnames hg hf hname
    exact (written_keywords_iff hkind).mp (hwritten _ hp)
  · intro hdeep p hp
    obtain ⟨f, hf, kind, hkind, rfl⟩ := h.properties p hp
    exact (written_keywords_iff hkind).mpr (hdeep f hf)

/-! ## Schemas that are short -/

theorem Value.short_texts (texts : List String) : (Value.list (texts.map .text)).Short :=
  Value.short_list_iff.mpr (List.forall_mem_map.mpr fun s _ => Value.short_text s)

theorem short_formatKeywords (formats : List TextFormat) :
    ∀ k ∈ formatKeywords formats, k.entry.2.Short := by
  rw [formatKeywords]
  split
  · exact List.forall_mem_singleton.mpr (Value.short_text _)
  · split
    · exact List.forall_mem_singleton.mpr (Value.short_text _)
    · simp

theorem short_exampleKeywords (placeholder : Option String) :
    ∀ k ∈ exampleKeywords placeholder, k.entry.2.Short := by
  unfold exampleKeywords
  split
  · split
    · simp
    · exact List.forall_mem_singleton.mpr (Value.short_texts _)
  · simp

theorem Field.short_valueKeywords (kind : FieldKind) (hchoices : ∀ c ∈ f.choices, c.Short) :
    ∀ k ∈ f.valueKeywords kind, k.entry.2.Short := by
  have htext : ∀ name, (Keyword.type name).entry.2.Short := Value.short_text
  have hformat : ∀ name, (Keyword.format name).entry.2.Short := Value.short_text
  have hone : ∀ keyword ∈ [Keyword.minMembers 1, .minLength 1], keyword.entry.2.Short := by
    simp only [List.forall_mem_cons]
    exact ⟨Value.short_digit (by decide), Value.short_digit (by decide), by simp⟩
  have hlist : (Value.list f.choices).Short := Value.short_list_iff.mpr hchoices
  unfold Field.valueKeywords
  split
  · rw [List.forall_mem_append]
    refine ⟨?_, ?_⟩
    · simp only [List.forall_mem_cons]
      refine ⟨htext _, Value.short_object_iff.mpr (List.forall_mem_singleton.mpr hlist), ?_, by simp⟩
      exact Value.short_bool true
    · split
      · exact List.forall_mem_singleton.mpr (hone _ (by simp))
      · simp
  · cases kind with
    | text | textarea =>
      simp only [List.forall_mem_append, List.forall_mem_singleton]
      refine ⟨⟨⟨htext _, ?_⟩, short_formatKeywords _⟩, short_exampleKeywords _⟩
      split
      · exact List.forall_mem_singleton.mpr (hone _ (by simp))
      · simp
    | number | checkbox => exact List.forall_mem_singleton.mpr (htext _)
    | date => exact List.forall_mem_cons.mpr ⟨htext _, List.forall_mem_singleton.mpr (hformat _)⟩
    | select => exact List.forall_mem_singleton.mpr hlist

/-- The schema of a form has no other integers than the form, but for some of one digit. -/
theorem JsonSchema.Describes.short {schema : JsonSchema} (h : schema.Describes form)
    (hvalues : ∀ w ∈ form.values, w.Short) : schema.toValue.Short := by
  have hkeywords : ∀ p ∈ schema.properties, ∀ k ∈ p.2, k.entry.2.Short := by
    intro p hp
    obtain ⟨f, hf, kind, -, rfl⟩ := h.properties p hp
    have hfield : ∀ w ∈ f.values, w.Short := fun w hw =>
      hvalues w (List.mem_flatMap.mpr ⟨f, hf, hw⟩)
    rw [Field.keywords, List.forall_mem_append, List.forall_mem_cons]
    refine ⟨⟨Value.short_text _, f.short_valueKeywords kind fun c hc => ?_⟩, ?_⟩
    · exact hfield c (Field.mem_values_of_choice hc)
    · cases hfallback : f.fallback with
      | none => simp
      | some w =>
        exact List.forall_mem_singleton.mpr (hfield w (Field.mem_values_of_fallback hfallback))
  rw [toValue, Value.short_object_iff, List.forall_mem_append]
  refine ⟨?_, ?_⟩
  · simp only [List.forall_mem_cons]
    refine ⟨Value.short_text _, Value.short_text _, Value.short_text _, Value.short_text _,
      Value.short_object_iff.mpr ?_, Value.short_bool _, by simp⟩
    refine List.forall_mem_map.mpr fun p hp => Value.short_object_iff.mpr ?_
    exact List.forall_mem_map.mpr (hkeywords p hp)
  · split
    · simp
    · exact List.forall_mem_singleton.mpr (Value.short_texts _)

end Formwork
