import Formwork.Proofs.Levels
import Formwork.Proofs.Readings

/-!
# Reading a canonical document again

The canonical document of a field that was read is read as the same field (`reread_iff`), whatever
the document was that the field was read from: keys may have had their other names there, Booleans
may have been words or numbers, and entries may have been left out. What a reading establishes, a
text that is not empty and a condition of so many levels, is all that the canonical document needs.
A field of JSON values has one unless it has too many levels. A form needs more to be named: all its
integers are written then.
-/

namespace Formwork

open Value (IsJson mostLevels nested)

/-! ## Parts of documents -/

namespace Document

variable {α : Type} {read : Value → Reading α} {v : Value}

theorem nonEmptyText_eq_ok_iff {s : String} : nonEmptyText v = .ok s ↔ v = .text s ∧ s ≠ "" := by
  unfold nonEmptyText
  cases v with
  | text t =>
    show Reading.check (.ok t) _ _ = _ ↔ _
    unfold Reading.check Reading.ok
    by_cases ht : t = ""
    · subst ht
      constructor
      · rintro ⟨⟩
      · rintro ⟨⟨⟩, h⟩
        exact absurd rfl h
    · simp only [String.isEmpty_iff, ht]
      constructor
      · rintro ⟨⟩
        exact ⟨rfl, ht⟩
      · rintro ⟨⟨⟩, -⟩
        rfl
  | _ =>
    constructor
    · rintro ⟨⟩
    · rintro ⟨⟨⟩, -⟩

/-- A text that was read from an entry is not empty. -/
theorem ne_empty_of_entry {keys : List String} {es : List (String × Value)} {s : String}
    (h : entry keys nonEmptyText es = .ok s) : s ≠ "" := by
  obtain ⟨_, _, -, hread⟩ := entry_eq_ok_iff.mp h
  exact (nonEmptyText_eq_ok_iff.mp hread).2

/-- What may be null is read again if it is read again where it is not. -/
theorem nullable_getD {o : Option α} {write : α → Value} (hwrite : ∀ a, write a ≠ .null)
    (h : ∀ a, o = some a → read (write a) = .ok a) :
    nullable read ((o.map write).getD .null) = .ok o := by
  cases o with
  | none => rfl
  | some a => exact nullable_eq_ok_iff.mpr (.inr ⟨hwrite a, a, h a rfl, rfl⟩)

/-- A list is read again if its members are. -/
theorem list_map {as : List α} {write : α → Value} (h : ∀ a ∈ as, read (write a) = .ok a) :
    list read (.list (as.map write)) = .ok as := by
  refine list_eq_ok_iff.mpr ⟨as.map write, rfl, ?_⟩
  rw [List.forall₂_map_left_iff, List.forall₂_same]
  exact h

/-- What was read of an entry that may be null was read of some value. -/
theorem exists_of_nullable {keys : List String} {es : List (String × Value)} {a : α}
    (h : entryOr none keys (nullable read) es = .ok (some a)) : ∃ x, read x = .ok a := by
  rcases entryOr_eq_ok_iff.mp h with ⟨-, hnone⟩ | ⟨_, x, -, hread⟩
  · cases hnone
  · rcases nullable_eq_ok_iff.mp hread with ⟨-, hnone⟩ | ⟨-, b, hb, hsome⟩
    · cases hnone
    · injection hsome with hsome
      exact ⟨x, hsome ▸ hb⟩

end Document

open Document

/-! ## Conditions -/

theorem Operator.oneOf_word (operator : Operator) :
    oneOf Operator.words (.text operator.word) = .ok operator := by
  cases operator <;> rfl

theorem Combinator.oneOf_word (combinator : Combinator) :
    oneOf Combinator.words (.text combinator.word) = .ok combinator := by
  cases combinator <;> rfl

/-- A condition that was read is read again within the same levels. -/
theorem Condition.read_toValue {c : Condition} : ∀ {levels : Nat} {v : Value},
    read levels v = .ok c → (∀ w ∈ c.values, IsJson w) → read levels c.toValue = .ok c := by
  induction c using Condition.induction with
  | ofLeaf field operator value =>
    intro levels v h hjson
    have hvalue : IsJson value := hjson value (by simp [values, leaves])
    obtain ⟨es, -, hlevels, hreads⟩ := read_eq_ok_iff.mp h
    cases hreads with
    | leaf _ hfield _ _ =>
      have hne : field ≠ "" := ne_empty_of_entry hfield
      refine read_object_eq_ok_iff.mpr ⟨hlevels, .leaf rfl ?_ ?_ ?_⟩
      · exact entry_eq_ok_iff.mpr ⟨_, _, rfl, nonEmptyText_eq_ok_iff.mpr ⟨rfl, hne⟩⟩
      · exact entry_eq_ok_iff.mpr ⟨_, _, rfl, operator.oneOf_word⟩
      · rw [hvalue.toJson_eq]
        exact entryOr_eq_ok_iff.mpr (.inr ⟨_, _, rfl, rfl⟩)
  | ofGroup combinator cs ih =>
    intro levels v h hjson
    rw [values_group, List.forall_mem_flatMap] at hjson
    obtain ⟨es, -, hlevels, hreads⟩ := read_eq_ok_iff.mp h
    cases hreads with
    | group _ _ hchildren =>
      have hmembers : ∀ c ∈ cs, read (levels - 1) c.toValue = .ok c := by
        intro c hc
        rcases entryOr_eq_ok_iff.mp hchildren with ⟨-, rfl⟩ | ⟨_, _, -, hlist⟩
        · cases hc
        · obtain ⟨_, -, hall⟩ := list_eq_ok_iff.mp hlist
          obtain ⟨x, -, hx⟩ := exists_of_mem_read hall hc
          exact ih c hc hx (hjson c hc)
      refine read_object_eq_ok_iff.mpr ⟨hlevels, .group (by simp) ?_ ?_⟩
      · exact entry_eq_ok_iff.mpr ⟨_, _, rfl, combinator.oneOf_word⟩
      · rw [toValueAll_eq_map]
        exact entryOr_eq_ok_iff.mpr (.inr ⟨_, _, rfl, list_map hmembers⟩)

/-! ## Fields -/

theorem Choice.read_toValue {c : Choice} (hjson : IsJson c.value) : read c.toValue = .ok c := by
  refine read_eq_ok_iff.mpr ⟨_, rfl, ?_, ?_⟩
  · exact entry_eq_ok_iff.mpr ⟨_, _, rfl, rfl⟩
  · rw [hjson.toJson_eq]
    exact entry_eq_ok_iff.mpr ⟨_, _, rfl, rfl⟩

theorem Condition.toValue_ne_null (c : Condition) : c.toValue ≠ .null := by
  cases c <;> exact nofun

/-- A field that was read is read again from what its document would be. -/
theorem Field.read_toValue {f : Field} {levels : Nat} {v : Value}
    (h : readWithin levels v = .ok f) (hjson : ∀ w ∈ f.values, IsJson w) :
    readWithin levels f.toValue = .ok f := by
  obtain ⟨es, -, hreads⟩ := readWithin_eq_ok_iff.mp h
  have hid : f.id ≠ "" := ne_empty_of_entry hreads.id
  have hname : f.name ≠ "" := ne_empty_of_entry hreads.name
  have hplaceholder : nullable text ((f.placeholder.map Value.text).getD .null) =
      .ok f.placeholder := nullable_getD (fun _ => nofun) fun _ _ => rfl
  have hoptions : nullable (list Choice.read)
      ((f.options.map fun cs => Value.list (cs.map Choice.toValue)).getD .null) =
        .ok f.options := by
    refine nullable_getD (fun _ => nofun) fun cs hcs => list_map fun c hc => ?_
    exact Choice.read_toValue (hjson _ (mem_values_iff.mpr (.inl ⟨cs, hcs, c, hc, rfl⟩)))
  have hcondition : nullable (Condition.read levels)
      ((f.condition.map Condition.toValue).getD .null) = .ok f.condition := by
    refine nullable_getD Condition.toValue_ne_null fun c hc => ?_
    have hread := hreads.condition
    rw [hc] at hread
    obtain ⟨x, hx⟩ := exists_of_nullable hread
    exact Condition.read_toValue hx fun w hw =>
      hjson w (mem_values_iff.mpr (.inr (.inl ⟨c, hc, hw⟩)))
  have hdefault : ∀ w, f.fallback = some w → w.toJson = w := fun w hw =>
    (hjson w (mem_values_iff.mpr (.inr (.inr hw)))).toJson_eq
  refine readWithin_eq_ok_iff.mpr ⟨_, rfl, {
    id := entry_eq_ok_iff.mpr ⟨_, _, rfl, nonEmptyText_eq_ok_iff.mpr ⟨rfl, hid⟩⟩
    name := entry_eq_ok_iff.mpr ⟨_, _, rfl, nonEmptyText_eq_ok_iff.mpr ⟨rfl, hname⟩⟩
    kindName := entry_eq_ok_iff.mpr ⟨_, _, rfl, rfl⟩
    label := entry_eq_ok_iff.mpr ⟨_, _, rfl, rfl⟩
    required := entryOr_eq_ok_iff.mpr (.inr ⟨_, _, rfl, rfl⟩)
    placeholder := entryOr_eq_ok_iff.mpr (.inr ⟨_, _, rfl, hplaceholder⟩)
    options := entryOr_eq_ok_iff.mpr (.inr ⟨_, _, rfl, hoptions⟩)
    condition := entryOr_eq_ok_iff.mpr (.inr ⟨_, _, rfl, hcondition⟩)
    fallback := ?_
    multiple := ?_ }⟩
  -- The default value has an entry only where one was given, and the last entry is behind it.
  · cases hfallback : f.fallback with
    | none => exact optionalEntry_eq_ok_iff.mpr (.inl ⟨rfl, rfl⟩)
    | some w =>
      have hw : Reading.ok w.toJson = Reading.ok w := congrArg Reading.ok (hdefault w hfallback)
      exact optionalEntry_eq_ok_iff.mpr (.inr ⟨_, _, w, rfl, hw, rfl⟩)
  · cases f.fallback with
    | none => exact entryOr_eq_ok_iff.mpr (.inr ⟨_, _, rfl, rfl⟩)
    | some w => exact entryOr_eq_ok_iff.mpr (.inr ⟨_, _, rfl, rfl⟩)

/-! ## Documents -/

theorem Field.document_eq_ok_iff {f : Field} {d : Value} :
    f.document = .ok d ↔ f.noJson? = none ∧ f.toValue = d := by
  unfold document
  cases f.noJson? with
  | none => simp
  | some e => simp

/-- A list of fields has documents where every field has one. -/
theorem mapM_document_eq_ok_iff {fields : List Field} {ds : List Value} :
    fields.mapM Field.document = .ok ds ↔
      (∀ f ∈ fields, f.noJson? = none) ∧ fields.map Field.toValue = ds := by
  rw [mapM_eq_ok_iff]
  induction fields generalizing ds with
  | nil =>
    constructor
    · rintro ⟨⟩
      exact ⟨List.forall_mem_nil _, rfl⟩
    · rintro ⟨-, rfl⟩
      exact .nil
  | cons f fields ih =>
    rw [List.forall_mem_cons, List.map_cons]
    constructor
    · rintro (_ | ⟨hf, hfields⟩)
      obtain ⟨hnone, rfl⟩ := Field.document_eq_ok_iff.mp hf
      obtain ⟨hrest, rfl⟩ := ih.mp hfields
      exact ⟨⟨hnone, hrest⟩, rfl⟩
    · rintro ⟨⟨hnone, hrest⟩, rfl⟩
      exact .cons (Field.document_eq_ok_iff.mpr ⟨hnone, rfl⟩) (ih.mpr ⟨hrest, rfl⟩)

/-- The document of a form made of its version and the documents of its fields. -/
def formDocument (version : String) (fields : List Value) : Value :=
  .object [("version", .text version), ("fields", .list fields)]

/-- A form whose fields were read is read again from its version and what the documents of the
fields would be. -/
theorem Form.read_formDocument {g : Form} (hread : ∀ f ∈ g.fields, ∃ v, Field.read v = .ok f)
    (hjson : ∀ f ∈ g.fields, ∀ w ∈ f.values, IsJson w) :
    read (formDocument g.version (g.fields.map Field.toValue)) = .ok g := by
  refine readWithin_eq_ok_iff.mpr ⟨_, rfl, ?_, ?_⟩
  · exact entry_eq_ok_iff.mpr ⟨_, _, rfl, rfl⟩
  · refine entryOr_eq_ok_iff.mpr (.inr ⟨_, _, rfl, list_map fun f hf => ?_⟩)
    obtain ⟨v, hv⟩ := hread f hf
    exact Field.read_toValue hv (hjson f hf)

/-- A field of JSON values that was read has a canonical document, and is read again from it,
exactly if it has no more levels than a document. So is a form of such fields from its version and
their canonical documents. It is named then, and named the same, exactly if all its integers can be
written. -/
theorem reread_iff {g : Form} (hread : ∀ f ∈ g.fields, ∃ v, Field.read v = .ok f)
    (hjson : ∀ f ∈ g.fields, ∀ w ∈ f.values, IsJson w) :
    (∀ f ∈ g.fields,
      (∃ d f', f.document = .ok d ∧ Field.read d = .ok f' ∧ f' = f ∧ f'.document = .ok d) ↔
        f.levels ≤ mostLevels) ∧
    ((∃ ds g', g.fields.mapM Field.document = .ok ds ∧
        Form.read (formDocument g.version ds) = .ok g' ∧ g' = g) ↔ g.levels ≤ mostLevels) ∧
    ((∃ ds g' name, g.fields.mapM Field.document = .ok ds ∧
        Form.read (formDocument g.version ds) = .ok g' ∧ g' = g ∧
        g.contentHash = .ok name ∧ g'.contentHash = .ok name) ↔
      g.levels ≤ mostLevels ∧ ∀ f ∈ g.fields, ∀ w ∈ f.values, w.Short) := by
  have hlevels : (∀ f ∈ g.fields, f.noJson? = none) ↔ g.levels ≤ mostLevels := by
    rw [Form.levels_le_iff]
    exact forall₂_congr fun f hf => Field.noJson?_eq_none_iff (hjson f hf)
  have hform := Form.read_formDocument hread hjson
  refine ⟨fun f hf => ?_, ?_, ?_⟩
  · rw [← Field.noJson?_eq_none_iff (hjson f hf)]
    constructor
    · rintro ⟨d, f', hd, -⟩
      exact (Field.document_eq_ok_iff.mp hd).1
    · intro hnone
      obtain ⟨v, hv⟩ := hread f hf
      have hd : f.document = .ok f.toValue := Field.document_eq_ok_iff.mpr ⟨hnone, rfl⟩
      exact ⟨f.toValue, f, hd, Field.read_toValue hv (hjson f hf), rfl, hd⟩
  · rw [← hlevels]
    constructor
    · rintro ⟨ds, g', hds, -⟩
      exact (mapM_document_eq_ok_iff.mp hds).1
    · exact fun hnone => ⟨_, g, mapM_document_eq_ok_iff.mpr ⟨hnone, rfl⟩, hform, rfl⟩
  · rw [← hlevels, ← List.forall_mem_flatMap, ← Form.values, ← Form.noJson?_eq_none_iff]
    constructor
    · rintro ⟨ds, g', name, -, -, -, hname, -⟩
      exact (contentHash_eq_ok_iff.mp hname).1
    · intro hnone
      have hname := contentHash_eq_ok_iff.mpr ⟨hnone, rfl⟩
      have hfields := (Form.noJson?_eq_none_iff.mp hnone).1
      exact ⟨_, g, _, mapM_document_eq_ok_iff.mpr ⟨hfields, rfl⟩, hform, rfl, hname, hname⟩

/-! ## A default value of many levels -/

/-- A date with a default value. -/
def defaultField (v : Value) : Field :=
  ⟨"a", "x", "date", "X", false, none, none, none, some v, false⟩

/-- A document of the date that says no more than it must. -/
def defaultDocument (v : Value) : Value :=
  .object [("id", .text "a"), ("name", .text "x"), ("type", .text "date"), ("label", .text "X"),
    ("defaultValue", v)]

theorem read_defaultDocument (v : Value) :
    Field.read (defaultDocument v) = .ok (defaultField v) := rfl

theorem isJson_values_defaultField {v : Value} (hv : IsJson v) :
    ∀ w ∈ (defaultField v).values, IsJson w :=
  List.forall_mem_singleton.mpr hv

theorem levels_defaultField (v : Value) : (defaultField v).levels = v.levels := Nat.max_zero _

/-- A default value with as many levels as a document is read again, and the form is named. -/
theorem reread_iff_deepest :
    let g : Form := ⟨"1", [defaultField (nested 254)]⟩
    (∀ f ∈ g.fields, ∃ v, Field.read v = .ok f) ∧ (∀ f ∈ g.fields, ∀ w ∈ f.values, IsJson w) ∧
      (∀ f ∈ g.fields, ∃ d, f.document = .ok d ∧ Field.read d = .ok f) ∧
      ∃ ds name, Form.read (formDocument g.version ds) = .ok g ∧ g.contentHash = .ok name := by
  intro g
  have hread : ∀ f ∈ g.fields, ∃ v, Field.read v = .ok f :=
    List.forall_mem_singleton.mpr ⟨_, read_defaultDocument _⟩
  have hjson : ∀ f ∈ g.fields, ∀ w ∈ f.values, IsJson w :=
    List.forall_mem_singleton.mpr (isJson_values_defaultField (Value.isJson_nested 254))
  have hlevels : ∀ f ∈ g.fields, f.levels ≤ mostLevels := by
    refine List.forall_mem_singleton.mpr ?_
    rw [levels_defaultField, Value.levels_nested]
    decide
  have hshort : ∀ f ∈ g.fields, ∀ w ∈ f.values, w.Short :=
    List.forall_mem_singleton.mpr (List.forall_mem_singleton.mpr (Value.short_nested 254))
  obtain ⟨hfields, -, hform⟩ := reread_iff hread hjson
  refine ⟨hread, hjson, fun f hf => ?_, ?_⟩
  · obtain ⟨d, _, hd, hagain, rfl, -⟩ := (hfields f hf).mpr (hlevels f hf)
    exact ⟨d, hd, hagain⟩
  · obtain ⟨ds, _, name, -, hagain, rfl, hname, -⟩ :=
      hform.mpr ⟨Form.levels_le_iff.mpr hlevels, hshort⟩
    exact ⟨ds, name, hagain, hname⟩

/-- One with a level more is read, and has no canonical document to be read from again. -/
theorem deep_default_undocumented :
    let f := defaultField (nested 255)
    Field.read (defaultDocument (nested 255)) = .ok f ∧ (∀ w ∈ f.values, IsJson w) ∧
      ¬ ∃ d, f.document = .ok d ∧ Field.read d = .ok f := by
  intro f
  have hjson : ∀ w ∈ f.values, IsJson w := isJson_values_defaultField (Value.isJson_nested 255)
  refine ⟨read_defaultDocument _, hjson, ?_⟩
  rintro ⟨d, hd, -⟩
  have hlevels := (Field.noJson?_eq_none_iff hjson).mp (Field.document_eq_ok_iff.mp hd).1
  rw [levels_defaultField, Value.levels_nested] at hlevels
  exact absurd hlevels (by decide)

end Formwork
