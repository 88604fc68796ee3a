import Formwork.Form.Check
import Formwork.Proofs.CycleSearch
import Formwork.Proofs.LongIntegers

/-!
# The issues of a form

`Form.Flawed` says without reference to the checks what is wrong with a form, and where: a flaw is at
the version, at a field, or at an option or a test of a field. The checks look at every spot once, in
order, so their issues are the flaws one by one, and behind them the cycles.

An option is compared only with those that were kept. That this finds all options which equal an
earlier one is the transitivity of strict equality.

All issues are told or none: one message shows the value of an option, and where that is too long to
be written, the form is neither accepted nor refused (`Form.Tellable`).
-/

namespace Formwork

/-- A spot where a form can be flawed. Fields and options are told by position, and tests by their
place in the condition of the field. -/
inductive Flaw where
  | version
  | id (i : Nat)
  | name (i : Nat)
  | kind (i : Nat)
  | options (i : Nat)
  | option (i k : Nat)
  | reference (i : Nat) (place : List Nat)
deriving DecidableEq

namespace Flaw

def code : Flaw → String
  | version => "INVALID_VERSION"
  | id _ => "DUPLICATE_ID"
  | name _ => "DUPLICATE_NAME"
  | kind _ => "UNKNOWN_TYPE"
  | options _ => "MISSING_OPTIONS"
  | option .. => "DUPLICATE_OPTION"
  | reference .. => "DANGLING_REFERENCE"

def place : Flaw → String
  | version => "version"
  | id i => s!"fields[{i}].id"
  | name i => s!"fields[{i}].name"
  | kind i => s!"fields[{i}].type"
  | options i | option i _ => s!"fields[{i}].options"
  | reference i _ => s!"fields[{i}].condition"

/-- Circular references are not told by flaws. -/
theorem code_ne (x : Flaw) : x.code ≠ "CIRCULAR_REFERENCE" := by
  cases x <;> simp [code]

end Flaw

/-- What is wrong with a form at a spot, and the issue that tells it. -/
inductive Form.Flawed (form : Form) : Flaw → Issue → Prop
  /-- The version has no character but blanks, or none. -/
  | version (h : ∀ c ∈ form.version.toList, Text.isBlank c = true) :
      Flawed form .version .invalidVersion
  | id {i j : Nat} {f f' : Field} (hf : form.fields[i]? = some f) (hj : j < i)
      (hf' : form.fields[j]? = some f') (h : f'.id = f.id) :
      Flawed form (.id i) (.duplicateId i f.id)
  | name {i j : Nat} {f f' : Field} (hf : form.fields[i]? = some f) (hj : j < i)
      (hf' : form.fields[j]? = some f') (h : f'.name = f.name) :
      Flawed form (.name i) (.duplicateName i f.name)
  | kind {i : Nat} {f : Field} (hf : form.fields[i]? = some f)
      (h : f.kindName ∉ ["text", "number", "select", "date", "checkbox", "textarea"]) :
      Flawed form (.kind i) (.unknownKind i f.id f.kindName)
  | options {i : Nat} {f : Field} (hf : form.fields[i]? = some f)
      (hkind : f.kindName = "select") (h : f.choices = []) :
      Flawed form (.options i) (.missingOptions i f.id)
  /-- The option equals an earlier one of its field, whatever became of that. -/
  | option {i j k : Nat} {f : Field} {v w : Value} (hf : form.fields[i]? = some f)
      (hkind : f.kindName = "select" ∨ f.kindName = "checkbox") (hv : f.choices[k]? = some v)
      (hj : j < k) (hw : f.choices[j]? = some w) (h : v.strictEq w = true) :
      Flawed form (.option i k) (.duplicateOption i f.id v)
  | reference {i : Nat} {place : List Nat} {f : Field} {r : String}
      (hf : form.fields[i]? = some f) (hr : f.TestsAt place r) (h : ¬ Declared form.fields r) :
      Flawed form (.reference i place) (.danglingReference i f.id r)

/-- A form without flaws and without circular references. -/
def Form.WellFormed (form : Form) : Prop :=
  (∀ x e, ¬ form.Flawed x e) ∧ Acyclic (Refers form.fields)

/-- The message of every flaw can be written: no option that equals an earlier one has too long an
integer. -/
def Form.Tellable (form : Form) : Prop :=
  ∀ i k id v, form.Flawed (.option i k) (.duplicateOption i id v) → v.Short

/-! ## Members and those before them -/

theorem mem_take_iff {α : Type} {xs : List α} {i : Nat} {y : α} :
    y ∈ xs.take i ↔ ∃ j < i, xs[j]? = some y := by
  rw [List.mem_iff_getElem?]
  constructor
  · rintro ⟨j, hj⟩
    rw [List.getElem?_take] at hj
    split at hj
    · rename_i hlt
      exact ⟨j, hlt, hj⟩
    · cases hj
  · rintro ⟨j, hlt, hj⟩
    exact ⟨j, by rw [List.getElem?_take, if_pos hlt, hj]⟩

/-- What goes through a list with the members passed so far makes its lists position by
position. -/
theorem flatMap_positions {α β : Type} (go : List α → List α → List β) (F : List α → α → List β)
    (hnil : ∀ before, go before [] = [])
    (hcons : ∀ before x xs, go before (x :: xs) = F before x ++ go (before ++ [x]) xs)
    (before xs : List α) :
    go before xs =
      (List.range xs.length).flatMap fun k => (xs[k]?.map (F (before ++ xs.take k))).getD [] := by
  induction xs generalizing before with
  | nil => rw [hnil]; rfl
  | cons x xs ih =>
    rw [hcons, ih, List.length_cons, List.range_succ_eq_map, List.flatMap_cons, List.flatMap_map]
    simp

/-! ## Options -/

/-- The values that strictly equal an earlier one. -/
def echoes (earlier : List Value) : List Value → List Value
  | [] => []
  | v :: vs => (if v.isAmong earlier then [v] else []) ++ echoes (earlier ++ [v]) vs

theorem isAmong_append_singleton (u v : Value) (ws : List Value) :
    u.isAmong (ws ++ [v]) = (u.isAmong ws || u.strictEq v) := by
  simp [Value.isAmong]

/-- A value equals what another one equals that it equals. -/
theorem isAmong_of_strictEq {u v : Value} {ws : List Value} (huv : u.strictEq v = true)
    (hv : v.isAmong ws = true) : u.isAmong ws = true := by
  obtain ⟨w, hw, hvw⟩ := List.any_eq_true.mp hv
  exact List.any_eq_true.mpr ⟨w, hw, Value.strictEq_trans huv hvw⟩

/-- To compare with the values that were kept is to compare with all. -/
theorem repeatedValues_eq_echoes {kept earlier : List Value}
    (h : ∀ u : Value, u.isAmong kept = u.isAmong earlier) (vs : List Value) :
    Form.repeatedValues kept vs = echoes earlier vs := by
  induction vs generalizing kept earlier with
  | nil => rfl
  | cons v vs ih =>
    rw [Form.repeatedValues, echoes, h v]
    split
    -- A value that is not kept finds nothing that the kept value it equals does not find.
    · rename_i hv
      rw [List.singleton_append, ih fun u => ?_]
      rw [isAmong_append_singleton, h u]
      by_cases huv : u.strictEq v = true
      · rw [isAmong_of_strictEq huv hv, Bool.true_or]
      · simp [huv]
    · refine ih fun u => ?_
      rw [isAmong_append_singleton, isAmong_append_singleton, h u]

theorem kind?_eq_some_iff {f : Field} {kind : FieldKind} :
    f.kind? = some kind ↔ (f.kindName, kind) ∈ FieldKind.words := by
  rw [Field.kind?, FieldKind.ofName?]
  constructor
  · exact mem_of_lookup
  · simp only [FieldKind.words, List.mem_cons, Prod.mk.injEq, List.not_mem_nil, or_false]
    rintro (⟨h, rfl⟩ | ⟨h, rfl⟩ | ⟨h, rfl⟩ | ⟨h, rfl⟩ | ⟨h, rfl⟩ | ⟨h, rfl⟩) <;> rw [h] <;> decide

theorem kind?_eq_select_iff {f : Field} : f.kind? = some .select ↔ f.kindName = "select" := by
  rw [kind?_eq_some_iff]
  simp [FieldKind.words]

theorem kind?_eq_checkbox_iff {f : Field} :
    f.kind? = some .checkbox ↔ f.kindName = "checkbox" := by
  rw [kind?_eq_some_iff]
  simp [FieldKind.words]

theorem kind?_eq_date_iff {f : Field} : f.kind? = some .date ↔ f.kindName = "date" := by
  rw [kind?_eq_some_iff]
  simp [FieldKind.words]

theorem kind?_eq_none_iff {f : Field} :
    f.kind? = none ↔
      f.kindName ∉ ["text", "number", "select", "date", "checkbox", "textarea"] := by
  rw [Field.kind?, FieldKind.ofName?, List.lookup_eq_none_iff]
  simp [FieldKind.words]

/-! ## Spots -/

namespace Form

variable {form : Form} {i : Nat} {f : Field}

/-- The spots of a field that are looked at together with it. -/
def fieldSpots (form : Form) (i : Nat) : List Flaw :=
  [.id i, .name i, .kind i, .options i]
    ++ (List.range ((form.fields[i]?.map Field.choices).getD []).length).map (.option i)

/-- The spots of a field that are looked at when all ids are known. -/
def referenceSpots (form : Form) (i : Nat) : List Flaw :=
  ((form.fields[i]?.map Field.testPlaces).getD []).map fun p => .reference i p.1

/-- Every spot of a form, in the order of the checks. -/
def spots (form : Form) : List Flaw :=
  .version :: ((List.range form.fields.length).flatMap form.fieldSpots
    ++ (List.range form.fields.length).flatMap form.referenceSpots)

/-- The issue at a spot, if there is one. -/
def issueAt? (form : Form) : Flaw → Option Issue
  | .version => if Text.isBlankText form.version then some .invalidVersion else none
  | .id i => form.fields[i]?.bind fun f =>
    if (form.fields.take i).any (·.id == f.id) then some (.duplicateId i f.id) else none
  | .name i => form.fields[i]?.bind fun f =>
    if (form.fields.take i).any (·.name == f.name) then some (.duplicateName i f.name) else none
  | .kind i => form.fields[i]?.bind fun f =>
    if f.kind? = none then some (.unknownKind i f.id f.kindName) else none
  | .options i => form.fields[i]?.bind fun f =>
    if f.kind? = some .select ∧ f.choices.isEmpty then some (.missingOptions i f.id) else none
  | .option i k => form.fields[i]?.bind fun f =>
    if f.kind? = some .select ∨ f.kind? = some .checkbox then
      f.choices[k]?.bind fun v =>
        if v.isAmong (f.choices.take k) then some (.duplicateOption i f.id v) else none
    else none
  | .reference i place => form.fields[i]?.bind fun f =>
    (f.testPlaces.lookup place).bind fun r =>
      if form.fields.any (·.id == r) then none else some (.danglingReference i f.id r)

theorem any_take_iff {α : Type} {p : α → Bool} {xs : List α} {i : Nat} :
    (xs.take i).any p = true ↔ ∃ j < i, ∃ y, xs[j]? = some y ∧ p y = true := by
  rw [List.any_eq_true]
  constructor
  · rintro ⟨y, hy, hp⟩
    obtain ⟨j, hj, hy⟩ := mem_take_iff.mp hy
    exact ⟨j, hj, y, hy, hp⟩
  · rintro ⟨j, hj, y, hy, hp⟩
    exact ⟨y, mem_take_iff.mpr ⟨j, hj, hy⟩, hp⟩

theorem any_id_iff {fields : List Field} {r : String} :
    fields.any (·.id == r) = true ↔ Declared fields r := by
  simp [Declared]

/-- The issue at a spot tells that the form is flawed there. -/
theorem flawed_of_issueAt? {x : Flaw} {e : Issue} (h : form.issueAt? x = some e) :
    form.Flawed x e := by
  cases x with
  | version =>
    simp only [issueAt?, Option.ite_none_right_eq_some, Option.some.injEq] at h
    obtain ⟨hblank, rfl⟩ := h
    exact .version fun c hc => List.all_eq_true.mp hblank c hc
  | id i =>
    simp only [issueAt?, Option.bind_eq_some_iff, Option.ite_none_right_eq_some,
      Option.some.injEq] at h
    obtain ⟨f, hf, hany, rfl⟩ := h
    obtain ⟨j, hj, f', hf', hid⟩ := any_take_iff.mp hany
    exact .id hf hj hf' (eq_of_beq hid)
  | name i =>
    simp only [issueAt?, Option.bind_eq_some_iff, Option.ite_none_right_eq_some,
      Option.some.injEq] at h
    obtain ⟨f, hf, hany, rfl⟩ := h
    obtain ⟨j, hj, f', hf', hname⟩ := any_take_iff.mp hany
    exact .name hf hj hf' (eq_of_beq hname)
  | kind i =>
    simp only [issueAt?, Option.bind_eq_some_iff, Option.ite_none_right_eq_some,
      Option.some.injEq] at h
    obtain ⟨f, hf, hkind, rfl⟩ := h
    exact .kind hf (kind?_eq_none_iff.mp hkind)
  | options i =>
    simp only [issueAt?, Option.bind_eq_some_iff, Option.ite_none_right_eq_some,
      Option.some.injEq] at h
    obtain ⟨f, hf, ⟨hkind, hempty⟩, rfl⟩ := h
    exact .options hf (kind?_eq_select_iff.mp hkind) (List.isEmpty_iff.mp hempty)
  | option i k =>
    simp only [issueAt?, Option.bind_eq_some_iff, Option.ite_none_right_eq_some,
      Option.some.injEq] at h
    obtain ⟨f, hf, hkind, v, hv, hany, rfl⟩ := h
    obtain ⟨j, hj, w, hw, hvw⟩ := any_take_iff.mp hany
    rw [kind?_eq_select_iff, kind?_eq_checkbox_iff] at hkind
    exact .option hf hkind hv hj hw hvw
  | reference i place =>
    simp only [issueAt?, Option.bind_eq_some_iff, Option.ite_none_left_eq_some,
      Option.some.injEq, any_id_iff] at h
    obtain ⟨f, hf, r, hr, hdangling, rfl⟩ := h
    exact .reference hf (Field.mem_testPlaces_iff.mp (mem_of_lookup hr)) hdangling

/-- A flaw is told by an issue at its spot. -/
theorem issueAt?_of_flawed {x : Flaw} {e : Issue} (h : form.Flawed x e) :
    form.issueAt? x = some e := by
  cases h with
  | version h =>
    rw [issueAt?, if_pos]
    exact List.all_eq_true.mpr h
  | id hf hj hf' h =>
    rw [issueAt?, hf, Option.bind_some, if_pos]
    exact any_take_iff.mpr ⟨_, hj, _, hf', beq_iff_eq.mpr h⟩
  | name hf hj hf' h =>
    rw [issueAt?, hf, Option.bind_some, if_pos]
    exact any_take_iff.mpr ⟨_, hj, _, hf', beq_iff_eq.mpr h⟩
  | kind hf h => rw [issueAt?, hf, Option.bind_some, if_pos (kind?_eq_none_iff.mpr h)]
  | options hf hkind h =>
    rw [issueAt?, hf, Option.bind_some, if_pos]
    exact ⟨kind?_eq_select_iff.mpr hkind, List.isEmpty_iff.mpr h⟩
  | option hf hkind hv hj hw h =>
    rw [← kind?_eq_select_iff, ← kind?_eq_checkbox_iff] at hkind
    rw [issueAt?, hf, Option.bind_some, if_pos hkind, hv, Option.bind_some, if_pos]
    exact any_take_iff.mpr ⟨_, hj, _, hw, h⟩
  | reference hf hr h =>
    have hlookup := lookup_of_mem (Field.nodup_testPlaces _) (Field.mem_testPlaces_iff.mpr hr)
    rw [issueAt?, hf, Option.bind_some, hlookup, Option.bind_some, if_neg]
    rwa [any_id_iff]

theorem lt_length_of_getElem? {α : Type} {xs : List α} {k : Nat} {x : α} (h : xs[k]? = some x) :
    k < xs.length := by
  rw [List.getElem?_eq_some_iff] at h
  exact h.1

theorem mem_spots_of_field {x : Flaw} (hf : form.fields[i]? = some f)
    (hx : x ∈ form.fieldSpots i ∨ x ∈ form.referenceSpots i) : x ∈ form.spots := by
  have hi : i ∈ List.range form.fields.length := List.mem_range.mpr (lt_length_of_getElem? hf)
  rw [spots, List.mem_cons, List.mem_append, List.mem_flatMap, List.mem_flatMap]
  exact Or.inr (hx.imp (fun hx => ⟨i, hi, hx⟩) fun hx => ⟨i, hi, hx⟩)

/-- Every flaw is at a spot. -/
theorem mem_spots_of_flawed {x : Flaw} {e : Issue} (h : form.Flawed x e) : x ∈ form.spots := by
  cases h with
  | version _ => exact List.mem_cons_self
  | id hf _ _ _ => exact mem_spots_of_field hf (Or.inl (by simp [fieldSpots]))
  | name hf _ _ _ => exact mem_spots_of_field hf (Or.inl (by simp [fieldSpots]))
  | kind hf _ => exact mem_spots_of_field hf (Or.inl (by simp [fieldSpots]))
  | options hf _ _ => exact mem_spots_of_field hf (Or.inl (by simp [fieldSpots]))
  | option hf _ hv _ _ _ =>
    refine mem_spots_of_field hf (Or.inl ?_)
    simp [fieldSpots, hf, lt_length_of_getElem? hv]
  | reference hf hr _ =>
    refine mem_spots_of_field hf (Or.inr ?_)
    rw [referenceSpots, hf]
    exact List.mem_map.mpr ⟨_, Field.mem_testPlaces_iff.mpr hr, rfl⟩

/-- The field that a spot belongs to. -/
def fieldOf? : Flaw → Option Nat
  | .version => none
  | .id i | .name i | .kind i | .options i | .option i _ | .reference i _ => some i

theorem nodup_fieldSpots (form : Form) (i : Nat) : (form.fieldSpots i).Nodup := by
  refine List.Nodup.append (by simp) ?_ ?_
  · exact List.nodup_range.map fun k k' h => by injection h
  · rintro x hx hx'
    obtain ⟨k, -, rfl⟩ := List.mem_map.mp hx'
    simp at hx

theorem nodup_referenceSpots (form : Form) (i : Nat) : (form.referenceSpots i).Nodup := by
  rw [referenceSpots]
  cases form.fields[i]? with
  | none => exact List.nodup_nil
  | some f =>
    have hplaces := f.nodup_testPlaces.map (f := Flaw.reference i) fun a b h => by injection h
    rwa [List.map_map] at hplaces

theorem fieldOf?_of_mem_fieldSpots {x : Flaw} (hx : x ∈ form.fieldSpots i) :
    fieldOf? x = some i := by
  simp only [fieldSpots, List.mem_append, List.mem_cons, List.not_mem_nil, or_false,
    List.mem_map] at hx
  rcases hx with (rfl | rfl | rfl | rfl) | ⟨k, -, rfl⟩ <;> rfl

theorem fieldOf?_of_mem_referenceSpots {x : Flaw} (hx : x ∈ form.referenceSpots i) :
    fieldOf? x = some i := by
  obtain ⟨k, -, rfl⟩ := List.mem_map.mp hx
  rfl

/-- Spots of different fields are different. -/
theorem nodup_flatMap_spots {spotsOf : Nat → List Flaw} (hnodup : ∀ i, (spotsOf i).Nodup)
    (hfield : ∀ i, ∀ x ∈ spotsOf i, fieldOf? x = some i) (n : Nat) :
    ((List.range n).flatMap spotsOf).Nodup := by
  refine List.nodup_flatMap.mpr ⟨fun i _ => hnodup i, ?_⟩
  refine List.nodup_range.imp fun {i j} hij x hx hx' => hij ?_
  have hi := hfield i x hx
  rw [hfield j x hx'] at hi
  injection hi with hi
  exact hi.symm

/-- No spot is looked at twice. -/
theorem nodup_spots (form : Form) : form.spots.Nodup := by
  have hfields : ((List.range form.fields.length).flatMap form.fieldSpots).Nodup :=
    nodup_flatMap_spots form.nodup_fieldSpots (fun _ _ => fieldOf?_of_mem_fieldSpots) _
  have hrefs : ((List.range form.fields.length).flatMap form.referenceSpots).Nodup :=
    nodup_flatMap_spots form.nodup_referenceSpots (fun _ _ => fieldOf?_of_mem_referenceSpots) _
  refine List.nodup_cons.mpr ⟨?_, hfields.append hrefs ?_⟩
  · rw [List.mem_append, List.mem_flatMap, List.mem_flatMap]
    rintro (⟨i, -, hx⟩ | ⟨i, -, hx⟩)
    · cases fieldOf?_of_mem_fieldSpots hx
    · cases fieldOf?_of_mem_referenceSpots hx
  · intro x hx hx'
    obtain ⟨i, -, hx⟩ := List.mem_flatMap.mp hx
    obtain ⟨j, -, hx'⟩ := List.mem_flatMap.mp hx'
    obtain ⟨k, -, rfl⟩ := List.mem_map.mp hx'
    simp [fieldSpots] at hx

/-! ## The checks look at every spot -/

theorem toList_ite {α : Type} (c : Prop) [Decidable c] (a : α) :
    (if c then some a else none).toList = if c then [a] else [] := by
  split <;> rfl

theorem map_echoes {β : Type} (g : Value → β) (vs : List Value) :
    (echoes [] vs).map g = (List.range vs.length).flatMap fun k =>
      (vs[k]?.bind fun v => if v.isAmong (vs.take k) then some (g v) else none).toList := by
  rw [flatMap_positions echoes (fun earlier v => if v.isAmong earlier then [v] else [])
    (fun _ => rfl) (fun _ _ _ => rfl), List.map_flatMap]
  refine List.flatMap_congr fun k _ => ?_
  cases vs[k]? with
  | none => rfl
  | some v =>
    simp only [Option.map_some, Option.getD_some, List.nil_append, Option.bind_some, toList_ite]
    split <;> rfl

/-- The issues of a field's kind and options are those at their spots. -/
theorem optionIssues_eq (hf : form.fields[i]? = some f) :
    optionIssues i f = (form.issueAt? (.kind i)).toList ++ (form.issueAt? (.options i)).toList
      ++ (List.range f.choices.length).flatMap fun k => (form.issueAt? (.option i k)).toList := by
  have hechoes : repeatedValues [] f.choices = echoes [] f.choices :=
    repeatedValues_eq_echoes (fun _ => rfl) f.choices
  rw [optionIssues]
  simp only [issueAt?, hf, Option.bind_some, toList_ite]
  split
  · rename_i hkind
    simp only [hkind, reduceCtorEq, ↓reduceIte, true_and, true_or, List.nil_append]
    split
    · rename_i hempty
      simp [List.isEmpty_iff.mp hempty]
    · rw [hechoes, map_echoes, List.nil_append]
  · rename_i hkind
    simp only [hkind, reduceCtorEq, Option.some.injEq, ↓reduceIte, false_and, or_true,
      List.nil_append]
    rw [hechoes, map_echoes]
  · rename_i kind hselect hcheckbox hkind
    have hs : kind ≠ .select := fun h => hselect h
    have hc : kind ≠ .checkbox := fun h => hcheckbox h
    simp [hkind, hs, hc]
  · rename_i hkind
    simp [hkind]

theorem fieldSpots_issues (hf : form.fields[i]? = some f) :
    (form.fieldSpots i).filterMap form.issueAt? =
      (if (form.fields.take i).any (·.id == f.id) then [.duplicateId i f.id] else [])
        ++ (if (form.fields.take i).any (·.name == f.name) then [.duplicateName i f.name] else [])
        ++ optionIssues i f := by
  rw [optionIssues_eq hf, List.filterMap_eq_flatMap_toList, fieldSpots, hf, List.flatMap_append,
    List.flatMap_map]
  simp only [List.flatMap_cons, List.flatMap_nil, List.append_nil, List.append_assoc,
    Option.map_some, Option.getD_some]
  congr 1
  · rw [issueAt?, hf, Option.bind_some, toList_ite]
  · congr 1
    rw [issueAt?, hf, Option.bind_some, toList_ite]

theorem fieldIssues_eq (form : Form) :
    fieldIssues [] form.fields =
      (List.range form.fields.length).flatMap fun i =>
        (form.fieldSpots i).filterMap form.issueAt? := by
  rw [flatMap_positions fieldIssues (fun before f =>
    (if before.any (·.id == f.id) then [.duplicateId before.length f.id] else [])
      ++ (if before.any (·.name == f.name) then [.duplicateName before.length f.name] else [])
      ++ optionIssues before.length f) (fun _ => rfl) (fun _ _ _ => rfl)]
  refine List.flatMap_congr fun i hi => ?_
  have hi : i < form.fields.length := List.mem_range.mp hi
  have hf : form.fields[i]? = some form.fields[i] := List.getElem?_eq_getElem hi
  rw [fieldSpots_issues hf, hf, Option.map_some, Option.getD_some, List.nil_append,
    List.length_take_of_le (Nat.le_of_lt hi)]

/-- The references of a field that lead nowhere, each told by an issue. -/
def danglingAt (fields : List Field) (f : Field) (i : Nat) : List Issue :=
  (f.references.filter fun r => !fields.any (·.id == r)).map (.danglingReference i f.id)

theorem referenceSpots_issues (hf : form.fields[i]? = some f) :
    (form.referenceSpots i).filterMap form.issueAt? = danglingAt form.fields f i := by
  have hissue : ∀ p ∈ f.testPlaces, (form.issueAt? ∘ fun p => .reference i p.1) p =
      if form.fields.any (·.id == p.2) then none else some (.danglingReference i f.id p.2) := by
    intro p hp
    rw [Function.comp_apply, issueAt?, hf, Option.bind_some, lookup_of_mem f.nodup_testPlaces hp,
      Option.bind_some]
  rw [referenceSpots, hf, Option.map_some, Option.getD_some, List.filterMap_map,
    List.filterMap_congr hissue, danglingAt, ← f.map_snd_testPlaces]
  induction f.testPlaces with
  | nil => rfl
  | cons p ps ih =>
    rw [List.filterMap_cons, List.map_cons, List.filter_cons, ih]
    cases form.fields.any (·.id == p.2) <;> rfl

theorem danglingIssues_eq (form : Form) :
    danglingIssues form.fields =
      (List.range form.fields.length).flatMap fun i =>
        (form.referenceSpots i).filterMap form.issueAt? := by
  have hpositions := flatMap_positions
    (fun before fs => (fs.zipIdx before.length).flatMap fun p => danglingAt form.fields p.1 p.2)
    (fun before f => danglingAt form.fields f before.length)
    (fun _ => rfl) (fun before f fs => ?_) [] form.fields
  · refine hpositions.trans (List.flatMap_congr fun i hi => ?_)
    have hi : i < form.fields.length := List.mem_range.mp hi
    have hf : form.fields[i]? = some form.fields[i] := List.getElem?_eq_getElem hi
    rw [referenceSpots_issues hf, hf, Option.map_some, Option.getD_some, List.nil_append,
      List.length_take_of_le (Nat.le_of_lt hi)]
  · rw [List.zipIdx_cons, List.flatMap_cons, List.length_append, List.length_singleton]

/-- The issues of a form are those at its spots, and the cycles. -/
theorem allIssues_eq_spots (form : Form) :
    form.allIssues = form.spots.filterMap form.issueAt?
      ++ cycleIssues form.fields (findCycles form.fields) := by
  have hversion : versionIssues form.version = (form.issueAt? .version).toList := by
    rw [issueAt?, toList_ite]
    rfl
  rw [allIssues, fieldIssues_eq, danglingIssues_eq, hversion, spots,
    List.filterMap_eq_flatMap_toList (l := _ :: _), List.flatMap_cons, List.flatMap_append,
    ← List.filterMap_eq_flatMap_toList, ← List.filterMap_eq_flatMap_toList,
    List.filterMap_flatMap, List.filterMap_flatMap]
  simp only [List.append_assoc]

/-- The flaws of a form with their issues, in the order of the checks. -/
def flaws (form : Form) : List (Flaw × Issue) :=
  form.spots.filterMap fun x => (form.issueAt? x).map (x, ·)

theorem mem_flaws_iff {x : Flaw} {e : Issue} : (x, e) ∈ form.flaws ↔ form.Flawed x e := by
  rw [flaws, List.mem_filterMap]
  constructor
  · rintro ⟨y, -, hy⟩
    obtain ⟨e', he', heq⟩ := Option.map_eq_some_iff.mp hy
    injection heq with hx he
    exact flawed_of_issueAt? (hx ▸ he ▸ he')
  · intro h
    exact ⟨x, mem_spots_of_flawed h, by rw [issueAt?_of_flawed h]; rfl⟩

theorem nodup_flaws (form : Form) : (form.flaws.map Prod.fst).Nodup := by
  refine form.nodup_spots.sublist ?_
  rw [flaws]
  induction form.spots with
  | nil => exact .slnil
  | cons x xs ih =>
    rw [List.filterMap_cons]
    cases form.issueAt? x with
    | none => exact ih.cons x
    | some e => exact ih.cons_cons x

theorem map_snd_flaws (form : Form) :
    form.flaws.map Prod.snd = form.spots.filterMap form.issueAt? := by
  rw [flaws, List.map_filterMap]
  refine List.filterMap_congr fun x _ => ?_
  cases form.issueAt? x <;> rfl

theorem allIssues_eq_flaws (form : Form) :
    form.allIssues = form.flaws.map Prod.snd
      ++ cycleIssues form.fields (findCycles form.fields) := by
  rw [allIssues_eq_spots, map_snd_flaws]

/-- An issue has the code and the place of its flaw. -/
theorem Flawed.told {x : Flaw} {e : Issue} (h : form.Flawed x e) :
    e.code = x.code ∧ e.place = x.place := by
  cases h with
  | version _ => exact ⟨rfl, rfl⟩
  | _ => exact ⟨rfl, String.append_assoc ..⟩

/-! ## What can be told -/

/-- Only the message of an option that is there twice can be too long. -/
theorem all_canBeTold_iff : form.allIssues.all Issue.canBeTold = true ↔ form.Tellable := by
  rw [List.all_eq_true, allIssues_eq_flaws]
  constructor
  · intro h i k id v hflawed
    have hmem := List.mem_map_of_mem (f := Prod.snd) (mem_flaws_iff.mpr hflawed)
    exact Value.hasShortIntegers_iff.mp (h _ (List.mem_append_left _ hmem))
  · intro h e he
    rcases List.mem_append.mp he with he | he
    · obtain ⟨⟨x, e⟩, hxe, rfl⟩ := List.mem_map.mp he
      have hflawed := mem_flaws_iff.mp hxe
      cases hflawed with
      | option hf hkind hv hj hw heq =>
        exact Value.hasShortIntegers_iff.mpr (h _ _ _ _ (.option hf hkind hv hj hw heq))
      | _ => rfl
    · obtain ⟨c, -, rfl⟩ := List.mem_map.mp he
      rfl

/-- Where all choices are short there is no such option. -/
theorem tellable_of_short (h : ∀ f ∈ form.fields, ∀ c ∈ f.choices, c.Short) : form.Tellable := by
  intro i k id v hflawed
  cases hflawed with
  | option hf _ hv => exact h _ (List.mem_of_getElem? hf) v (List.mem_of_getElem? hv)

theorem issues_eq_ok_iff {issues : List Issue} :
    form.issues = .ok issues ↔ form.Tellable ∧ issues = form.allIssues := by
  rw [Form.issues, ← all_canBeTold_iff]
  cases form.allIssues.all Issue.canBeTold <;> simp [eq_comm]

/-! ## What the checks report -/

theorem flaws_eq_nil_iff : form.flaws = [] ↔ ∀ x e, ¬ form.Flawed x e := by
  rw [List.eq_nil_iff_forall_not_mem]
  constructor
  · exact fun h x e hflawed => h (x, e) (mem_flaws_iff.mpr hflawed)
  · exact fun h ⟨x, e⟩ hmem => h x e (mem_flaws_iff.mp hmem)

theorem WellFormed.tellable (h : form.WellFormed) : form.Tellable :=
  fun _ _ _ _ hflawed => absurd hflawed (h.1 _ _)

/-- A form has issues of circular references exactly where it has a circuit. -/
theorem exists_circular_iff :
    (∃ e ∈ form.allIssues, e.code = "CIRCULAR_REFERENCE") ↔
      ∃ walk, Circuit (Refers form.fields) walk := by
  rw [allIssues_eq_flaws]
  constructor
  · rintro ⟨e, he, hcode⟩
    rw [List.mem_append, List.mem_map] at he
    rcases he with ⟨⟨x, e⟩, hxe, rfl⟩ | he
    · rw [(mem_flaws_iff.mp hxe).told.1] at hcode
      exact absurd hcode x.code_ne
    · obtain ⟨c, hc, -⟩ := List.mem_map.mp he
      exact ⟨c, circuit_of_loop (loop_of_mem_findCycles hc)⟩
  · rintro ⟨walk, hw⟩
    obtain ⟨c, hc, -⟩ := exists_closing_of_circuit hw
    exact ⟨_, List.mem_append_right _ (List.mem_map_of_mem hc), rfl⟩

/-- What the check answers, by the cycles and the flaws, where all of these can be told. -/
theorem check_of_tellable (h : form.Tellable) :
    form.check =
      match findCycles form.fields with
      | c :: _ => .error (.refused (.circular c form.allIssues))
      | [] => if form.flaws = [] then .ok () else .error (.refused (.invalid form.allIssues)) := by
  rw [check, issues_eq_ok_iff.mpr ⟨h, rfl⟩]
  simp only [Except.mapError, bind, Except.bind]
  cases hcycles : findCycles form.fields with
  | cons c cs => rfl
  | nil => simp [allIssues_eq_flaws, hcycles, cycleIssues]

theorem check_of_not_tellable (h : ¬ form.Tellable) : form.check = .error .longInteger := by
  rw [← all_canBeTold_iff] at h
  rw [check, issues, if_neg h]
  rfl

theorem check_longInteger_iff : form.check = .error .longInteger ↔ ¬ form.Tellable := by
  refine ⟨fun hcheck h => ?_, check_of_not_tellable⟩
  rw [check_of_tellable h] at hcheck
  cases hcycles : findCycles form.fields <;> simp only [hcycles] at hcheck
  · split at hcheck <;> cases hcheck
  · cases hcheck

theorem check_ok_iff : form.check = .ok () ↔ form.WellFormed := by
  by_cases htell : form.Tellable
  · rw [WellFormed, ← flaws_eq_nil_iff, ← findCycles_eq_nil_iff, check_of_tellable htell]
    cases findCycles form.fields with
    | cons c cs => simp
    | nil => by_cases h : form.flaws = [] <;> simp [h]
  · rw [check_of_not_tellable htell]
    exact iff_of_false nofun fun h => htell h.tellable

theorem check_circular_iff :
    (∃ c issues, form.issues = .ok issues ∧ form.check = .error (.refused (.circular c issues))) ↔
      form.Tellable ∧ ∃ walk, Circuit (Refers form.fields) walk := by
  have hnil : (∃ walk, Circuit (Refers form.fields) walk) ↔ findCycles form.fields ≠ [] := by
    rw [ne_eq, findCycles_eq_nil_iff, Acyclic, not_forall_not]
  rw [hnil]
  simp only [issues_eq_ok_iff]
  by_cases htell : form.Tellable
  · rw [check_of_tellable htell]
    cases findCycles form.fields with
    | cons c cs => simp [htell]
    | nil => by_cases h : form.flaws = [] <;> simp [h]
  · simp [htell]

theorem check_invalid_iff :
    (∃ issues, form.issues = .ok issues ∧ form.check = .error (.refused (.invalid issues))) ↔
      form.Tellable ∧ Acyclic (Refers form.fields) ∧ ∃ x e, form.Flawed x e := by
  have hflaws : (∃ x e, form.Flawed x e) ↔ form.flaws ≠ [] := by
    rw [ne_eq, flaws_eq_nil_iff]
    push Not
    rfl
  rw [hflaws, ← findCycles_eq_nil_iff]
  simp only [issues_eq_ok_iff]
  by_cases htell : form.Tellable
  · rw [check_of_tellable htell]
    cases findCycles form.fields with
    | cons c cs => simp
    | nil => by_cases h : form.flaws = [] <;> simp [h, htell]
  · simp [htell]

/-- The issues of a form are its flaws, each once, with the cycles behind them, and the check refuses
circular references before anything else, exactly if every issue can be told. Otherwise nothing is
reported, and the form is neither accepted nor refused. -/
theorem check_exact (form : Form) :
    (∃ flaws : List (Flaw × Issue),
      (flaws.map Prod.fst).Nodup ∧
      (∀ x e, (x, e) ∈ flaws ↔ form.Flawed x e) ∧
      (∀ flaw ∈ flaws, flaw.2.code = flaw.1.code ∧ flaw.2.place = flaw.1.place) ∧
      ∀ issues, form.issues = .ok issues ↔ form.Tellable ∧
        issues = flaws.map Prod.snd ++ cycleIssues form.fields (findCycles form.fields)) ∧
    ((∃ issues, form.issues = .ok issues ∧ ∃ e ∈ issues, e.code = "CIRCULAR_REFERENCE") ↔
      form.Tellable ∧ ∃ walk, Circuit (Refers form.fields) walk) ∧
    (form.check = .ok () ↔ form.WellFormed) ∧
    ((∃ c issues, form.issues = .ok issues ∧
      form.check = .error (.refused (.circular c issues))) ↔
      form.Tellable ∧ ∃ walk, Circuit (Refers form.fields) walk) ∧
    ((∃ issues, form.issues = .ok issues ∧ form.check = .error (.refused (.invalid issues))) ↔
      form.Tellable ∧ Acyclic (Refers form.fields) ∧ ∃ x e, form.Flawed x e) ∧
    (form.check = .error .longInteger ↔ ¬ form.Tellable) := by
  refine ⟨⟨form.flaws, form.nodup_flaws, fun _ _ => mem_flaws_iff, ?_, fun issues => ?_⟩, ?_,
    check_ok_iff, check_circular_iff, check_invalid_iff, check_longInteger_iff⟩
  · rintro ⟨x, e⟩ h
    exact (mem_flaws_iff.mp h).told
  · rw [issues_eq_ok_iff, allIssues_eq_flaws]
  · simp only [issues_eq_ok_iff, ← exists_circular_iff]
    constructor
    · rintro ⟨_, ⟨htell, rfl⟩, hcircular⟩
      exact ⟨htell, hcircular⟩
    · rintro ⟨htell, hcircular⟩
      exact ⟨_, ⟨htell, rfl⟩, hcircular⟩

/-- A select that has one option twice, whose value is too long to be written. -/
theorem long_option_untold :
    let f : Field := ⟨"c", "color", "select", "Color", false, none,
      some [⟨"Red", Value.long⟩, ⟨"Blue", Value.long⟩], none, none, false⟩
    let form : Form := ⟨"1", [f]⟩
    form.Flawed (.option 0 1) (.duplicateOption 0 "c" Value.long) ∧
      (∀ issues, form.issues ≠ .ok issues) ∧ form.check = .error .longInteger := by
  intro f form
  have hflawed : form.Flawed (.option 0 1) (.duplicateOption 0 "c" Value.long) :=
    .option (f := f) (j := 0) rfl (.inl rfl) rfl (by decide) rfl Value.strictEq_long
  have htell : ¬ form.Tellable := fun h => Value.not_short_long (h _ _ _ _ hflawed)
  exact ⟨hflawed, fun issues h => htell (issues_eq_ok_iff.mp h).1, check_of_not_tellable htell⟩

end Form

end Formwork
