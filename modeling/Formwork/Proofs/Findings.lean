import Formwork.Proofs.Acceptance
import Formwork.Proofs.Naming
import Mathlib

/-!
# What a validator finds

A validator has one item for each field of its form, in the order of the fields. On a submission
every item makes its finding from the entry under its own key, and the answer is read off the
findings: `Validator.Finds` says which findings belong to a submission. There is an answer where every
item can tell what it makes of its entry. The names of a form that passes its check are different, so
that what is told under a name is told by one finding.
-/

namespace Formwork

variable {form : Form} {f : Field} {item : Item} {hash : Option String} {v : Validator}
variable {locale : Locale} {today : Date} {entries : List (String × Value)}

/-! ## Items -/

theorem ofField_eq_ok_iff :
    Item.ofField f = .ok item ↔ ∃ kind, f.kind? = some kind ∧ item = ⟨f, .ofKind f kind⟩ := by
  rw [Item.ofField, Field.knownKind]
  cases f.kind? with
  | none => simp [Except.map]
  | some kind => simp [Except.map, eq_comm]

theorem items_of_build (h : Validator.build form hash = .ok v) :
    form.fields.mapM Item.ofField = .ok v.items := by
  unfold Validator.build Validator.named at h
  obtain ⟨items, hitems, h⟩ := bind_eq_ok_iff.mp h
  obtain ⟨name, -, h⟩ := bind_eq_ok_iff.mp h
  injection h with h
  rw [← h]
  exact mapError_eq_ok_iff.mp hitems

/-- The items of a validator are those of the fields of its form. -/
theorem fields_of_build (h : Validator.build form hash = .ok v) :
    v.items.map Item.field = form.fields := by
  rw [map_mapM (k := id) (fun f item hitem => ?_) (items_of_build h), List.map_id]
  obtain ⟨kind, -, rfl⟩ := ofField_eq_ok_iff.mp hitem
  rfl

theorem keys_of_build (h : Validator.build form hash = .ok v) :
    v.items.map Item.key = form.fields.map Field.name := by
  rw [← fields_of_build h, List.map_map]
  rfl

theorem exists_item (h : Validator.build form hash = .ok v) (hf : f ∈ form.fields) :
    ∃ item ∈ v.items, item.field = f := by
  rw [← fields_of_build h] at hf
  exact List.mem_map.mp hf

theorem field_mem_of_item (h : Validator.build form hash = .ok v) (hitem : item ∈ v.items) :
    item.field ∈ form.fields := by
  rw [← fields_of_build h]
  exact List.mem_map_of_mem hitem

/-- What an item expects is what its field does, whose kind is known. -/
theorem content_of_item (h : Validator.build form hash = .ok v) (hitem : item ∈ v.items) :
    ∃ kind, item.field.kind? = some kind ∧ item.content = .ofKind item.field kind := by
  obtain ⟨f, -, hf⟩ := exists_of_mem_mapM (items_of_build h) hitem
  obtain ⟨kind, hkind, rfl⟩ := ofField_eq_ok_iff.mp hf
  exact ⟨kind, hkind, rfl⟩

/-- The kind of every field of a form with a validator is known. -/
theorem exists_kind (h : Validator.build form hash = .ok v) (hf : f ∈ form.fields) :
    ∃ kind, f.kind? = some kind := by
  obtain ⟨item, hitem, rfl⟩ := exists_item h hf
  obtain ⟨kind, hkind, -⟩ := content_of_item h hitem
  exact ⟨kind, hkind⟩

/-! ## Different names -/

/-- No two fields of a form that passes its check have one name. -/
theorem nodup_names (hcheck : form.check = .ok ()) : (form.fields.map Field.name).Nodup := by
  have hflaw := (Form.check_ok_iff.mp hcheck).1
  rw [List.nodup_iff_pairwise_ne, List.pairwise_map, List.pairwise_iff_getElem]
  intro i j hi hj hij hname
  have hfi : form.fields[i]? = some form.fields[i] := List.getElem?_eq_getElem hi
  have hfj : form.fields[j]? = some form.fields[j] := List.getElem?_eq_getElem hj
  exact hflaw _ _ (.name hfj hij hfi hname)

theorem nodup_keys (hcheck : form.check = .ok ()) (h : Validator.build form hash = .ok v) :
    (v.items.map Item.key).Nodup := by
  rw [keys_of_build h]
  exact nodup_names hcheck

/-! ## Findings -/

namespace Validator

/-- The value that a finding keeps, if any. -/
def value? (x : Finding) : Option Value := x.2.toOption.join

/-- The violation that a finding tells, if any. -/
def violation? (x : Finding) : Option Violation :=
  match x.2 with
  | .ok _ => none
  | .error e => some e

theorem value?_eq_some_iff {x : Finding} {w : Value} : value? x = some w ↔ x.2 = .ok (some w) := by
  obtain ⟨item, r⟩ := x
  rcases r with e | (_ | _) <;> simp [value?, Except.toOption]

theorem violation?_eq_some_iff {x : Finding} {e : Violation} :
    violation? x = some e ↔ x.2 = .error e := by
  obtain ⟨item, r⟩ := x
  cases r <;> simp [violation?]

/-- The findings of a validator on a submission, one for each item. -/
structure Finds (v : Validator) (today : Date) (entries : List (String × Value))
    (findings : List Finding) : Prop where
  items : findings.map Prod.fst = v.items
  accept : ∀ x ∈ findings, x.1.accept today (entries.lookup x.1.key) = .ok x.2
  told : ∀ x ∈ findings, ∀ e, x.2 = .error e → e.canBeTold = true

variable {findings : List Finding} {o : Outcome} {data : List (String × Value)}
variable {k : String} {w : Value}

/-- An item has a finding where it accepts or refuses its entry and can tell the violation. -/
theorem finding_eq_ok_iff {x : Finding} :
    finding today entries item = .ok x ↔
      x.1 = item ∧ item.accept today (entries.lookup item.key) = .ok x.2 ∧
        ∀ e, x.2 = .error e → e.canBeTold = true := by
  rw [finding, bind_eq_ok_iff]
  constructor
  · rintro ⟨r, hr, h⟩
    split at h
    · split at h
      · rename_i htold
        cases h
        exact ⟨rfl, hr, fun e he => Except.error.inj he ▸ htold⟩
      · cases h
    · cases h
      exact ⟨rfl, hr, nofun⟩
  · obtain ⟨_, r⟩ := x
    rintro ⟨rfl, hr, htold⟩
    refine ⟨r, hr, ?_⟩
    cases r with
    | error e => exact if_pos (htold e rfl)
    | ok o => rfl

theorem exists_finding_iff :
    (∃ x, finding today entries item = .ok x) ↔ item.Tells today (entries.lookup item.key) := by
  simp only [finding_eq_ok_iff, Item.tells_iff, Item.accept_eq_ok_iff_judge]
  constructor
  · rintro ⟨x, -, ⟨hjudge, -⟩, htold⟩
    exact ⟨x.2, hjudge, htold⟩
  · rintro ⟨r, hjudge, htold⟩
    exact ⟨(item, r), rfl, ⟨hjudge, fun choices hr => htold _ hr⟩, htold⟩

/-- A first item that neither accepts nor refuses its entry leaves the validator without an answer. -/
theorem validate_of_accept_error {name : String} {items : List Item} {e : Breakdown}
    (h : item.accept today (entries.lookup item.key) = .error e) :
    validate ⟨name, item :: items⟩ locale today (.object entries) = .error e := by
  have hfinding : finding today entries item = .error e := bind_eq_error_iff.mpr (.inl h)
  refine map_eq_error_iff.mpr ?_
  rw [List.mapM_cons]
  exact bind_eq_error_iff.mpr (.inl hfinding)

theorem mapM_finding_iff :
    v.items.mapM (finding today entries) = .ok findings ↔ v.Finds today entries findings := by
  constructor
  · intro h
    have hfound : ∀ x ∈ findings, finding today entries x.1 = .ok x := fun x hx => by
      obtain ⟨item, -, hitem⟩ := exists_of_mem_mapM h hx
      rwa [(finding_eq_ok_iff.mp hitem).1]
    refine ⟨?_, fun x hx => ?_, fun x hx => ?_⟩
    · rw [map_mapM (k := id) (fun item x hx => (finding_eq_ok_iff.mp hx).1) h, List.map_id]
    · exact (finding_eq_ok_iff.mp (hfound x hx)).2.1
    · exact (finding_eq_ok_iff.mp (hfound x hx)).2.2
  · intro h
    rw [← h.items, mapM_eq_ok_iff, List.forall₂_map_left_iff, List.forall₂_same]
    exact fun x hx => finding_eq_ok_iff.mpr ⟨rfl, h.accept x hx, h.told x hx⟩

/-- The answer to a submission is read off the findings. -/
theorem validate_eq_ok_iff :
    v.validate locale today (.object entries) = .ok o ↔
      ∃ findings, v.Finds today entries findings ∧ outcome locale findings = o := by
  rw [validate, map_eq_ok_iff]
  simp only [mapM_finding_iff]

/-- There is an answer where every item can tell what it makes of its entry. -/
theorem exists_answer_iff :
    (∃ o, v.validate locale today (.object entries) = .ok o) ↔
      ∀ item ∈ v.items, item.Tells today (entries.lookup item.key) := by
  rw [← forall₂_congr fun item _ => exists_finding_iff, ← exists_mapM_eq_ok_iff]
  simp [validate, map_eq_ok_iff]

theorem complaints_eq (locale : Locale) (findings : List Finding) :
    complaints locale findings =
      findings.filterMap fun x => (violation? x).map (complaint locale x.1) := by
  rw [complaints]
  congr 1
  funext ⟨item, r⟩
  cases r <;> rfl

/-- Items with different keys keep their values in their own order. -/
theorem kept_eq (hkeys : (findings.map fun x => x.1.key).Nodup) :
    kept findings = findings.filterMap fun x => (value? x).map (x.1.key, ·) := by
  have hfoldl : kept findings =
      (findings.filterMap fun x => (value? x).map (x.1.key, ·)).foldl
        (fun es e => putEntry es e.1 e.2) [] := by
    rw [List.foldl_filterMap, kept]
    congr 1
    funext data ⟨item, r⟩
    rcases r with e | (_ | w) <;> rfl
  rw [hfoldl, foldl_putEntry, List.nil_append]
  refine hkeys.sublist (map_filterMap_sublist fun x e he => ?_)
  obtain ⟨w, -, rfl⟩ := Option.map_eq_some_iff.mp he
  rfl

theorem Finds.keys (h : v.Finds today entries findings) :
    (findings.map fun x => x.1.key) = v.items.map Item.key := by
  rw [← h.items, List.map_map]
  rfl

theorem Finds.exists_finding (h : v.Finds today entries findings) (hitem : item ∈ v.items) :
    ∃ r, (item, r) ∈ findings := by
  rw [← h.items] at hitem
  obtain ⟨⟨_, r⟩, hx, rfl⟩ := List.mem_map.mp hitem
  exact ⟨r, hx⟩

theorem Finds.item_mem (h : v.Finds today entries findings) {x : Finding} (hx : x ∈ findings) :
    x.1 ∈ v.items := by
  rw [← h.items]
  exact List.mem_map_of_mem hx

/-- Under the key of an item is kept what its finding keeps. -/
theorem Finds.lookup_kept (h : v.Finds today entries findings)
    (hkeys : (v.items.map Item.key).Nodup) {x : Finding} (hx : x ∈ findings) :
    (kept findings).lookup x.1.key = value? x := by
  have hnodup : (findings.map fun x => x.1.key).Nodup := h.keys ▸ hkeys
  rw [kept_eq hnodup]
  exact lookup_filterMap hnodup hx

/-- What is kept is kept by the finding of some item. -/
theorem Finds.exists_of_mem_kept (h : v.Finds today entries findings)
    (hkeys : (v.items.map Item.key).Nodup) (hmem : (k, w) ∈ kept findings) :
    ∃ item ∈ v.items, item.key = k ∧
      item.accept today (entries.lookup k) = .ok (.ok (some w)) := by
  have hnodup : (findings.map fun x => x.1.key).Nodup := h.keys ▸ hkeys
  rw [kept_eq hnodup, List.mem_filterMap] at hmem
  obtain ⟨⟨item, r⟩, hx, hkw⟩ := hmem
  obtain ⟨w', hw', hkw⟩ := Option.map_eq_some_iff.mp hkw
  injection hkw with hk hw
  have hr : r = .ok (some w) := value?_eq_some_iff.mp (hw ▸ hw')
  refine ⟨item, h.item_mem hx, hk, ?_⟩
  rw [← hk, ← hr]
  exact h.accept _ hx

/-- A submission is accepted where no finding tells a violation. -/
theorem outcome_eq_accepted_iff :
    outcome locale findings = .accepted data ↔
      (∀ x ∈ findings, violation? x = none) ∧ kept findings = data := by
  have hnil : complaints locale findings = [] ↔ ∀ x ∈ findings, violation? x = none := by
    simp [complaints_eq, List.filterMap_eq_nil_iff]
  rw [← hnil, outcome]
  cases complaints locale findings <;> simp

end Validator

/-! ## A survey -/

/-- A form of an email address, a select of several choices, a date and a checkbox. -/
def survey : Form :=
  ⟨"1", [
    ⟨"e", "email", "text", "Email", true, none, none, none, none, false⟩,
    ⟨"c", "colors", "select", "Colors", true, none,
      some [⟨"Red", .text "red"⟩, ⟨"Blue", .text "blue"⟩], none, none, true⟩,
    ⟨"d", "day", "date", "Day", false, none, none, none, none, false⟩,
    ⟨"n", "news", "checkbox", "News", false, none, none, none, none, false⟩]⟩

def surveyItems : List Item :=
  List.zipWith Item.mk survey.fields
    [.text [.email], .selection [.text "red", .text "blue"], .date, .flag]

/-- What somebody entered. -/
def surveyEntries : List (String × Value) :=
  [("colors", .tuple [.text "blue"]), ("day", .date ⟨2024, 2, 12, by decide⟩),
    ("email", .text "a@b.de"), ("page", .int 1)]

/-- What is kept of it. -/
def surveyData : List (String × Value) :=
  [("email", .text "a@b.de"), ("colors", .list [.text "blue"]),
    ("day", .date ⟨2024, 2, 12, by decide⟩), ("news", .bool false)]

theorem check_survey : survey.check = .ok () := by cbv

theorem build_survey : ∃ hash, Validator.build survey none = .ok ⟨hash, surveyItems⟩ :=
  exists_build_of_items (by cbv) rfl

theorem fallback_survey : ∀ f ∈ survey.fields, f.fallback = none := by
  simp [survey]

theorem validate_survey (hash : String) (locale : Locale) (today : Date) :
    Validator.validate ⟨hash, surveyItems⟩ locale today (.object surveyEntries) =
      .ok (.accepted surveyData) := by cbv

end Formwork
